import ChallengeGame.Decimal.Shortest
import ChallengeGame.Metrics

/-!
# Text exposition of the metrics

One family after the other by name, each with a help line, a type line and its samples
by label values. A counter family without samples is left out.
-/

namespace ChallengeGame

structure Sample where
  labels : List (String × String)
  value : Nat

structure Family where
  name : String
  help : String
  type : String
  samples : List Sample

namespace Family

def labelText (labels : List (String × String)) : String :=
  if labels.isEmpty then ""
  else "\x7b" ++ ",".intercalate (labels.map fun label => label.1 ++ "=\"" ++ label.2 ++ "\"") ++ "\x7d"

def lines (family : Family) : List String :=
  ["# HELP " ++ family.name ++ " " ++ family.help, "# TYPE " ++ family.name ++ " " ++ family.type] ++
    family.samples.map fun sample =>
      family.name ++ labelText sample.labels ++ " " ++ Decimal.shortest sample.value

end Family

namespace Metrics

def actionSamples (metrics : Metrics) (kind : ActionKind) : List Sample :=
  (metrics.actions.get kind).samples.map fun sample =>
    ⟨[("action", kind.name), ("outcome", sample.1.name)], sample.2⟩

def actionFamily (metrics : Metrics) : Family :=
  ⟨"dac_actions_total", "Number of DA challenge actions by outcome", "counter",
    ActionKind.all.flatMap metrics.actionSamples⟩

def gaugeFamily (metrics : Metrics) : Family :=
  ⟨"dac_highest_acted_l1_block", "Highest L1 block number the challenger acted on", "gauge",
    [⟨[], metrics.highestActed⟩]⟩

def families (metrics : Metrics) : List Family :=
  [metrics.actionFamily, metrics.gaugeFamily].filter fun family => !family.samples.isEmpty

def exposition (metrics : Metrics) : String :=
  String.join ((metrics.families.flatMap Family.lines).map (· ++ "\n"))

end Metrics

end ChallengeGame
