import ChallengeGame.Executor
import ChallengeGame.PerKind
import ChallengeGame.Scheduler

/-!
# The crew of a challenger

At most one scheduler for each kind of job. A commitment has a deadline, so challenges and
resolutions wait for their turn; unlocking and withdrawing are offered again at the next
head, so they give way.
-/

namespace ChallengeGame

def ActionKind.policy : ActionKind → MailboxPolicy
  | challenge => .block
  | resolve => .block
  | unlock => .dropIfBusy
  | withdraw => .dropIfBusy

abbrev Crew := PerKind (Option (Scheduler Job ExecutionQuery ExecutionQuery.Answer))

namespace Crew

abbrev Action := Scheduler.Action Job ExecutionQuery ExecutionQuery.Answer

def ending : Except Failure Outcome → Scheduler.Ending
  | .ok .submitted => .submitted
  | .ok .skipped => .skipped
  | .error _ => .failed

def setup (account : Address) (kind : ActionKind) :
    Scheduler.Setup Job ExecutionQuery ExecutionQuery.Answer where
  kind
  policy := kind.policy
  execute job := do
    let result ← Executor.execute account job
    pure (ending result)

def new (takes : ActionKind → Bool) : Crew :=
  PerKind.ofFn fun kind => if takes kind then some Scheduler.new else none

def takes (crew : Crew) (kind : ActionKind) : Bool := (crew.get kind).isSome

/-- The tallies of all kinds, zero where there is no member. -/
def tallies (crew : Crew) : PerKind Tally :=
  crew.map fun member? => (member?.map (·.tally)).getD Tally.zero

end Crew

end ChallengeGame
