import ChallengeGame.Rehearsal.Mailbox
import ChallengeGame.Script.Values

/-!
# Schedulers in scripts
-/

namespace ChallengeGame.Script

def endingOf (name : String) : Read Scheduler.Ending :=
  match name with
  | "submitted" => .ok .submitted
  | "skipped" => .ok .skipped
  | "failed" => .ok .failed
  | "panic" => .ok .panicked
  | other => .error ("unknown outcome " ++ other)

def asEndings (input : Document) : Read (List (UInt64 × Scheduler.Ending)) :=
  match present input "outcomes" with
  | some (.record fields) =>
    fields.mapM fun (job, ending) => do
      .ok (← asUInt64 (.text job), ← endingOf (← asText ending))
  | _ => .ok []

def asMailboxStep (step : Document) : Read Rehearsal.Mailbox.Step := do
  match ← text step "s" with
  | "schedule" => .ok (.schedule [← uint64 step "job"])
  | "burst" => .ok (.schedule (← list asUInt64 step "jobs"))
  | "start" => .ok .start
  | "close" => .ok .close
  | "release" => .ok (.release (← count step "n"))
  | "cancel" => .ok .cancel
  | other => .error ("unknown step " ++ other)

def talliesOut (tallies : List (ActionKind × Tally)) : Document :=
  .record (tallies.flatMap fun (kind, tally) =>
    tally.samples.map fun (result, count) => (kind.name ++ "." ++ result.name, .ofNat count))

def jobOut (job : UInt64) : Document := number job.toNat

def enqueuedOut : Scheduler.Enqueued → Document
  | .queued => .text "queued"
  | .dropped => .text "dropped"
  | .closed kind => failed "Closed" (Scheduler.closedMessage kind) []

def mailboxOut (kind : ActionKind) (mailbox : Rehearsal.Mailbox) : Document :=
  .record [
    ("results", .list (mailbox.results.map fun (job, result) =>
      .list [jobOut job, enqueuedOut result])),
    ("waiting", .list (mailbox.scheduler.waiting.map fun call => jobOut call.2)),
    ("started", .list (mailbox.executor.started.map jobOut)),
    ("finished", .list (mailbox.executor.finished.map jobOut)),
    ("metrics", talliesOut [(kind, mailbox.scheduler.tally)])]

def asPolicy (input : Document) : Read MailboxPolicy := do
  match ← text input "policy" with
  | "block" => .ok .block
  | "drop" => .ok .dropIfBusy
  | other => .error ("unknown policy " ++ other)

def policyOut : MailboxPolicy → Document
  | .block => .text "Block"
  | .dropIfBusy => .text "DropIfBusy"

end ChallengeGame.Script
