import ChallengeGame.Proofs.Bonding.Funds
import ChallengeGame.Proofs.TopUp

/-!
# Deposits land before their challenges

A challenge that needs a deposit is handed to the sender in one batch with it, and a submission
stops at the first failure. So nothing is sent after a deposit that has failed, and a challenge
finds the deposit of its run landed.
-/

namespace ChallengeGame.Bonding

open Contract (Call)
open Executor (Unfailing ToppedUp asked handed isHandover)
open Node (Confirmation Outgoing)
open Node.Submission (Landing Submits)

abbrev Exchange := Program.Exchange Query Query.Answer

abbrev sent (request : Outgoing) (reply : Except Failure Hash) : Exchange :=
  ⟨.submission (.send request), reply⟩

abbrev awaited (transaction : Hash) (confirmation : Confirmation) : Exchange :=
  ⟨.submission (.confirm transaction), confirmation⟩

def Exchange.ofCall (exchange : Program.Exchange Call Call.Reply) : Exchange :=
  ⟨.call exchange.query, exchange.answer⟩

def Exchange.ofSubmission (exchange : Node.Submission.Exchange) : Exchange :=
  ⟨.submission exchange.query, exchange.answer⟩

/-- Whenever a challenge is sent, the deposits of the run have just landed. -/
def DepositsFirst (setup : Setup) (trace : List Exchange) : Prop :=
  ∀ before challenge reply after, trace = before ++ sent challenge reply :: after →
    setup.effect challenge = .challenge →
    ∀ deposit value taken, setup.effect deposit = .deposit value → sent deposit taken ∈ trace →
      ∃ transaction receipt, taken = .ok transaction ∧ receipt.status? = some 1 ∧
        [sent deposit (.ok transaction), awaited transaction (.landed receipt)] <:+ before

def Setup.batch (setup : Setup) (posting : Posting) (value? : Option Word) : List Candidate :=
  (value?.map (setup.binding.candidate .deposit [])).toList ++
    [setup.binding.candidate .challenge (Contract.postingArguments posting) 0]

/-! ## What is sent -/

def Unsent (trace : List Exchange) : Prop := ∀ request reply, sent request reply ∉ trace

section
variable {setup : Setup} {posting : Posting} {request : Contract.Request} {purpose : String}
  {candidates : List Candidate} {reply : Except Failure Unit} {inner : List Executor.Exchange}
  {trace own calls : List Exchange} {result : Except Failure Outcome}

theorem unsent_of_contract {answer : request.Reply}
    (run : Program.Yields (setup.carryOut (.contract request)) own answer) : Unsent own := by
  obtain ⟨inner, -, carries⟩ := Program.yields_handle_iff.1 run
  have called : own = inner.map .ofCall := Program.carries_query_iff.1 carries
  subst called
  intro request reply mem
  obtain ⟨_, -, same⟩ := List.mem_map.1 mem
  cases same

theorem yields_submission_iff :
    Program.Yields (setup.carryOut (.submit purpose candidates)) own reply ↔
      ∃ inner, Submits setup.account purpose candidates inner reply ∧
        own = inner.map .ofSubmission := by
  refine Program.yields_handle_iff.trans (exists_congr fun inner => ?_)
  exact and_congr Node.Submission.yields_submit_iff Program.carries_query_iff

theorem unsent_of_carries (carries : Program.Carries setup.carryOut inner trace)
    (kept : ∀ exchange ∈ inner, isHandover exchange = false) : Unsent trace := by
  induction carries with
  | nil => exact fun _ _ => List.not_mem_nil
  | @cons query answer inner own rest handled carried ih =>
    obtain ⟨first, others⟩ := List.forall_mem_cons.1 kept
    intro request reply mem
    rcases List.mem_append.1 mem with mem | mem
    · cases query with
      | contract question => exact unsent_of_contract handled request reply mem
      | submit purpose candidates => cases first
    · exact ih others request reply mem

theorem Unsent.append {first second : List Exchange} (unsent : Unsent first)
    (others : Unsent second) : Unsent (first ++ second) := by
  intro request reply mem
  exact (List.mem_append.1 mem).elim (unsent request reply) (others request reply)

theorem unsent_readings {account : Address} {bondSize balance : Word}
    (carries : Program.Carries setup.carryOut
      (asked .bondSize (.ok bondSize) :: asked (.balance account) (.ok balance) :: inner) trace) :
    ∃ calls rest, trace = calls ++ rest ∧ Unsent calls ∧
      Program.Carries setup.carryOut inner rest := by
  obtain ⟨sizing, _, rfl, asking, others⟩ := Program.carries_cons_iff.1 carries
  obtain ⟨balancing, rest, rfl, again, after⟩ := Program.carries_cons_iff.1 others
  exact ⟨sizing ++ balancing, rest, by simp,
    (unsent_of_contract asking).append (unsent_of_contract again), after⟩

theorem carries_challenge {challenge : Candidate}
    (carries : Program.Carries setup.carryOut
      [asked (.challenge posting) (.ok challenge), handed purpose candidates reply] trace) :
    challenge = setup.binding.candidate .challenge (Contract.postingArguments posting) 0 ∧
      ∃ own, Submits setup.account purpose candidates own reply ∧ trace = own.map .ofSubmission := by
  obtain ⟨rfl, handing⟩ := (Executor.carries_made_iff rfl).1 carries
  obtain ⟨own, _, rfl, submission, nothing⟩ := Program.carries_cons_iff.1 handing
  rw [Program.carries_nil_iff.1 nothing, List.append_nil]
  exact ⟨rfl, yields_submission_iff.1 submission⟩

theorem sends_of_challenge
    (run : Program.Yields ((Executor.execute setup.account (.challenge posting)).handle
      setup.carryOut) trace result) :
    Unsent trace ∨ ∃ calls own value? reply, trace = calls ++ own.map .ofSubmission ∧
      Unsent calls ∧
      Submits setup.account "challenge da commitment" (setup.batch posting value?) own reply := by
  obtain ⟨inner, inside, carries⟩ := Program.yields_handle_iff.1 run
  by_cases kept : ∀ exchange ∈ inner, isHandover exchange = false
  · exact .inl (unsent_of_carries carries kept)
  · -- nothing is handed over after a failure, so all questions were answered
    push Not at kept
    obtain ⟨exchange, mem, handover⟩ := kept
    have unfailing : Unfailing inner := fun request error =>
      Executor.not_failed_of_isHandover inside mem (by simpa using handover)
    refine .inr ?_
    cases Executor.unfailing_challenge_iff.1 ⟨inside, unfailing⟩ with
    | covered reply enough =>
      obtain ⟨calls, rest, rfl, unsent, others⟩ := unsent_readings carries
      obtain ⟨rfl, own, submits, rfl⟩ := carries_challenge others
      exact ⟨calls, own, none, reply, rfl, unsent, submits⟩
    | @short _ _ value _ _ reply positive exactly =>
      obtain ⟨calls, rest, rfl, unsent, others⟩ := unsent_readings carries
      obtain ⟨rfl, after⟩ := (Executor.carries_made_iff rfl).1 others
      obtain ⟨rfl, own, submits, rfl⟩ := carries_challenge after
      exact ⟨calls, own, some value, reply, rfl, unsent, submits⟩

/-! ## Deposits and challenges -/

theorem batch_at {earlier later : List Candidate} {candidate : Candidate} {value? : Option Word}
    (split : setup.batch posting value? = earlier ++ candidate :: later) :
    candidate = setup.binding.candidate .challenge (Contract.postingArguments posting) 0 ∧
        earlier = (value?.map (setup.binding.candidate .deposit [])).toList ∨
      earlier = [] ∧ ∃ value, value? = some value ∧
        candidate = setup.binding.candidate .deposit [] value := by
  rcases append_at.1 split with ⟨_, first, -⟩ | ⟨own, rfl, second⟩
  · cases value? with
    | none => simp at first
    | some value =>
      cases earlier with
      | nil => exact .inr ⟨rfl, value, rfl, (List.cons.inj first).1.symm⟩
      | cons _ _ => simp at first
  · cases own with
    | nil => exact .inl ⟨(List.cons.inj second).1.symm, by simp⟩
    | cons _ _ => simp at second

theorem effect_of_requests {candidate : Candidate} {outgoing : Outgoing}
    (requests : Node.Requests setup.account candidate outgoing) :
    setup.effect outgoing = setup.effect (Node.outgoing setup.account candidate) := by
  rw [Node.requests_iff.1 requests]

/-- What is sent is sent by the submission that follows the calls. -/
theorem sent_at {inner : List Node.Submission.Exchange} {before after : List Exchange}
    {outgoing : Outgoing} {taken : Except Failure Hash} (unsent : Unsent calls)
    (split : calls ++ inner.map .ofSubmission = before ++ sent outgoing taken :: after) :
    ∃ earlier later, inner = earlier ++ Node.Submission.sent outgoing taken :: later ∧
      before = calls ++ earlier.map .ofSubmission := by
  rcases append_at.1 split with ⟨_, rfl, -⟩ | ⟨own, rfl, within⟩
  · exact absurd (by simp) (unsent outgoing taken)
  · obtain ⟨earlier, _, rfl, rfl, rest⟩ := List.map_eq_append_iff.1 within
    obtain ⟨⟨_, _⟩, later, rfl, same, -⟩ := List.map_eq_cons_iff.1 rest
    cases same
    exact ⟨earlier, later, rfl, rfl⟩

theorem depositsFirst_of_yields
    (run : Program.Yields ((Executor.execute setup.account (.challenge posting)).handle
      setup.carryOut) trace result) :
    DepositsFirst setup trace := by
  intro before challenge reply after split locks deposit value taken deposits mem
  obtain unsent | ⟨calls, own, value?, _, rfl, unsent, submits⟩ := sends_of_challenge run
  · exact absurd mem (unsent deposit taken)
  obtain ⟨earlier, later, rfl, rfl⟩ := sent_at unsent split
  obtain ⟨landings, challenging, _, batch, rfl, requested⟩ := submits.sent_at rfl
  rw [effect_of_requests requested] at locks
  rcases batch_at batch with ⟨rfl, earlier⟩ | ⟨-, _, -, rfl⟩
  · -- the deposit is the first of its batch, so it is what has landed
    obtain ⟨_, _, place⟩ := List.append_of_mem mem
    obtain ⟨_, _, first, -⟩ := sent_at unsent place
    obtain ⟨landed, depositing, _, again, rfl, asked⟩ := submits.sent_at first
    rw [effect_of_requests asked] at deposits
    rcases batch_at again with ⟨rfl, -⟩ | ⟨none, _, rfl, rfl⟩
    · rw [Setup.effect_challenge] at deposits
      cases deposits
    · obtain ⟨landing, rfl, -⟩ := List.map_eq_singleton_iff.1 earlier
      obtain rfl := List.map_eq_nil_iff.1 none
      obtain ⟨same, -⟩ := List.cons.inj first
      cases same
      exact ⟨landing.transaction, landing.receipt, rfl, landing.succeeded, calls, rfl⟩
  · rw [Setup.effect_deposit] at locks
    cases locks

end

/-- Whatever the node answers, a submission comes to its end, and its run is one of `Submits`. So a
challenge waits for its deposit. -/
theorem submitted_in_turn (setup : Setup) :
    (∀ sender purpose candidates script, ∃ trace result,
      Program.Yields (Node.submit sender purpose candidates) trace result ∧
        Program.Follows script trace) ∧
      (∀ sender purpose candidates trace result,
        Program.Yields (Node.submit sender purpose candidates) trace result ↔
          Submits sender purpose candidates trace result) ∧
      ∀ posting trace result,
        Program.Yields ((Executor.execute setup.account (.challenge posting)).handle setup.carryOut)
          trace result → DepositsFirst setup trace := by
  refine ⟨?_, ?_, ?_⟩
  · intro sender purpose candidates script
    exact Program.exists_yields_follows script _
  · intro sender purpose candidates trace result
    exact Node.Submission.yields_submit_iff
  · intro posting trace result
    exact depositsFirst_of_yields

namespace Sample

def lands (candidate : Candidate) (transaction : Hash) : Landing setup.account where
  candidate
  request := Node.outgoing setup.account candidate
  transaction
  receipt := ⟨some 1, 101⟩
  requests := Node.requests_iff.2 rfl
  succeeded := rfl

def called : List Exchange :=
  [⟨.call setup.bondSizeCall, .ok (Abi.encode [.word 100])⟩,
    ⟨.call setup.balanceCall, .ok (Abi.encode [.word 40])⟩]

def deposited : List Exchange := [sent (deposit 60) (.ok (hash 1)), awaited (hash 1) landed]

def challenged : List Exchange := [sent challenge (.ok (hash 2)), awaited (hash 2) landed]

theorem yields_topUp :
    Program.Yields ((Executor.execute setup.account (.challenge posting)).handle setup.carryOut)
      (called ++ deposited ++ challenged) (.ok .submitted) := by
  have sizing : Program.Yields (setup.carryOut (.contract .bondSize))
      [⟨.call setup.bondSizeCall, .ok (Abi.encode [.word 100])⟩] (.ok (100 : Word)) := by
    rw [carryOut_bondSize]
    exact Program.yields_ask.2 ⟨_, [], rfl, Program.yields_done.2 ⟨rfl, (wordOf_encode _ 100).symm⟩⟩
  have balancing : Program.Yields (setup.carryOut (.contract (.balance setup.account)))
      [⟨.call setup.balanceCall, .ok (Abi.encode [.word 40])⟩] (.ok (40 : Word)) := by
    rw [carryOut_balance]
    exact Program.yields_ask.2 ⟨_, [], rfl, Program.yields_done.2 ⟨rfl, (wordOf_encode _ 40).symm⟩⟩
  have submission : Program.Yields
      (setup.carryOut (.submit "challenge da commitment" (setup.batch posting (some 60))))
      (deposited ++ challenged) (.ok ()) :=
    yields_submission_iff.2 ⟨_, .done
      [lands (setup.binding.candidate .deposit [] 60) (hash 1),
        lands (setup.binding.candidate .challenge (Contract.postingArguments posting) 0) (hash 2)],
      rfl⟩
  have toppedUp : ToppedUp setup.account posting
      [asked .bondSize (.ok (100 : Word)), asked (.balance setup.account) (.ok (40 : Word)),
        asked (.deposit 60) (.ok _), asked (.challenge posting) (.ok _),
        handed "challenge da commitment" (setup.batch posting (some 60)) (.ok ())]
      (.ok .submitted) :=
    .short (.ok ()) (by decide) (by decide)
  have making : Program.Carries setup.carryOut
      [asked (.deposit 60) (.ok _), asked (.challenge posting) (.ok _),
        handed "challenge da commitment" (setup.batch posting (some 60)) (.ok ())]
      (deposited ++ challenged ++ []) :=
    (Executor.carries_made_iff rfl).2 ⟨rfl, (Executor.carries_made_iff rfl).2
      ⟨rfl, .cons submission .nil⟩⟩
  have carries := Program.Carries.cons sizing (.cons balancing making)
  exact Program.yields_handle_iff.2 ⟨_, (Executor.unfailing_challenge_iff.2 toppedUp).1, carries⟩

end Sample

theorem submitted_in_turn_topUp :
    Program.Yields ((Executor.execute Sample.setup.account (.challenge Sample.posting)).handle
        Sample.setup.carryOut)
      (Sample.called ++ Sample.deposited ++ Sample.challenged) (.ok .submitted) ∧
      ∃ transaction receipt, (.ok (Sample.hash 1) : Except Failure Hash) = .ok transaction ∧
        receipt.status? = some 1 ∧
        [sent (Sample.deposit 60) (.ok transaction), awaited transaction (.landed receipt)] <:+
          Sample.called ++ Sample.deposited := by
  have first : DepositsFirst Sample.setup
      (Sample.called ++ Sample.deposited ++ Sample.challenged) :=
    (submitted_in_turn Sample.setup).2.2 Sample.posting _ _ Sample.yields_topUp
  refine ⟨Sample.yields_topUp, ?_⟩
  exact first _ Sample.challenge _ _ rfl (Setup.effect_challenge _) (Sample.deposit 60) 60 _
    (Setup.effect_deposit _) (List.mem_append_left _ (List.mem_append_right _ List.mem_cons_self))

end ChallengeGame.Bonding
