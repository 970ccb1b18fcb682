import ChallengeGame.Node.Submission
import ChallengeGame.Proofs.Program
import ChallengeGame.Proofs.Trace

/-!
# Submissions stop at the first failure

A submission lands candidate after candidate: each is sent, taken up and found with status 1 before
the next one is sent. The first that does not come through ends it, and the error is about that one.
`Submits` tells all the runs there are.
-/

namespace ChallengeGame.Node

/-- The request says what the candidate says, and nothing that it leaves open. -/
structure Requests (sender : Address) (candidate : Candidate) (outgoing : Outgoing) : Prop where
  sender : outgoing.sender = sender
  data : outgoing.data = candidate.data
  value : outgoing.value = candidate.value
  destination : ∀ address, outgoing.to? = some address ↔ candidate.to? = some address
  gas : ∀ limit, outgoing.gasLimit? = some limit ↔ candidate.gasLimit = limit ∧ limit ≠ 0

theorem requests_iff {sender : Address} {candidate : Candidate} {request : Outgoing} :
    Requests sender candidate request ↔ request = outgoing sender candidate := by
  have gas (limit : UInt64) : (outgoing sender candidate).gasLimit? = some limit ↔
      candidate.gasLimit = limit ∧ limit ≠ 0 := by
    simp only [outgoing]
    split <;> grind
  constructor
  · rintro ⟨rfl, data, value, destination, limited⟩
    have destination : request.to? = candidate.to? := Option.ext destination
    have limit : request.gasLimit? = (outgoing request.sender candidate).gasLimit? :=
      Option.ext fun limit => (limited limit).trans (gas limit).symm
    cases request
    simp_all [outgoing]
  · rintro rfl
    exact ⟨rfl, rfl, rfl, fun _ => Iff.rfl, gas⟩

namespace Submission

abbrev Exchange := Program.Exchange SubmissionQuery SubmissionQuery.Answer

abbrev sent (request : Outgoing) (reply : Except Failure Hash) : Exchange := ⟨.send request, reply⟩

abbrev awaited (transaction : Hash) (confirmation : Confirmation) : Exchange :=
  ⟨.confirm transaction, confirmation⟩

@[simp] theorem sent_ne_awaited {request : Outgoing} {reply : Except Failure Hash}
    {transaction : Hash} {confirmation : Confirmation} :
    sent request reply ≠ awaited transaction confirmation := nofun

/-- A candidate whose transaction has landed with status 1. -/
structure Landing (sender : Address) where
  candidate : Candidate
  request : Outgoing
  transaction : Hash
  receipt : Receipt
  requests : Requests sender candidate request
  succeeded : receipt.status? = some 1

def Landing.exchanges {sender : Address} (landing : Landing sender) : List Exchange :=
  [sent landing.request (.ok landing.transaction),
    awaited landing.transaction (.landed landing.receipt)]

/-- What can go wrong with a request, and what is told about it. -/
inductive Mishap (purpose : String) (request : Outgoing) : List Exchange → Failure → Prop
  | refused (failure : Failure) :
    Mishap purpose request [sent request (.error failure)]
      (failure.under ("failed to send " ++ purpose ++ " transaction"))
  | unconfirmed (transaction : Hash) (failure : Failure) :
    Mishap purpose request [sent request (.ok transaction), awaited transaction (.failed failure)]
      (failure.under
        ("failed to confirm " ++ purpose ++ " transaction " ++ Hex.encode transaction.bytes))
  | dropped (transaction : Hash) :
    Mishap purpose request [sent request (.ok transaction), awaited transaction .dropped]
      ⟨purpose ++ " transaction " ++ Hex.encode transaction.bytes ++ " was dropped", []⟩
  | reverted (transaction : Hash) {receipt : Receipt} : receipt.status? ≠ some 1 →
    Mishap purpose request [sent request (.ok transaction), awaited transaction (.landed receipt)]
      ⟨purpose ++ " transaction " ++ Hex.encode transaction.bytes ++ " reverted", []⟩

/-- The runs of a submission: everything has landed, or something was the first that did not. -/
inductive Submits (sender : Address) (purpose : String) :
    List Candidate → List Exchange → Except Failure Unit → Prop
  | done (landings : List (Landing sender)) :
    Submits sender purpose (landings.map (·.candidate)) (landings.flatMap (·.exchanges)) (.ok ())
  | stopped (landings : List (Landing sender)) {candidate : Candidate} (unsent : List Candidate)
      {request : Outgoing} {own : List Exchange} {failure : Failure} :
    Requests sender candidate request → Mishap purpose request own failure →
    Submits sender purpose (landings.map (·.candidate) ++ candidate :: unsent)
      (landings.flatMap (·.exchanges) ++ own) (.error failure)

/-! ## One candidate -/

section
variable {sender : Address} {purpose : String} {candidate : Candidate} {rest : List Candidate}
  {trace own : List Exchange} {result : Except Failure Unit} {failure : Failure}

theorem confirmationFault?_eq_none_iff {transaction : Hash} {confirmation : Confirmation} :
    confirmationFault? purpose transaction confirmation = none ↔
      ∃ receipt, confirmation = .landed receipt ∧ receipt.status? = some 1 := by
  cases confirmation with
  | landed receipt => simp [confirmationFault?]
  | dropped => simp [confirmationFault?]
  | failed failure => simp [confirmationFault?]

theorem mishap_of_confirmationFault? {request : Outgoing} {transaction : Hash}
    {confirmation : Confirmation}
    (fault : confirmationFault? purpose transaction confirmation = some failure) :
    Mishap purpose request [sent request (.ok transaction), awaited transaction confirmation]
      failure := by
  cases confirmation with
  | landed receipt =>
    by_cases succeeded : receipt.status? = some 1
    · simp [confirmationFault?, succeeded] at fault
    · rw [confirmationFault?, if_neg succeeded] at fault
      cases fault
      exact .reverted transaction succeeded
  | dropped => cases fault; exact .dropped transaction
  | failed cause => cases fault; exact .unconfirmed transaction cause

theorem submit_cons : submit sender purpose (candidate :: rest) =
    .ask (.send (outgoing sender candidate)) fun (reply : Except Failure Hash) =>
      match reply with
      | .error failure =>
        .done (.error (failure.under ("failed to send " ++ purpose ++ " transaction")))
      | .ok transaction => .ask (.confirm transaction) fun (confirmation : Confirmation) =>
        match confirmationFault? purpose transaction confirmation with
        | some failure => .done (.error failure)
        | none => submit sender purpose rest := by
  refine congrArg (Program.ask _) (funext fun reply => ?_)
  cases reply <;> rfl

theorem yields_of_landing (landing : Landing sender)
    (run : Program.Yields (submit sender purpose rest) trace result) :
    Program.Yields (submit sender purpose (landing.candidate :: rest))
      (landing.exchanges ++ trace) result := by
  have fine : confirmationFault? purpose landing.transaction (.landed landing.receipt) = none :=
    confirmationFault?_eq_none_iff.2 ⟨landing.receipt, rfl, landing.succeeded⟩
  rw [submit_cons, Landing.exchanges, requests_iff.1 landing.requests]
  exact .ask (.ask (by rwa [fine]))

theorem yields_of_mishap (mishap : Mishap purpose (outgoing sender candidate) trace failure) :
    Program.Yields (submit sender purpose (candidate :: rest)) trace (.error failure) := by
  rw [submit_cons]
  cases mishap with
  | refused failure => exact .ask (.done _)
  | unconfirmed transaction failure => exact .ask (.ask (.done _))
  | dropped transaction => exact .ask (.ask (.done _))
  | reverted transaction failed =>
    refine .ask (.ask ?_)
    rw [confirmationFault?, if_neg failed]
    exact .done _

theorem yields_submit_cons :
    Program.Yields (submit sender purpose (candidate :: rest)) trace result ↔
      (∃ (landing : Landing sender) (later : List Exchange), landing.candidate = candidate ∧
        trace = landing.exchanges ++ later ∧
        Program.Yields (submit sender purpose rest) later result) ∨
      ∃ failure, Mishap purpose (outgoing sender candidate) trace failure ∧
        result = .error failure := by
  constructor
  · intro run
    rw [submit_cons] at run
    obtain ⟨reply, _, rfl, afterSend⟩ := Program.yields_ask.1 run
    cases reply with
    | error failure =>
      obtain ⟨rfl, rfl⟩ := Program.yields_done.1 afterSend
      exact .inr ⟨_, .refused failure, rfl⟩
    | ok transaction =>
      obtain ⟨confirmation, later, rfl, onward⟩ := Program.yields_ask.1 afterSend
      -- the next candidate has its turn only if nothing is wrong with this one
      cases fault : confirmationFault? purpose transaction confirmation with
      | some failure =>
        rw [fault] at onward
        obtain ⟨rfl, rfl⟩ := Program.yields_done.1 onward
        exact .inr ⟨failure, mishap_of_confirmationFault? fault, rfl⟩
      | none =>
        rw [fault] at onward
        obtain ⟨receipt, rfl, succeeded⟩ := confirmationFault?_eq_none_iff.1 fault
        exact .inl ⟨⟨candidate, _, transaction, receipt, requests_iff.2 rfl, succeeded⟩, later, rfl,
          rfl, onward⟩
  · rintro (⟨landing, later, rfl, rfl, run⟩ | ⟨failure, mishap, rfl⟩)
    · exact yields_of_landing landing run
    · exact yields_of_mishap mishap

theorem first_sent {first : Exchange} {others before after : List Exchange} {request : Outgoing}
    {reply : Except Failure Hash} (split : first :: others = before ++ sent request reply :: after)
    (unsent : ∀ request reply, sent request reply ∉ others) :
    before = [] ∧ first = sent request reply := by
  cases before with
  | nil => exact ⟨rfl, (List.cons.inj split).1⟩
  | cons _ before =>
    obtain ⟨-, rfl⟩ := List.cons.inj split
    exact absurd (List.mem_append_right before List.mem_cons_self) (unsent request reply)

theorem Landing.sent_at {landing : Landing sender} {before after : List Exchange}
    {request : Outgoing} {reply : Except Failure Hash}
    (split : landing.exchanges = before ++ sent request reply :: after) :
    before = [] ∧ request = landing.request := by
  obtain ⟨rfl, same⟩ := first_sent split (by simp)
  cases same
  exact ⟨rfl, rfl⟩

theorem Mishap.sent_at {before after : List Exchange} {request other : Outgoing}
    {reply : Except Failure Hash} (mishap : Mishap purpose request own failure)
    (split : own = before ++ sent other reply :: after) : before = [] ∧ other = request := by
  cases mishap with
  | refused _ | unconfirmed _ _ | dropped _ | reverted _ _ =>
    obtain ⟨rfl, same⟩ := first_sent split (by simp)
    cases same
    exact ⟨rfl, rfl⟩

/-! ## All candidates -/

theorem landing_at {landings : List (Landing sender)} {before after : List Exchange}
    {request : Outgoing} {reply : Except Failure Hash}
    (split : landings.flatMap (·.exchanges) = before ++ sent request reply :: after) :
    ∃ (landed : List (Landing sender)) (candidate : Candidate) (rest : List Candidate),
      landings.map (·.candidate) = landed.map (·.candidate) ++ candidate :: rest ∧
        before = landed.flatMap (·.exchanges) ∧ Requests sender candidate request := by
  obtain ⟨landed, landing, later, own, _, rfl, within, rfl, -⟩ := flatMap_at split
  obtain ⟨rfl, rfl⟩ := landing.sent_at within
  exact ⟨landed, landing.candidate, later.map (·.candidate), by simp, by simp, landing.requests⟩

theorem submits_of_yields {candidates : List Candidate}
    (run : Program.Yields (submit sender purpose candidates) trace result) :
    Submits sender purpose candidates trace result := by
  induction candidates generalizing trace with
  | nil =>
    obtain ⟨rfl, rfl⟩ := Program.yields_done.1 run
    exact .done []
  | cons candidate rest ih =>
    rcases yields_submit_cons.1 run with ⟨landing, later, rfl, rfl, onward⟩ | ⟨failure, mishap, rfl⟩
    · -- what has landed before the others goes on their list
      cases ih onward with
      | done landings => exact .done (landing :: landings)
      | stopped landings unsent requests mishap =>
        have all := Submits.stopped (landing :: landings) unsent requests mishap
        simpa using all
    · exact .stopped [] rest (requests_iff.2 rfl) mishap

theorem yields_of_submits {candidates : List Candidate}
    (submits : Submits sender purpose candidates trace result) :
    Program.Yields (submit sender purpose candidates) trace result := by
  cases submits with
  | done landings =>
    induction landings with
    | nil => exact .done _
    | cons landing landings ih => exact yields_of_landing landing ih
  | stopped landings unsent requests mishap =>
    induction landings with
    | nil =>
      rw [requests_iff.1 requests] at mishap
      exact yields_of_mishap mishap
    | cons landing landings ih => simpa using yields_of_landing landing ih

/-- Whenever something is sent, all that stands before it in the list has landed. -/
theorem Submits.sent_at {candidates : List Candidate} {before after : List Exchange}
    {request : Outgoing} {reply : Except Failure Hash}
    (submits : Submits sender purpose candidates trace result)
    (split : trace = before ++ sent request reply :: after) :
    ∃ (landings : List (Landing sender)) (candidate : Candidate) (unsent : List Candidate),
      candidates = landings.map (·.candidate) ++ candidate :: unsent ∧
        before = landings.flatMap (·.exchanges) ∧ Requests sender candidate request := by
  cases submits with
  | done landings => exact landing_at split
  | @stopped landings failed unsent _ _ _ requests mishap =>
    rcases append_at.1 split with ⟨rest, within, -⟩ | ⟨earlier, rfl, own⟩
    · obtain ⟨landed, candidate, others, same, rfl, requested⟩ := landing_at within
      exact ⟨landed, candidate, others ++ failed :: unsent, by simp [same], rfl, requested⟩
    · -- it is the request that did not come through
      obtain ⟨rfl, rfl⟩ := mishap.sent_at own
      exact ⟨landings, _, unsent, rfl, by simp, requests⟩

theorem yields_submit_iff {candidates : List Candidate} :
    Program.Yields (submit sender purpose candidates) trace result ↔
      Submits sender purpose candidates trace result :=
  ⟨submits_of_yields, yields_of_submits⟩

end

end Submission

end ChallengeGame.Node
