import ChallengeGame.Node.Call
import ChallengeGame.Proofs.Executor
import Mathlib.Data.List.Infix

/-!
# Unlocking through a node

An unlock tries out the data that it would send. The reply of the node is classified on its way
through the call, the contract and the executor; `unlocks_faithful` says that from end to end bytes
lead to one submission of this very data, that a revert alone means that the bond is still locked,
and that everything else is an error after which nothing is sent.
-/

namespace ChallengeGame

open Contract (Binding Call CallError callData postingArguments)

/-! ## Replies to calls -/

namespace Node

/-- The reply holds bytes, whatever they are. -/
def Reply.HoldsBytes (reply : Reply) : Prop :=
  ∃ document output, reply = .result document ∧ document.bytes? = some output

/-- The node refused with the code of a revert, or its message speaks of one. -/
def Reply.Reverts (reply : Reply) : Prop :=
  ∃ code message, reply = .fault (.refused code message) ∧
    (code = 3 ∨ "revert".toList <:+: message.toList)

/-- What is told of a reply that is neither. -/
def Reply.complaint : Reply → Failure
  | .result _ => Fault.mistyped.failure
  | .fault found => found.failure

theorem contains_iff {part text : List Char} : contains part text = true ↔ part <:+: text := by
  induction text with
  | nil => rw [contains, List.isEmpty_iff, List.infix_nil]
  | cons c rest ih =>
    rw [contains, Bool.or_eq_true, List.isPrefixOf_iff_prefix, ih, List.infix_cons_iff]

theorem isRevert_iff {code : Int} {message : String} :
    isRevert code message = true ↔ code = 3 ∨ "revert".toList <:+: message.toList := by
  rw [isRevert, Bool.or_eq_true, beq_iff_eq, contains_iff]

variable {reply : Reply}

theorem callReply_eq_ok_iff {output : Bytes} : callReply reply = .ok output ↔
    ∃ document, reply = .result document ∧ document.bytes? = some output := by
  cases reply with
  | result document => cases held : document.bytes? <;> simp [callReply, Reply.read, held]
  | fault found =>
    refine iff_of_false ?_ nofun
    cases found with
    | refused code message => simp only [callReply, Reply.read]; split <;> simp
    | unreachable text => simp [callReply, Reply.read]
    | mistyped => simp [callReply, Reply.read]

theorem callReply_of_holdsBytes (holds : reply.HoldsBytes) : ∃ output, callReply reply = .ok output := by
  obtain ⟨document, output, told⟩ := holds
  exact ⟨output, callReply_eq_ok_iff.2 ⟨document, told⟩⟩

theorem callReply_of_reverts (reverts : reply.Reverts) :
    ∃ reason, callReply reply = .error (.revert reason) := by
  obtain ⟨code, message, rfl, told⟩ := reverts
  refine ⟨message, ?_⟩
  simp only [callReply, Reply.read, isRevert_iff.2 told, if_true]

theorem callReply_of_neither (noBytes : ¬ reply.HoldsBytes) (noRevert : ¬ reply.Reverts) :
    callReply reply = .error (.transport reply.complaint) := by
  cases reply with
  | result document =>
    have unread : document.bytes? = none :=
      Option.eq_none_iff_forall_ne_some.2 fun output read => noBytes ⟨document, output, rfl, read⟩
    simp only [callReply, Reply.read, unread, Reply.complaint]
  | fault found =>
    cases found with
    | refused code message =>
      have other : ¬ isRevert code message = true := fun told =>
        noRevert ⟨code, message, rfl, isRevert_iff.1 told⟩
      simp only [callReply, Reply.read, if_neg other, Reply.complaint]
    | unreachable text => rfl
    | mistyped => rfl

theorem Reply.Reverts.not_holdsBytes (reverts : reply.Reverts) : ¬ reply.HoldsBytes := by
  rintro ⟨document, output, rfl, _⟩
  obtain ⟨_, _, ⟨⟩, _⟩ := reverts

/-- The request is a read-only call at the latest block, with these fields and nothing else. -/
structure CallsLatest (request : Request) (account? : Option Address) (target : Address)
    (data : Bytes) : Prop where
  method : request.method = "eth_call"
  parameters : ∃ call, request.parameters = [call, .text "latest"] ∧
    call.field? "from" = account?.map (fun account => .bytes account.bytes) ∧
    call.field? "to" = some (.bytes target.bytes) ∧ call.field? "data" = some (.bytes data) ∧
    ∀ name, name ∉ ["type", "from", "to", "data"] → call.field? name = none

theorem field?_record_eq_none_iff {fields : List (String × Document)} {name : String} :
    (Document.record fields).field? name = none ↔ name ∉ fields.map (·.1) := by
  simp only [Document.field?, Option.map_eq_none_iff, List.find?_eq_none, List.mem_reverse,
    beq_iff_eq, List.mem_map, not_exists, not_and]

theorem callsLatest_callRequest (call : Call) :
    CallsLatest (callRequest call) call.account? call.target call.data where
  method := rfl
  parameters := by
    have fewer : ["type", "to", "data"] ⊆ ["type", "from", "to", "data"] := by decide
    refine ⟨_, rfl, ?_⟩
    cases call.account? with
    | none =>
      refine ⟨rfl, rfl, rfl, ?_⟩
      exact fun name other => field?_record_eq_none_iff.2 fun mem => other (fewer mem)
    | some account =>
      refine ⟨rfl, rfl, rfl, ?_⟩
      exact fun name other => field?_record_eq_none_iff.2 other

end Node

/-! ## Through the node -/

namespace Unlocking

/-- What leaves for the node or for the sender. -/
inductive Query where
  | request (request : Node.Request)
  | submit (purpose : String) (candidates : List Candidate)

def Query.Answer : Query → Type
  | request _ => Node.Reply
  | submit _ _ => Except Failure Unit

abbrev Outward := Program Query Query.Answer
abbrev Exchange := Program.Exchange Query Query.Answer

def throughNode (call : Call) : Outward call.Reply := do
  let reply ← Program.query (Query.request (Node.callRequest call))
  pure (Node.callReply reply)

def carryOut (binding : Binding) : (query : ExecutionQuery) → Outward query.Answer
  | .contract request => (binding.respond request).handle throughNode
  | .submit purpose candidates => Program.query (Query.submit purpose candidates)

def unlock (account : Address) (binding : Binding) (posting : Posting) :
    Outward (Except Failure Outcome) :=
  (Executor.execute account (.unlock posting)).handle (carryOut binding)

def validate (binding : Binding) (commitment : Bytes) : Outward (Except ContractError Bool) :=
  (binding.respond (.validate commitment)).handle throughNode

variable {account : Address} {binding : Binding} {posting : Posting} {commitment : Bytes}

def unlockData (posting : Posting) : Bytes := callData .unlockBond (postingArguments posting)

def validateData (commitment : Bytes) : Bytes :=
  callData .validateCommitment [.bytes commitment]

def trial (binding : Binding) (data : Bytes) : Node.Request :=
  Node.callRequest ⟨binding.account?, binding.address, data⟩

def afterSending : Except Failure Unit → Except Failure Outcome
  | .ok _ => .ok .submitted
  | .error failure => .error (failure.under "failed to unlock bond")

/-- The runs of an unlock. -/
inductive Unlocks (binding : Binding) (posting : Posting) :
    List Exchange → Except Failure Outcome → Prop
  | unlocked {reply : Node.Reply} (bytes : reply.HoldsBytes) (sent : Except Failure Unit) :
    Unlocks binding posting
      [⟨.request (trial binding (unlockData posting)), reply⟩,
        ⟨.submit "unlock bond" [⟨unlockData posting, some binding.address, 0, 0⟩], sent⟩]
      (afterSending sent)
  | locked {reply : Node.Reply} (reverts : reply.Reverts) :
    Unlocks binding posting [⟨.request (trial binding (unlockData posting)), reply⟩] (.ok .skipped)
  | failed {reply : Node.Reply} (noBytes : ¬ reply.HoldsBytes) (noRevert : ¬ reply.Reverts) :
    Unlocks binding posting [⟨.request (trial binding (unlockData posting)), reply⟩]
      (.error ((ContractError.call .unlockBond reply.complaint).failure.under
        "failed to create candidate unlock bond tx"))

/-- The runs of a question whether a commitment is well formed. -/
inductive Validates (binding : Binding) (commitment : Bytes) :
    List Exchange → Except ContractError Bool → Prop
  | valid {reply : Node.Reply} (bytes : reply.HoldsBytes) :
    Validates binding commitment [⟨.request (trial binding (validateData commitment)), reply⟩]
      (.ok true)
  | malformed {reply : Node.Reply} (reverts : reply.Reverts) :
    Validates binding commitment [⟨.request (trial binding (validateData commitment)), reply⟩]
      (.ok false)
  | failed {reply : Node.Reply} (noBytes : ¬ reply.HoldsBytes) (noRevert : ¬ reply.Reverts) :
    Validates binding commitment [⟨.request (trial binding (validateData commitment)), reply⟩]
      (.error (.call .validateCommitment reply.complaint))

/-! ## Programs that try something out -/

/-- What follows a call of which only the sort of its answer counts. -/
def weigh {β : Type} (fine reverted : β) (failed : Failure → β) : Except CallError Bytes → β
  | .ok _ => fine
  | .error (.revert _) => reverted
  | .error (.transport failure) => failed failure

def tried {α : Type} (request : Node.Request) (fine reverted : Outward α)
    (failed : Failure → Outward α) : Outward α :=
  .ask (.request request) fun (reply : Node.Reply) =>
    weigh fine reverted failed (Node.callReply reply)

theorem yields_tried_iff {α : Type} {request : Node.Request} {fine reverted : Outward α}
    {failed : Failure → Outward α} {trace : List Exchange} {result : α} :
    Program.Yields (tried request fine reverted failed) trace result ↔
      ∃ (reply : Node.Reply) (rest : List Exchange), trace = ⟨.request request, reply⟩ :: rest ∧
        (reply.HoldsBytes ∧ Program.Yields fine rest result ∨
          reply.Reverts ∧ Program.Yields reverted rest result ∨
          (¬ reply.HoldsBytes ∧ ¬ reply.Reverts) ∧
            Program.Yields (failed reply.complaint) rest result) := by
  refine Program.yields_ask.trans (exists₂_congr fun (reply : Node.Reply) rest =>
    and_congr_right' ?_)
  -- a reply is of one sort, which the call is heard to be of as well
  by_cases bytes : reply.HoldsBytes
  · obtain ⟨output, heard⟩ := Node.callReply_of_holdsBytes bytes
    simp [heard, weigh, bytes, mt Node.Reply.Reverts.not_holdsBytes (not_not.2 bytes)]
  · by_cases reverts : reply.Reverts
    · obtain ⟨reason, heard⟩ := Node.callReply_of_reverts reverts
      simp [heard, weigh, bytes, reverts]
    · simp [Node.callReply_of_neither bytes reverts, weigh, bytes, reverts]

theorem handle_call {method : Contract.Method} {data : Bytes} :
    (binding.call method data).handle throughNode = .ask (.request (trial binding data)) fun reply =>
      .done ((Node.callReply reply).mapError (Binding.errorOf method)) := rfl

theorem carryOut_unlockBond : carryOut binding (.contract (.unlockBond posting)) =
    .ask (.request (trial binding (unlockData posting))) fun reply =>
      .done (((Node.callReply reply).mapError (Binding.errorOf .unlockBond)).map fun _ =>
        binding.candidate .unlockBond (postingArguments posting) 0) := rfl

theorem unlock_eq : unlock account binding posting =
    tried (trial binding (unlockData posting))
      (.ask (.submit "unlock bond" [⟨unlockData posting, some binding.address, 0, 0⟩]) fun sent =>
        .done (afterSending sent))
      (.done (.ok .skipped))
      fun failure => .done (.error ((ContractError.call .unlockBond failure).failure.under
        "failed to create candidate unlock bond tx")) := by
  -- the reply passes the call, the contract and the executor, and its sort is all that is left
  rw [unlock, Executor.execute, Executor.run_unlock, Program.handle_bind, Executor.handle_ask,
    carryOut_unlockBond]
  refine congrArg (Program.ask _) (funext fun (reply : Node.Reply) => ?_)
  beta_reduce
  cases Node.callReply reply with
  | ok output =>
    refine congrArg (Program.ask _) (funext fun sent => ?_)
    cases sent <;> rfl
  | error error => cases error <;> rfl

theorem validate_eq : validate binding commitment =
    tried (trial binding (validateData commitment)) (.done (.ok true)) (.done (.ok false))
      fun failure => .done (.error (.call .validateCommitment failure)) := by
  refine (Program.handle_bind _ _).trans ?_
  rw [handle_call]
  refine congrArg (Program.ask _) (funext fun (reply : Node.Reply) => ?_)
  beta_reduce
  cases Node.callReply reply with
  | ok output => rfl
  | error error => cases error <;> rfl

/-! ## Their runs -/

theorem yields_unlock_iff {trace : List Exchange} {result : Except Failure Outcome} :
    Program.Yields (unlock account binding posting) trace result ↔
      Unlocks binding posting trace result := by
  rw [unlock_eq, yields_tried_iff]
  constructor
  · rintro ⟨reply, rest, rfl, ⟨bytes, run⟩ | ⟨reverts, run⟩ | ⟨⟨noBytes, noRevert⟩, run⟩⟩
    · obtain ⟨sent, _, rfl, done⟩ := Program.yields_ask.1 run
      obtain ⟨rfl, rfl⟩ := Program.yields_done.1 done
      exact .unlocked bytes sent
    · obtain ⟨rfl, rfl⟩ := Program.yields_done.1 run
      exact .locked reverts
    · obtain ⟨rfl, rfl⟩ := Program.yields_done.1 run
      exact .failed noBytes noRevert
  · intro unlocks
    cases unlocks with
    | unlocked bytes sent => exact ⟨_, _, rfl, .inl ⟨bytes, .ask (.done _)⟩⟩
    | locked reverts => exact ⟨_, _, rfl, .inr (.inl ⟨reverts, .done _⟩)⟩
    | failed noBytes noRevert => exact ⟨_, _, rfl, .inr (.inr ⟨⟨noBytes, noRevert⟩, .done _⟩)⟩

theorem yields_validate_iff {trace : List Exchange} {result : Except ContractError Bool} :
    Program.Yields (validate binding commitment) trace result ↔
      Validates binding commitment trace result := by
  rw [validate_eq, yields_tried_iff]
  constructor
  · rintro ⟨reply, rest, rfl, ⟨bytes, run⟩ | ⟨reverts, run⟩ | ⟨⟨noBytes, noRevert⟩, run⟩⟩
    · obtain ⟨rfl, rfl⟩ := Program.yields_done.1 run
      exact .valid bytes
    · obtain ⟨rfl, rfl⟩ := Program.yields_done.1 run
      exact .malformed reverts
    · obtain ⟨rfl, rfl⟩ := Program.yields_done.1 run
      exact .failed noBytes noRevert
  · intro validates
    cases validates with
    | valid bytes => exact ⟨_, _, rfl, .inl ⟨bytes, .done _⟩⟩
    | malformed reverts => exact ⟨_, _, rfl, .inr (.inl ⟨reverts, .done _⟩)⟩
    | failed noBytes noRevert => exact ⟨_, _, rfl, .inr (.inr ⟨⟨noBytes, noRevert⟩, .done _⟩)⟩

theorem unlocks_faithful (account : Address) (binding : Binding) (posting : Posting)
    (commitment : Bytes) :
    Node.CallsLatest (trial binding (unlockData posting)) binding.account? binding.address
        (unlockData posting) ∧
      (∀ trace result, Program.Yields (unlock account binding posting) trace result ↔
        Unlocks binding posting trace result) ∧
      (∀ trace result, Program.Yields (validate binding commitment) trace result ↔
        Validates binding commitment trace result) :=
  ⟨Node.callsLatest_callRequest _, fun _ _ => yields_unlock_iff, fun _ _ => yields_validate_iff⟩

end Unlocking

end ChallengeGame
