import ChallengeGame.Proofs.CallData
import ChallengeGame.Proofs.Program

/-!
# What requests carry

Every request goes to one method of the contract with certain arguments, as a call, as the data of a
candidate, or as both. `requests_faithful` says that this data is the selector of the method and a
block from which a strict reader gets the arguments back, so that nothing else is ever said by the
same data, and where calls and candidates go.
-/

namespace ChallengeGame.Contract

open Abi (Argument Parameter)

/-! ## Methods and arguments -/

def Method.parameters : Method → List Parameter
  | version | challengeWindow | resolveWindow | bondSize | deposit | withdraw => []
  | balances => [.address]
  | getChallenge | getChallengeStatus | challenge | unlockBond => [.uint256, .bytes]
  | validateCommitment => [.bytes]
  | resolve => [.uint256, .bytes, .bytes]

theorem signature_eq (method : Method) :
    method.signature =
      method.name ++ "(" ++ String.intercalate "," (method.parameters.map Parameter.name) ++ ")" := by
  cases method <;> decide

/-- Arguments that a method takes. Byte strings have lengths of 64 bits. -/
structure Method.Takes (method : Method) (arguments : List Argument) : Prop where
  admitted : List.Forall₂ Parameter.Admits method.parameters arguments
  small : ∀ value, .bytes value ∈ arguments → value.length < UInt64.size

namespace Request

def method : Request → Method
  | bondSize => .bondSize
  | balance _ => .balances
  | deposit _ => .deposit
  | challenge _ => .challenge
  | resolve _ => .resolve
  | unlockBond _ => .unlockBond
  | withdraw => .withdraw
  | challengeWindow => .challengeWindow
  | resolveWindow => .resolveWindow
  | record _ => .getChallenge
  | status _ => .getChallengeStatus
  | validate _ => .validateCommitment

def arguments : Request → List Argument
  | bondSize | deposit _ | withdraw | challengeWindow | resolveWindow => []
  | balance account => [.address account]
  | challenge posting | unlockBond posting | record posting | status posting =>
    [.word posting.block, .bytes posting.commitment]
  | resolve resolution =>
    [.word resolution.posting.block, .bytes resolution.posting.commitment, .bytes resolution.input]
  | validate commitment => [.bytes commitment]

def value : Request → Word
  | deposit value => value
  | _ => 0

def asks : Request → Bool
  | deposit _ | challenge _ | resolve _ | withdraw => false
  | _ => true

def makesCandidate : Request → Bool
  | deposit _ | challenge _ | resolve _ | unlockBond _ | withdraw => true
  | _ => false

def candidate? : (request : Request) → request.Reply → Option Candidate
  | deposit _, reply | challenge _, reply | resolve _, reply | unlockBond _, reply
  | withdraw, reply => reply.toOption
  | _, _ => none

end Request

theorem toNat_address_lt (account : Address) :
    (Word.ofBytes account.bytes).toNat < Nat.pow 2 160 := by
  have bound := account.bytes.toNat_lt
  rw [account.length_eq] at bound
  exact Nat.lt_of_le_of_lt (Nat.mod_le ..) bound

theorem takes_arguments (request : Request)
    (small : ∀ value, .bytes value ∈ request.arguments → value.length < UInt64.size) :
    request.method.Takes request.arguments := by
  refine ⟨?_, small⟩
  cases request with
  | balance account => exact .cons (toNat_address_lt account) .nil
  | _ => simp [Request.method, Request.arguments, Method.parameters, Parameter.Admits]

theorem Method.Takes.length_lt {method : Method} {arguments : List Argument}
    (takes : method.Takes arguments) : (Abi.encode arguments).length < Word.size := by
  refine Abi.length_encode_lt ?_ takes.small
  rw [← takes.admitted.length_eq]
  cases method <;> decide

theorem callData_injective {method other : Method} {arguments others : List Argument}
    (takes : method.Takes arguments) (takesOther : other.Takes others)
    (same : callData method arguments = callData other others) :
    method = other ∧ arguments = others := by
  -- selectors are of one length, so equal data has equal selectors
  obtain ⟨selectors, blocks⟩ := List.append_inj same (by simp only [length_selector])
  obtain rfl := selector_inj.1 selectors
  -- the two blocks are one, and it is read in one way only
  have read := (Abi.strict?_eq_some_iff takes.admitted takes.length_lt).2 rfl
  rw [blocks, (Abi.strict?_eq_some_iff takesOther.admitted takesOther.length_lt).2 rfl] at read
  exact ⟨rfl, (Option.some.inj read).symm⟩

/-! ## Calls and candidates -/

/-- Every run of a program makes these calls. -/
def Makes {α : Type} (program : Calling α) (calls : List Call) : Prop :=
  ∀ trace result, Program.Yields program trace result → trace.map (·.query) = calls

section
variable {α β : Type} {program : Calling α} {next : α → Calling β} {first second : List Call}

theorem makes_pure (value : α) : Makes (pure value) [] := by
  rintro _ _ ⟨⟩; rfl

theorem Makes.answered (makes : Makes program first) (respond : (call : Call) → call.Reply) :
    (∀ exchange ∈ (program.record respond).1, exchange.answer.isOk = true) ↔
      ∀ call ∈ first, (respond call).isOk = true := by
  rw [← makes _ _ (Program.yields_record respond program), List.forall_mem_map]
  refine forall₂_congr fun exchange mem => ?_
  rw [Program.record_answers respond program exchange mem]

theorem Makes.bind (head : Makes program first) (tail : ∀ value, Makes (next value) second) :
    Makes (program >>= next) (first ++ second) := by
  intro trace result run
  obtain ⟨value, before, after, rfl, begun, ended⟩ := Program.yields_bind.1 run
  rw [List.map_append, head before value begun, tail value after result ended]

end

namespace Binding

variable {binding : Binding} {method : Method} {arguments : List Argument}

theorem yields_call {data : Bytes} {trace : List (Program.Exchange Call Call.Reply)}
    {reply : Except ContractError Bytes} :
    Program.Yields (binding.call method data) trace reply ↔
      ∃ output : Except CallError Bytes,
        trace = [⟨⟨binding.account?, binding.address, data⟩, output⟩] ∧
          reply = output.mapError (errorOf method) := by
  simp only [call, Program.yields_bind, Program.yields_query]
  constructor
  · rintro ⟨output, before, after, rfl, rfl, done⟩
    obtain ⟨rfl, rfl⟩ := Program.yields_done.1 done
    exact ⟨output, rfl, rfl⟩
  · rintro ⟨output, rfl, rfl⟩
    exact ⟨output, _, [], rfl, rfl, .done _⟩

theorem makes_call (data : Bytes) :
    Makes (binding.call method data) [⟨binding.account?, binding.address, data⟩] := by
  intro trace reply run
  obtain ⟨output, rfl, -⟩ := yields_call.1 run
  rfl

theorem makes_read (kinds : List Abi.Kind) :
    Makes (binding.read method arguments kinds)
      [⟨binding.account?, binding.address, callData method arguments⟩] := by
  refine (makes_call _).bind fun reply => ?_
  cases reply <;> exact makes_pure _

theorem makes_readWord :
    Makes (binding.readWord method arguments)
      [⟨binding.account?, binding.address, callData method arguments⟩] :=
  (makes_read _).bind fun _ => makes_pure _

def calls (binding : Binding) (request : Request) (data : Bytes) : List Call :=
  if request.asks then [⟨binding.account?, binding.address, data⟩] else []

theorem makes_respond (request : Request) :
    Makes (binding.respond request)
      (binding.calls request (callData request.method request.arguments)) := by
  cases request with
  | bondSize | balance _ | challengeWindow | resolveWindow => exact makes_readWord
  | deposit _ | challenge _ | resolve _ | withdraw => exact makes_pure _
  | unlockBond posting => exact (makes_call _).bind fun _ => makes_pure _
  | record posting => exact (makes_read _).bind fun _ => makes_pure _
  | status posting =>
    -- whatever the code says, nothing more is asked
    refine (makes_read _).bind fun values => ?_
    cases values with
    | error error => exact makes_pure _
    | ok values =>
      obtain ⟨code, _⟩ := values
      dsimp only
      split <;> exact makes_pure _
  | validate commitment =>
    refine (makes_call _).bind fun reply => ?_
    split <;> exact makes_pure _

def transaction (binding : Binding) (request : Request) (data : Bytes) : Candidate :=
  ⟨data, some binding.address, 0, request.value⟩

theorem candidate?_eq_some_iff {request : Request} {trace : List (Program.Exchange Call Call.Reply)}
    {reply : request.Reply} {candidate : Candidate}
    (run : Program.Yields (binding.respond request) trace reply) :
    request.candidate? reply = some candidate ↔
      request.makesCandidate = true ∧ (∀ exchange ∈ trace, exchange.answer.isOk = true) ∧
        candidate = binding.transaction request (callData request.method request.arguments) := by
  -- if there is a candidate, it is this one
  have told (made : request.candidate? reply =
        some (binding.transaction request (callData request.method request.arguments)))
      (fine : ∀ exchange ∈ trace, exchange.answer.isOk = true) (asked : request.makesCandidate = true) :
      request.candidate? reply = some candidate ↔
        request.makesCandidate = true ∧ (∀ exchange ∈ trace, exchange.answer.isOk = true) ∧
          candidate = binding.transaction request (callData request.method request.arguments) := by
    rw [made, Option.some.injEq]
    exact ⟨fun same => ⟨asked, fine, same.symm⟩, fun all => all.2.2.symm⟩
  cases request with
  | deposit _ | challenge _ | resolve _ | withdraw =>
    obtain ⟨rfl, made⟩ := Program.yields_done.1 run
    exact told (by rw [made]; rfl) (by simp) rfl
  | unlockBond posting =>
    obtain ⟨answer, before, after, rfl, tried, done⟩ := Program.yields_bind.1 run
    obtain ⟨rfl, made⟩ := Program.yields_done.1 done
    obtain ⟨output, only, heard⟩ := yields_call.1 tried
    rw [heard] at made
    -- the only answer is the one to the trial, and it decides whether there is a candidate
    rw [List.append_nil, only, List.forall_mem_singleton] at told ⊢
    cases output with
    | error error =>
      have failed : Request.candidate? (.unlockBond posting) reply = none := by rw [made]; rfl
      rw [failed]
      exact ⟨nofun, fun all => absurd all.2.1 Bool.false_ne_true⟩
    | ok output => exact told (by rw [made]; rfl) rfl rfl
  | _ => exact ⟨nofun, fun all => absurd all.1 Bool.false_ne_true⟩

end Binding

/-! ## The whole request -/

/-- A request is carried by the selector of its method and this block. -/
structure Conveys (binding : Binding) (request : Request) (block : Bytes) : Prop where
  selector : request.method.selector =
    (Keccak.hash (Bytes.ofAscii (request.method.name ++ "(" ++
      String.intercalate "," (request.method.parameters.map Parameter.name) ++ ")"))).bytes.take 4
  length_selector : request.method.selector.length = 4
  /-- A strict reader gets the arguments from this block and from no other one. -/
  read : ∀ other, Abi.strict? request.method.parameters other = some request.arguments ↔ block = other
  whole : 32 ∣ block.length
  padded : ∀ value, .bytes value ∈ request.arguments →
    ∃ before after, block = before ++ (value ++ List.replicate (Abi.padding value.length) 0) ++ after ∧
      32 ∣ before.length
  /-- Nothing else has the same data. -/
  alone : ∀ method arguments, Method.Takes method arguments →
    (callData method arguments = request.method.selector ++ block ↔
      method = request.method ∧ arguments = request.arguments)
  calls : ∀ respond, ((binding.respond request).record respond).1.map (·.query) =
    binding.calls request (request.method.selector ++ block)
  candidates : ∀ respond candidate,
    (request.candidate? ((binding.respond request).record respond).2 = some candidate ↔
      request.makesCandidate = true ∧
        (∀ call ∈ binding.calls request (request.method.selector ++ block),
          (respond call).isOk = true) ∧
        candidate = binding.transaction request (request.method.selector ++ block))

theorem requests_faithful (binding : Binding) (request : Request)
    (small : ∀ value, .bytes value ∈ request.arguments → value.length < UInt64.size) :
    Conveys binding request (Abi.encode request.arguments) := by
  have takes := takes_arguments request small
  constructor
  case selector => rw [← signature_eq, Method.selector]
  case length_selector => exact length_selector _
  case read => exact fun other => Abi.strict?_eq_some_iff takes.admitted takes.length_lt
  case whole => exact Abi.dvd_length_encode _
  case padded => exact fun value mem => Abi.encode_padded mem
  case alone =>
    intro method arguments others
    refine ⟨callData_injective others takes, ?_⟩
    rintro ⟨rfl, rfl⟩
    rfl
  case calls => exact fun respond => Binding.makes_respond request _ _ (Program.yields_record respond _)
  case candidates =>
    intro respond candidate
    rw [Binding.candidate?_eq_some_iff (Program.yields_record respond _),
      (Binding.makes_respond request).answered respond]
    rfl

theorem requests_faithful_resolve :
    let resolution : Resolution := ⟨⟨7, 1 :: List.replicate 32 3⟩, [1, 2, 3]⟩
    let binding : Binding := ⟨⟨List.replicate 20 1, rfl⟩, none⟩
    (∀ value, .bytes value ∈ (Request.resolve resolution).arguments → value.length < UInt64.size) ∧
      Conveys binding (.resolve resolution) (Abi.encode (Request.resolve resolution).arguments) := by
  intro resolution binding
  have small : ∀ value, .bytes value ∈ (Request.resolve resolution).arguments →
      value.length < UInt64.size := by
    intro value mem
    simp only [Request.arguments, List.mem_cons, reduceCtorEq, Abi.Argument.bytes.injEq,
      List.not_mem_nil, or_false, false_or] at mem
    obtain rfl | rfl := mem <;> decide
  exact ⟨small, requests_faithful binding (.resolve resolution) small⟩

end ChallengeGame.Contract
