import ChallengeGame.Proofs.Outputs
import ChallengeGame.Proofs.Requests

/-!
# What answers are taken for

A question is one call, and its result depends on the answer to this call alone. The values that
stand in the output are taken as they are; an output in which they do not stand, a revert and a
failure on the way are three different errors, each of which names the method
(`answers_faithful`). A status has its code in one byte: `status_told_iff` says for which words this
is enough.
-/

namespace ChallengeGame

namespace ChallengeStatus

def code : ChallengeStatus → Nat
  | uninitialized => 0
  | active => 1
  | resolved => 2
  | expired => 3

theorem ofCode?_eq_some_iff {number : Nat} {status : ChallengeStatus} :
    ofCode? number = some status ↔ status.code = number := by
  constructor
  · intro known
    unfold ofCode? at known
    split at known <;> cases known <;> rfl
  · rintro rfl
    cases status <;> rfl

theorem code_lt (status : ChallengeStatus) : status.code < 4 := by
  cases status <;> decide

theorem exists_code_iff {number : Nat} : (∃ status, code status = number) ↔ number < 4 := by
  constructor
  · rintro ⟨status, rfl⟩
    exact status.code_lt
  · intro small
    obtain rfl | rfl | rfl | rfl : number = 0 ∨ number = 1 ∨ number = 2 ∨ number = 3 := by omega
    exacts [⟨uninitialized, rfl⟩, ⟨active, rfl⟩, ⟨resolved, rfl⟩, ⟨expired, rfl⟩]

theorem ofCode?_eq_none_iff {number : Nat} : ofCode? number = none ↔ 4 ≤ number := by
  simp only [Option.eq_none_iff_forall_ne_some, ne_eq, ofCode?_eq_some_iff]
  rw [← not_exists, exists_code_iff, Nat.not_lt]

end ChallengeStatus

namespace Contract

open Abi (Kind Values Reads TooShort)

variable {α : Type} {program : Calling (Except ContractError α)} {call : Call} {method : Method}
  {arguments : List Abi.Argument} {kinds : List Kind} {binding : Binding}
  {taken : Values kinds → Except ContractError α} {output : Bytes}

/-! ## Questions -/

/-- What a method is heard to say. -/
def heard (method : Method) (kinds : List Kind) :
    Except CallError Bytes → Except ContractError (Values kinds)
  | .error error => .error (Binding.errorOf method error)
  | .ok output => (Abi.decode kinds output).mapError fun error => .decode method error.message

theorem heard_of_reads {values : Values kinds} (reads : Reads output 0 kinds values) :
    heard method kinds (.ok output) = .ok values := by
  rw [heard, Abi.decode_eq_ok_iff.2 reads, Except.mapError]

theorem heard_of_not_reads (unread : ∀ values, ¬ Reads output 0 kinds values) :
    heard method kinds (.ok output) = .error (.decode method (Abi.shortage output).message) := by
  rw [heard, Abi.decode_eq_error unread, Except.mapError]

/-- The program asks a method by one call, and values of certain kinds are taken from the answer. -/
structure Asks (program : Calling (Except ContractError α)) (call : Call) (method : Method)
    (kinds : List Kind) (taken : Values kinds → Except ContractError α) : Prop where
  once : ∀ respond, (program.record respond).1 = [⟨call, respond call⟩]
  /-- Nothing behind the values counts. -/
  encoded : ∀ respond values trailing,
    (Abi.encode (Abi.written kinds values)).length < UInt32.size →
    respond call = .ok (Abi.encode (Abi.written kinds values) ++ trailing) →
      (program.record respond).2 = taken values
  read : ∀ respond output values, respond call = .ok output → Reads output 0 kinds values →
    (program.record respond).2 = taken values
  unread : ∀ respond output, respond call = .ok output → (∀ values, ¬ Reads output 0 kinds values) →
    (program.record respond).2 = .error (.decode method (Abi.shortage output).message)
  short : ∀ respond output, respond call = .ok output → TooShort kinds output →
    (program.record respond).2 = .error (.decode method (Abi.shortage output).message)
  reverted : ∀ respond reason, respond call = .error (.revert reason) →
    (program.record respond).2 = .error (.simulationFailed method reason)
  unreached : ∀ respond failure, respond call = .error (.transport failure) →
    (program.record respond).2 = .error (.call method failure)

def Binding.asking (binding : Binding) (method : Method) (arguments : List Abi.Argument) : Call :=
  ⟨binding.account?, binding.address, callData method arguments⟩

theorem Binding.read_eq : binding.read method arguments kinds =
    .ask (binding.asking method arguments) fun reply => .done (heard method kinds reply) := by
  simp only [Binding.read, Binding.call, Program.query, Program.ask_bind, Program.done_bind,
    Program.pure_eq, Binding.asking]
  refine congrArg (Program.ask _) (funext fun reply => ?_)
  cases reply <;> rfl

theorem record_read {next : Except ContractError (Values kinds) → Calling (Except ContractError α)}
    (goes : ∀ reply, next reply = pure (reply.bind taken)) (respond : (call : Call) → call.Reply) :
    (binding.read method arguments kinds >>= next).record respond =
      ([⟨binding.asking method arguments, respond (binding.asking method arguments)⟩],
        (heard method kinds (respond (binding.asking method arguments))).bind taken) := by
  rw [Binding.read_eq, Program.ask_bind, Program.record, Program.done_bind, goes]
  rfl

theorem asks_of_record
    (run : ∀ respond, program.record respond =
      ([⟨call, respond call⟩], (heard method kinds (respond call)).bind taken)) :
    Asks program call method kinds taken := by
  constructor
  case once => exact fun respond => by rw [run]
  case encoded =>
    intro respond values trailing fits answer
    rw [run, answer, heard_of_reads (Abi.reads_encode trailing fits)]
    rfl
  case read =>
    intro respond output values answer reads
    rw [run, answer, heard_of_reads reads]
    rfl
  case unread =>
    intro respond output answer unread
    rw [run, answer, heard_of_not_reads unread]
    rfl
  case short =>
    intro respond output answer short
    rw [run, answer, heard_of_not_reads short.not_reads]
    rfl
  case reverted =>
    intro respond reason answer
    rw [run, answer]
    rfl
  case unreached =>
    intro respond failure answer
    rw [run, answer]
    rfl

theorem asks_read {next : Except ContractError (Values kinds) → Calling (Except ContractError α)}
    (values : ∀ values, next (.ok values) = pure (taken values))
    (errors : ∀ error, next (.error error) = pure (.error error)) :
    Asks (binding.read method arguments kinds >>= next) (binding.asking method arguments) method
      kinds taken := by
  refine asks_of_record (record_read fun reply => ?_)
  cases reply with
  | ok told => exact values told
  | error error => exact errors error

theorem Asks.ok_iff (asks : Asks program call method kinds taken)
    {respond : (call : Call) → call.Reply} {value : α} :
    (program.record respond).2 = .ok value ↔
      ∃ output values, respond call = .ok output ∧ Reads output 0 kinds values ∧
        taken values = .ok value := by
  constructor
  · intro ended
    cases answer : respond call with
    | error error =>
      cases error with
      | revert reason => rw [asks.reverted respond reason answer] at ended; cases ended
      | transport failure => rw [asks.unreached respond failure answer] at ended; cases ended
    | ok output =>
      by_cases unread : ∀ values, ¬ Reads output 0 kinds values
      · rw [asks.unread respond output answer unread] at ended
        cases ended
      · obtain ⟨values, reads⟩ := not_forall_not.1 unread
        rw [asks.read respond output values answer reads] at ended
        exact ⟨output, values, rfl, reads, ended⟩
  · rintro ⟨output, values, answer, reads, told⟩
    rw [asks.read respond output values answer reads, told]

/-! ## All questions -/

/-- The program asks for one word, which stands first in the output. -/
structure AsksWord (program : Calling (Except ContractError Word)) (call : Call) (method : Method) :
    Prop extends Asks program call method [.word] fun values => .ok values.1 where
  word : ∀ respond (word : Word) trailing, respond call = .ok (word.toBytes ++ trailing) →
    (program.record respond).2 = .ok word

theorem asks_readWord :
    Asks (binding.readWord method arguments) (binding.asking method arguments) method [.word]
      fun values => .ok values.1 :=
  asks_read (fun _ => rfl) fun _ => rfl

theorem asksWord_readWord :
    AsksWord (binding.readWord method arguments) (binding.asking method arguments) method where
  toAsks := asks_readWord
  word respond word trailing answer := by
    have stands : Abi.At (word.toBytes ++ trailing) 0 word.toBytes :=
      Abi.at_zero_iff.2 (List.prefix_append ..)
    have holds : Abi.Holds (word.toBytes ++ trailing) 0 .word word := .word stands
    exact asks_readWord.read respond _ (word, ()) answer ⟨holds, trivial⟩

def statusOf (code : UInt8) : Except ContractError ChallengeStatus :=
  match ChallengeStatus.ofCode? code.toNat with
  | some status => .ok status
  | none => .error (.decode .getChallengeStatus (ChallengeStatus.unknownMessage code.toNat))

/-- What becomes of a binding, given the version that is found. -/
def boundAfter (binding : Binding) (found : String) : Except ContractError Binding :=
  if found = "1.0.0" then .ok binding else .error (.unsupportedVersion found)

/-- Every question of a binding is answered by what the contract says, or by an error. -/
structure Faithful (binding : Binding) : Prop where
  bondSize : AsksWord (binding.respond .bondSize) (binding.asking .bondSize []) .bondSize
  balance : ∀ account, AsksWord (binding.respond (.balance account))
    (binding.asking .balances [.address account]) .balances
  challengeWindow : AsksWord (binding.respond .challengeWindow)
    (binding.asking .challengeWindow []) .challengeWindow
  resolveWindow : AsksWord (binding.respond .resolveWindow)
    (binding.asking .resolveWindow []) .resolveWindow
  record : ∀ posting, Asks (binding.respond (.record posting))
    (binding.asking .getChallenge (postingArguments posting)) .getChallenge
      [.address, .word, .word, .word]
      fun (challenger, lockedBond, startBlock, resolvedBlock, _) =>
        .ok { posting, challenger, lockedBond, startBlock, resolvedBlock }
  recorded : ∀ respond posting challenger lockedBond startBlock resolvedBlock trailing,
    respond (binding.asking .getChallenge (postingArguments posting)) =
        .ok (Abi.encode [.address challenger, .word lockedBond, .word startBlock,
          .word resolvedBlock] ++ trailing) →
      ((binding.respond (.record posting)).record respond).2 =
        .ok { posting, challenger, lockedBond, startBlock, resolvedBlock }
  status : ∀ posting, Asks (binding.respond (.status posting))
    (binding.asking .getChallengeStatus (postingArguments posting)) .getChallengeStatus [.byte]
      fun (code, _) => statusOf code
  version : Asks (Binding.connect binding.address binding.account?) (binding.asking .version [])
    .version [.text] fun (found, _) => boundAfter binding found
  connected : ∀ respond bound,
    ((Binding.connect binding.address binding.account?).record respond).2 = .ok bound ↔
      bound = binding ∧ ∃ output, respond (binding.asking .version []) = .ok output ∧
        Reads output 0 [.text] ("1.0.0", ())

theorem asks_record (posting : Posting) :
    Asks (binding.respond (.record posting))
      (binding.asking .getChallenge (postingArguments posting)) .getChallenge
      [.address, .word, .word, .word]
      fun (challenger, lockedBond, startBlock, resolvedBlock, _) =>
        .ok { posting, challenger, lockedBond, startBlock, resolvedBlock } :=
  asks_read (fun _ => rfl) fun _ => rfl

theorem asks_status (posting : Posting) :
    Asks (binding.respond (.status posting))
      (binding.asking .getChallengeStatus (postingArguments posting)) .getChallengeStatus [.byte]
      fun (code, _) => statusOf code := by
  refine asks_read ?_ fun _ => rfl
  rintro ⟨code, _⟩
  dsimp only [statusOf]
  generalize ChallengeStatus.ofCode? _ = known
  cases known <;> rfl

theorem asks_version :
    Asks (Binding.connect binding.address binding.account?) (binding.asking .version []) .version
      [.text] fun (found, _) => boundAfter binding found := by
  have decided (found : String) :
      (if found = supportedVersion then pure (.ok binding)
        else pure (.error (.unsupportedVersion found)) : Calling (Except ContractError Binding)) =
        pure (boundAfter binding found) := (apply_ite pure ..).symm
  exact asks_read (fun values => decided values.1) fun _ => rfl

theorem boundAfter_eq_ok_iff {found : String} {bound : Binding} :
    boundAfter binding found = .ok bound ↔ found = "1.0.0" ∧ bound = binding := by
  unfold boundAfter
  split <;> simp_all [eq_comm]

theorem answers_faithful (binding : Binding) : Faithful binding := by
  constructor
  case bondSize => exact asksWord_readWord
  case balance => exact fun _ => asksWord_readWord
  case challengeWindow => exact asksWord_readWord
  case resolveWindow => exact asksWord_readWord
  case record => exact asks_record
  case recorded =>
    intro respond posting challenger lockedBond startBlock resolvedBlock trailing answer
    refine (asks_record posting).encoded respond
      (challenger, lockedBond, startBlock, resolvedBlock, ()) trailing ?_ answer
    rw [Abi.encode, List.length_append, Abi.length_heads]
    exact (by decide : 32 * 4 + 0 < UInt32.size)
  case status => exact asks_status
  case version => exact asks_version
  case connected =>
    intro respond bound
    rw [asks_version.ok_iff]
    constructor
    · rintro ⟨output, ⟨found, _⟩, answer, reads, told⟩
      obtain ⟨rfl, rfl⟩ := boundAfter_eq_ok_iff.1 told
      exact ⟨rfl, output, answer, reads⟩
    · rintro ⟨rfl, output, answer, reads⟩
      exact ⟨output, _, answer, reads, boundAfter_eq_ok_iff.2 ⟨rfl, rfl⟩⟩

/-! ## Statuses -/

/-- What is right to say about a word in the place of a status. -/
inductive Told (word : Word) : Except ContractError ChallengeStatus → Prop
  | known {status : ChallengeStatus} (same : status.code = word.toNat) : Told word (.ok status)
  | unknown {reason : String} (beyond : ∀ status : ChallengeStatus, status.code ≠ word.toNat) :
    Told word (.error (.decode .getChallengeStatus reason))

section
variable {posting : Posting} {respond : (call : Call) → call.Reply} {word : Word} {after : Bytes}

/-- Only the last byte of the word counts. -/
theorem record_status
    (answer : respond (binding.asking .getChallengeStatus (postingArguments posting)) =
      .ok (word.toBytes ++ after)) :
    ((binding.respond (.status posting)).record respond).2 = statusOf (UInt8.ofNat word.toNat) := by
  have stands : Abi.At (word.toBytes ++ after) 0 word.toBytes :=
    Abi.at_zero_iff.2 (List.prefix_append ..)
  exact (asks_status posting).read respond _ (_, ()) answer ⟨stands.holds_byte, trivial⟩

theorem statusOf_eq_ok_iff {code : UInt8} {status : ChallengeStatus} :
    statusOf code = .ok status ↔ status.code = code.toNat := by
  rw [← ChallengeStatus.ofCode?_eq_some_iff, statusOf]
  cases ChallengeStatus.ofCode? code.toNat <;> simp

theorem statusOf_eq_error {code : UInt8} (beyond : 4 ≤ code.toNat) :
    statusOf code =
      .error (.decode .getChallengeStatus ("unknown challenge status " ++ toString code.toNat)) := by
  rw [statusOf, ChallengeStatus.ofCode?_eq_none_iff.2 beyond]
  rfl

theorem told_statusOf_iff :
    Told word (statusOf (UInt8.ofNat word.toNat)) ↔
      (word.toNat % 256 < 4 → word.toNat < 4) := by
  have low : (UInt8.ofNat word.toNat).toNat = word.toNat % 256 := UInt8.toNat_ofNat'
  constructor
  · intro told small
    obtain ⟨status, same⟩ := ChallengeStatus.exists_code_iff.2 small
    -- a known status is told, so it has to be the one with the code in the whole word
    rw [statusOf_eq_ok_iff.2 (same.trans low.symm)] at told
    cases told with
    | known known => exact known ▸ status.code_lt
  · intro only
    by_cases small : word.toNat % 256 < 4
    · -- a word below 4 is its own last byte
      obtain ⟨status, same⟩ := ChallengeStatus.exists_code_iff.2 (only small)
      rw [statusOf_eq_ok_iff.2 (show status.code = (UInt8.ofNat word.toNat).toNat by omega)]
      exact .known same
    · rw [statusOf_eq_error (by omega)]
      refine .unknown fun status same => ?_
      have bound := status.code_lt
      omega

end

theorem status_told_iff (binding : Binding) (posting : Posting)
    (respond : (call : Call) → call.Reply) (word : Word) (after : Bytes)
    (answer : respond (binding.asking .getChallengeStatus (postingArguments posting)) =
      .ok (word.toBytes ++ after)) :
    let result := ((binding.respond (.status posting)).record respond).2
    (∀ status, result = .ok status ↔ status.code = word.toNat % 256) ∧
      (4 ≤ word.toNat % 256 →
        result = .error (.decode .getChallengeStatus
          ("unknown challenge status " ++ toString (word.toNat % 256)))) ∧
      (Told word result ↔ (word.toNat % 256 < 4 → word.toNat < 4)) := by
  have low : (UInt8.ofNat word.toNat).toNat = word.toNat % 256 := UInt8.toNat_ofNat'
  rw [record_status answer, ← low]
  refine ⟨fun status => statusOf_eq_ok_iff, statusOf_eq_error, ?_⟩
  rw [low]
  exact told_statusOf_iff

theorem status_told_iff_resolved :
    let binding : Binding := ⟨⟨List.replicate 20 1, rfl⟩, none⟩
    ((binding.respond (.status ⟨7, [0]⟩)).record fun _ => .ok (Word.toBytes 2 ++ [9])).2 =
      .ok .resolved := by
  intro binding
  have told := status_told_iff binding ⟨7, [0]⟩ (fun _ => .ok (Word.toBytes 2 ++ [9])) 2 [9] rfl
  exact (told.1 .resolved).2 (by decide)

/-- The word of a status that nobody knows ends in the byte of one that is known. -/
theorem unknown_status_told_active :
    let binding : Binding := ⟨⟨List.replicate 20 1, rfl⟩, none⟩
    let result := ((binding.respond (.status ⟨7, [0]⟩)).record fun _ => .ok (Word.toBytes 257)).2
    result = .ok .active ∧ ¬ Told 257 result := by
  intro binding result
  have read : result = statusOf (UInt8.ofNat (BitVec.toNat (257 : Word))) :=
    record_status (congrArg Except.ok (List.append_nil _).symm)
  have active : result = .ok .active := read.trans (statusOf_eq_ok_iff.2 rfl)
  refine ⟨active, ?_⟩
  rw [active]
  rintro ⟨same⟩
  exact absurd same (by decide)

end Contract

end ChallengeGame
