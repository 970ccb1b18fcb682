import ChallengeGame.Proofs.Abi
import ChallengeGame.Proofs.Utf8

/-!
# What outputs hold

An output holds a value where its bytes stand: a word in the head, a text after its length at the
place that the head names. Reading finds exactly what is held (`decode_eq_ok_iff`), so an output that
ends too early is never read as anything, and values are read back from the block that is written for
them, whatever comes behind it.
-/

namespace ChallengeGame

namespace Bytes

/-- The last bytes of a number are those that it was read from. -/
theorem ofNat_toNat_append (high low : Bytes) : ofNat low.length (toNat (high ++ low)) = low := by
  induction low using List.reverseRecOn with
  | nil => rfl
  | append_singleton low byte ih =>
    have small := byte.toNat_lt
    have front : (toNat (high ++ low) * 256 + byte.toNat) / 256 = toNat (high ++ low) := by omega
    have last : UInt8.ofNat (toNat (high ++ low) * 256 + byte.toNat) = byte := by
      apply UInt8.toNat.inj
      rw [UInt8.toNat_ofNat']
      omega
    rw [← List.append_assoc, toNat_append_singleton, List.length_append, List.length_singleton, ofNat,
      front, last, ih]

end Bytes

namespace Abi

/-! ## Places -/

/-- The piece stands at a place of the output. -/
def At (output : Bytes) (place : Nat) (piece : Bytes) : Prop :=
  ∃ before after, output = before ++ (piece ++ after) ∧ before.length = place

variable {output piece other : Bytes} {place start index : Nat} {kind : Kind} {kinds : List Kind}

theorem at_zero_iff : At output 0 piece ↔ piece <+: output := by
  constructor
  · rintro ⟨before, after, rfl, length⟩
    rw [List.eq_nil_of_length_eq_zero length]
    exact List.prefix_append ..
  · rintro ⟨after, rfl⟩
    exact ⟨[], after, rfl, rfl⟩

theorem At.le_length (stands : At output place piece) : place + piece.length ≤ output.length := by
  obtain ⟨before, after, rfl, rfl⟩ := stands
  simp only [List.length_append]
  omega

theorem At.left (stands : At output place (piece ++ other)) : At output place piece := by
  obtain ⟨before, after, rfl, length⟩ := stands
  exact ⟨before, other ++ after, by rw [List.append_assoc], length⟩

theorem At.right (stands : At output place (piece ++ other)) :
    At output (place + piece.length) other := by
  obtain ⟨before, after, rfl, rfl⟩ := stands
  exact ⟨before ++ piece, after, by simp only [List.append_assoc], List.length_append⟩

theorem At.unique (stands : At output place piece) (others : At output place other)
    (lengths : piece.length = other.length) : piece = other := by
  obtain ⟨before, after, rfl, rfl⟩ := stands
  obtain ⟨before', after', same, length⟩ := others
  obtain ⟨_, behind⟩ := List.append_inj same length.symm
  exact (List.append_inj behind lengths).1

theorem slice?_eq_some_iff {length : Nat} :
    slice? output place length = some piece ↔ At output place piece ∧ piece.length = length := by
  unfold slice?
  constructor
  · intro sliced
    split at sliced
    · rename_i inside
      cases sliced
      refine ⟨⟨output.take place, (output.drop place).drop length, ?_, ?_⟩, ?_⟩
      · rw [List.take_append_drop, List.take_append_drop]
      · rw [List.length_take]; omega
      · rw [List.length_take, List.length_drop]; omega
    · cases sliced
  · rintro ⟨⟨before, after, rfl, rfl⟩, rfl⟩
    rw [if_pos (by simp only [List.length_append]; omega), List.drop_left, List.take_left]

/-! ## Values -/

/-- The value of a kind whose head stands at a place of the output. -/
inductive Holds (output : Bytes) (place : Nat) : (kind : Kind) → kind.Value → Prop
  | word {word : Word} (stands : At output place word.toBytes) : Holds output place .word word
  /-- The last bytes of the word count. -/
  | address {high : Bytes} {address : Address} (length : high.length = 12)
    (stands : At output place (high ++ address.bytes)) : Holds output place .address address
  | byte {high : Bytes} {byte : UInt8} (length : high.length = 31)
    (stands : At output place (high ++ [byte])) : Holds output place .byte byte
  /-- The head names the place of the length, which the bytes of the text follow. -/
  | text {start length : Word} {value : Bytes} (heads : At output place start.toBytes)
    (near : start.toNat < UInt32.size) (tells : At output start.toNat length.toBytes)
    (short : length.toNat < UInt32.size) (stands : At output (start.toNat + 32) value)
    (whole : value.length = length.toNat) :
    Holds output place .text (String.ofList (Utf8.decodeLossy value))

theorem word_slice_iff {word : Word} :
    slice? output place 32 = some word.toBytes ↔ At output place word.toBytes := by
  rw [slice?_eq_some_iff, Word.length_toBytes]
  exact and_iff_left rfl

theorem exists_word (whole : piece.length = 32) : ∃ word : Word, word.toBytes = piece :=
  ⟨Word.ofBytes piece, Word.toBytes_ofBytes whole⟩

theorem distance?_eq_some_iff {distance : Nat} :
    distance? output place = some distance ↔
      ∃ word : Word, At output place word.toBytes ∧ word.toNat = distance ∧
        distance < UInt32.size := by
  simp only [distance?, Option.bind_eq_some_iff, Option.ite_none_right_eq_some, Option.some.injEq]
  constructor
  · rintro ⟨piece, sliced, near, rfl⟩
    obtain ⟨stands, whole⟩ := slice?_eq_some_iff.1 sliced
    obtain ⟨word, rfl⟩ := exists_word whole
    exact ⟨word, stands, (Word.toNat_toBytes word).symm, near⟩
  · rintro ⟨word, stands, rfl, near⟩
    refine ⟨_, word_slice_iff.2 stands, ?_, Word.toNat_toBytes word⟩
    rwa [Word.toNat_toBytes]

theorem length_append_address {high : Bytes} (address : Address) (length : high.length = 12) :
    (high ++ address.bytes).length = 32 := by
  rw [List.length_append, length, address.length_eq]

theorem addressOfWord_append {high : Bytes} (address : Address) :
    addressOfWord (high ++ address.bytes) = address := by
  apply FixedBytes.ext
  have low := Bytes.ofNat_toNat_append high address.bytes
  rw [address.length_eq] at low
  exact low

theorem length_append_byte {high : Bytes} (byte : UInt8) (length : high.length = 31) :
    (high ++ [byte]).length = 32 := by
  rw [List.length_append, length, List.length_singleton]

theorem ofNat_toNat_append_singleton (high : Bytes) (byte : UInt8) :
    UInt8.ofNat (high ++ [byte]).toNat = byte := by
  have small := byte.toNat_lt
  apply UInt8.toNat.inj
  rw [Bytes.toNat_append_singleton, UInt8.toNat_ofNat']
  omega

theorem value?_eq_some_iff {value : kind.Value} :
    value? output place kind = some value ↔ Holds output place kind value := by
  cases kind with
  | word =>
    refine Option.map_eq_some_iff.trans ⟨?_, ?_⟩
    · rintro ⟨piece, sliced, rfl⟩
      obtain ⟨stands, whole⟩ := slice?_eq_some_iff.1 sliced
      obtain ⟨word, rfl⟩ := exists_word whole
      rw [Word.ofBytes_toBytes]
      exact .word stands
    · rintro ⟨stands⟩
      exact ⟨_, word_slice_iff.2 stands, Word.ofBytes_toBytes _⟩
  | address =>
    refine Option.map_eq_some_iff.trans ⟨?_, ?_⟩
    · rintro ⟨piece, sliced, rfl⟩
      obtain ⟨stands, whole⟩ := slice?_eq_some_iff.1 sliced
      have low : (piece.drop 12).length = 20 := by rw [List.length_drop, whole]
      have split : piece.take 12 ++ (⟨piece.drop 12, low⟩ : Address).bytes = piece :=
        List.take_append_drop 12 piece
      rw [← split] at stands ⊢
      rw [addressOfWord_append]
      exact .address (by rw [List.length_take, whole]; rfl) stands
    · intro holds
      cases holds with
      | address length stands =>
        exact ⟨_, slice?_eq_some_iff.2 ⟨stands, length_append_address _ length⟩,
          addressOfWord_append _⟩
  | byte =>
    refine Option.map_eq_some_iff.trans ⟨?_, ?_⟩
    · rintro ⟨piece, sliced, rfl⟩
      obtain ⟨stands, whole⟩ := slice?_eq_some_iff.1 sliced
      obtain ⟨byte, last⟩ := List.length_eq_one_iff.1
        (show (piece.drop 31).length = 1 by rw [List.length_drop, whole])
      have split : piece.take 31 ++ [byte] = piece := by rw [← last, List.take_append_drop]
      rw [← split] at stands ⊢
      rw [ofNat_toNat_append_singleton]
      exact .byte (by rw [List.length_take, whole]; rfl) stands
    · intro holds
      cases holds with
      | byte length stands =>
        exact ⟨_, slice?_eq_some_iff.2 ⟨stands, length_append_byte _ length⟩,
          ofNat_toNat_append_singleton _ _⟩
  | text =>
    simp only [value?, Option.bind_eq_bind, Option.bind_eq_some_iff, distance?_eq_some_iff,
      slice?_eq_some_iff]
    constructor
    · rintro ⟨_, ⟨start, heads, rfl, near⟩, _, ⟨length, tells, rfl, short⟩, bytes,
        ⟨stands, whole⟩, read⟩
      obtain rfl := Option.some.inj read
      exact .text heads near tells short stands whole
    · intro holds
      cases holds with
      | text heads near tells short stands whole =>
        exact ⟨_, ⟨_, heads, rfl, near⟩, _, ⟨_, tells, rfl, short⟩, _, ⟨stands, whole⟩, rfl⟩

theorem At.holds_byte {word : Word} (stands : At output place word.toBytes) :
    Holds output place .byte (UInt8.ofNat word.toNat) :=
  value?_eq_some_iff.1 (Option.map_eq_some_iff.2
    ⟨_, word_slice_iff.2 stands, congrArg UInt8.ofNat (Word.toNat_toBytes word)⟩)

theorem Holds.le_length {value : kind.Value} (holds : Holds output place kind value) :
    place + 32 ≤ output.length := by
  cases holds with
  | word stands | text stands =>
    have inside := stands.le_length
    rwa [Word.length_toBytes] at inside
  | address length stands =>
    have inside := stands.le_length
    rwa [length_append_address _ length] at inside
  | byte length stands =>
    have inside := stands.le_length
    rwa [length_append_byte _ length] at inside

/-! ## Whole outputs -/

/-- The values whose heads stand one after another from a place on. -/
def Reads (output : Bytes) : (place : Nat) → (kinds : List Kind) → Values kinds → Prop
  | _, [], _ => True
  | place, kind :: rest, values =>
    Holds output place kind values.1 ∧ Reads output (place + 32) rest values.2

theorem valuesFrom?_eq_some_iff {values : Values kinds} :
    valuesFrom? output place kinds = some values ↔ Reads output place kinds values := by
  induction kinds generalizing place with
  | nil => exact iff_of_true rfl trivial
  | cons kind rest ih =>
    simp only [valuesFrom?, Option.bind_eq_bind, Option.bind_eq_some_iff, value?_eq_some_iff, ih,
      Reads]
    constructor
    · rintro ⟨first, holds, others, reads, read⟩
      obtain rfl := Option.some.inj read
      exact ⟨holds, reads⟩
    · rintro ⟨holds, reads⟩
      exact ⟨_, holds, _, reads, rfl⟩

/-- How an output that is not read as values is complained about. -/
def shortage (output : Bytes) : DecodeError := if output.isEmpty then .nothing else .invalid

theorem decode_eq_ok_iff {values : Values kinds} :
    decode kinds output = .ok values ↔ Reads output 0 kinds values := by
  unfold decode
  split
  · rename_i nothing
    simp only [Bool.and_eq_true, List.isEmpty_iff, Bool.not_eq_true', List.isEmpty_eq_false_iff]
      at nothing
    obtain ⟨rfl, expected⟩ := nothing
    -- not even the first head stands in an empty output
    refine iff_of_false nofun fun reads => ?_
    cases kinds with
    | nil => exact expected rfl
    | cons kind rest => exact absurd reads.1.le_length (by simp)
  · rw [← valuesFrom?_eq_some_iff]
    cases valuesFrom? output 0 kinds <;> simp

theorem decode_eq_error (unread : ∀ values, ¬ Reads output 0 kinds values) :
    decode kinds output = .error (shortage output) := by
  have none : valuesFrom? output 0 kinds = none :=
    Option.eq_none_iff_forall_ne_some.2 fun values read => unread values (valuesFrom?_eq_some_iff.1 read)
  -- there is nothing to read without kinds, so that reading cannot go wrong
  have expected : kinds.isEmpty = false := by
    cases kinds with
    | nil => exact absurd trivial (unread ())
    | cons kind rest => rfl
  rw [decode, none, expected, shortage, Bool.not_false, Bool.and_true]
  split <;> rfl

/-! ## Outputs that are too short -/

/-- The output ends before the end of a value whose head has its place. -/
inductive EndsBefore (output : Bytes) (place : Nat) : Kind → Prop
  | head {kind : Kind} (short : output.length < place + 32) : EndsBefore output place kind
  | length {start : Word} (heads : At output place start.toBytes)
    (short : output.length < start.toNat + 32) : EndsBefore output place .text
  | text {start length : Word} (heads : At output place start.toBytes)
    (tells : At output start.toNat length.toBytes)
    (short : output.length < start.toNat + 32 + length.toNat) : EndsBefore output place .text

/-- The output ends before the end of one of the values that it should have. -/
def TooShort (kinds : List Kind) (output : Bytes) : Prop :=
  ∃ index kind, kinds[index]? = some kind ∧ EndsBefore output (32 * index) kind

theorem At.word_unique {word word' : Word} (stands : At output place word.toBytes)
    (others : At output place word'.toBytes) : word = word' := by
  have same := stands.unique others (by rw [Word.length_toBytes, Word.length_toBytes])
  rw [← Word.ofBytes_toBytes word, same, Word.ofBytes_toBytes]

theorem EndsBefore.not_holds (ends : EndsBefore output place kind) (value : kind.Value) :
    ¬ Holds output place kind value := by
  intro holds
  cases ends with
  | head short => exact absurd holds.le_length (Nat.not_le.2 short)
  | length heads short =>
    cases holds with
    | text heads' near tells =>
      -- both speak of the same word in the head
      obtain rfl := heads.word_unique heads'
      have inside := tells.le_length
      rw [Word.length_toBytes] at inside
      omega
  | text heads tells short =>
    cases holds with
    | text heads' near tells' _ stands whole =>
      obtain rfl := heads.word_unique heads'
      obtain rfl := tells.word_unique tells'
      have inside := stands.le_length
      omega

theorem Reads.holds {values : Values kinds} (reads : Reads output place kinds values)
    (expected : kinds[index]? = some kind) :
    ∃ value : kind.Value, Holds output (place + 32 * index) kind value := by
  induction kinds generalizing place index with
  | nil => cases expected
  | cons first rest ih =>
    cases index with
    | zero =>
      obtain rfl := Option.some.inj expected
      exact ⟨_, reads.1⟩
    | succ index =>
      obtain ⟨value, holds⟩ := ih reads.2 expected
      exact ⟨value, by rwa [show place + 32 * (index + 1) = place + 32 + 32 * index by omega]⟩

theorem TooShort.not_reads (short : TooShort kinds output) (values : Values kinds) :
    ¬ Reads output 0 kinds values := by
  intro reads
  obtain ⟨index, kind, expected, ends⟩ := short
  obtain ⟨value, holds⟩ := reads.holds expected
  rw [Nat.zero_add] at holds
  exact ends.not_holds value holds

/-! ## Outputs that are written -/

def Kind.argument : (kind : Kind) → kind.Value → Argument
  | .word, value => .word value
  | .address, value => .address value
  | .byte, value => .word (Word.ofBytes [value])
  | .text, value => .bytes (Utf8.encode (String.toList value))

def written : (kinds : List Kind) → Values kinds → List Argument
  | [], _ => []
  | kind :: rest, values => kind.argument values.1 :: written rest values.2

theorem toNat_zeros_append (count : Nat) (low : Bytes) :
    Bytes.toNat (List.replicate count 0 ++ low) = low.toNat := by
  induction count with
  | zero => rfl
  | succ count ih => exact ih

theorem toBytes_ofBytes_short {count : Nat} {low : Bytes} (short : count + low.length = 32) :
    (Word.ofBytes low).toBytes = List.replicate count 0 ++ low := by
  have whole : (List.replicate count 0 ++ low).length = 32 := by
    rwa [List.length_append, List.length_replicate]
  have same : Word.ofBytes (List.replicate count 0 ++ low) = Word.ofBytes low :=
    congrArg (BitVec.ofNat 256) (toNat_zeros_append count low)
  rw [← same, Word.toBytes_ofBytes whole]

theorem holds_address {account : Address}
    (heads : At output start (Word.ofBytes account.bytes).toBytes) :
    Holds output start .address account := by
  rw [toBytes_ofBytes_short (show 12 + account.bytes.length = 32 by rw [account.length_eq])] at heads
  exact .address List.length_replicate heads

theorem holds_byte {byte : UInt8} (heads : At output start (Word.ofBytes [byte]).toBytes) :
    Holds output start .byte byte := by
  rw [toBytes_ofBytes_short (show 31 + [byte].length = 32 from rfl)] at heads
  exact .byte List.length_replicate heads

theorem holds_text {text : String}
    (heads : At output start (Word.toBytes (BitVec.ofNat 256 place)))
    (tails : At output place (Argument.bytes (Utf8.encode text.toList)).tail)
    (fits : place + (Argument.bytes (Utf8.encode text.toList)).tail.length < UInt32.size) :
    Holds output start .text text := by
  generalize encoded : Utf8.encode text.toList = value at tails fits
  have told : String.ofList (Utf8.decodeLossy value) = text := by
    rw [← encoded, Utf8.decodeLossy_encode, String.ofList_toList]
  rw [tail_bytes] at tails fits
  rw [List.length_append, List.length_append, Word.length_toBytes] at fits
  -- distances and lengths of 32 bits are told exactly
  have words : UInt32.size < Word.size := by decide
  have place_eq : (BitVec.ofNat 256 place).toNat = place :=
    Nat.mod_eq_of_lt (show place < Word.size by omega)
  have length_eq : (BitVec.ofNat 256 value.length).toNat = value.length :=
    Nat.mod_eq_of_lt (show value.length < Word.size by omega)
  have stands := tails.right.left
  rw [Word.length_toBytes] at stands
  rw [← told]
  refine .text heads ?_ ?_ ?_ ?_ length_eq.symm
  · rw [place_eq]; omega
  · rw [place_eq]; exact tails.left
  · rw [length_eq]; omega
  · rw [place_eq]; exact stands

theorem holds_argument {value : kind.Value}
    (heads : At output start ((kind.argument value).head place))
    (tails : At output place (kind.argument value).tail)
    (fits : place + (kind.argument value).tail.length < UInt32.size) :
    Holds output start kind value := by
  cases kind with
  | word => exact .word heads
  | address => exact holds_address heads
  | byte => exact holds_byte heads
  | text => exact holds_text heads tails fits

theorem reads_written {values : Values kinds}
    (heads : At output start (Abi.heads place (written kinds values)))
    (tails : At output place (Abi.tails (written kinds values)))
    (fits : place + (Abi.tails (written kinds values)).length < UInt32.size) :
    Reads output start kinds values := by
  induction kinds generalizing start place with
  | nil => trivial
  | cons kind rest ih =>
    have split : Abi.tails (written (kind :: rest) values) =
      (kind.argument values.1).tail ++ Abi.tails (written rest values.2) := rfl
    rw [split] at tails fits
    rw [List.length_append, ← Nat.add_assoc] at fits
    refine ⟨holds_argument heads.left tails.left (by omega), ?_⟩
    -- the other heads follow a word later, their tails behind this one
    have next := heads.right
    rw [length_head] at next
    exact ih next tails.right fits

/-- The values are read back, whatever stands behind the block that is written for them. -/
theorem reads_encode {values : Values kinds} (trailing : Bytes)
    (fits : (encode (written kinds values)).length < UInt32.size) :
    Reads (encode (written kinds values) ++ trailing) 0 kinds values := by
  have length := length_heads (32 * (written kinds values).length) (written kinds values)
  rw [encode, List.length_append, length] at fits
  refine reads_written ⟨[], _, List.append_assoc .., rfl⟩ ⟨_, trailing, ?_, length⟩ fits
  rw [encode, List.append_assoc]

end Abi

end ChallengeGame
