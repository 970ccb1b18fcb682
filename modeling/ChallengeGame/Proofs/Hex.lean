import ChallengeGame.Bytes.Hex

/-!
# Reading what was written in hex

Byte strings of any length, values of fixed size and quantities of up to 64 digits are read back as
they were written. A quantity has as few digits as it can have, possibly an odd number of them; with
a zero before the digits it is the text of the bytes of the number.
-/

namespace ChallengeGame.Hex

@[simp] theorem toList_encode (bytes : Bytes) : (encode bytes).toList = '0' :: 'x' :: digits bytes := by
  simp [encode]

@[simp] theorem toList_quantity (value : Nat) :
    (quantity value).toList = '0' :: 'x' :: numberDigits value := by
  simp [quantity]

@[simp] theorem length_digits (bytes : Bytes) : (digits bytes).length = 2 * bytes.length := by
  induction bytes with
  | nil => rfl
  | cons byte rest ih =>
    have step : digits (byte :: rest) = ofByte byte ++ digits rest := rfl
    simp [step, ih, ofByte]
    omega

@[simp] theorem readBytes_encode (bytes : Bytes) : readBytes (encode bytes) = some bytes := by
  rw [readBytes, toList_encode]
  exact readDigits_digits bytes

@[simp] theorem readFixed_encode {size : Nat} (value : FixedBytes size) :
    readFixed size (encode value.bytes) = some value := by
  have long : (digits value.bytes).length = 2 * size := by rw [length_digits, value.length_eq]
  simp [readFixed, dropMarker, long, readSpaced_digits]

/-! ## Quantities -/

/-- The digits of a number with a zero before them if there is an odd number of them. -/
def padded (value : Nat) : List Char :=
  if (numberDigits value).length % 2 = 0 then numberDigits value else '0' :: numberDigits value

theorem numberDigits_of_lt {value : Nat} (small : value < 16) : numberDigits value = [digit value] := by
  rw [numberDigits, if_pos small]

theorem numberDigits_of_le {value : Nat} (large : 16 ≤ value) :
    numberDigits value = numberDigits (value / 16) ++ [digit (value % 16)] := by
  rw [numberDigits, if_neg (Nat.not_lt.2 large)]

theorem digits_concat (bytes : Bytes) (byte : UInt8) :
    digits (bytes ++ [byte]) = digits bytes ++ ofByte byte := by
  simp [digits]

theorem ofByte_ofNat (value : Nat) :
    ofByte (UInt8.ofNat value) = [digit (value / 16 % 16), digit (value % 16)] := by
  have high : value % 256 / 16 = value / 16 % 16 := by omega
  have low : value % 256 % 16 = value % 16 := by omega
  simp [ofByte, high, low]

theorem padded_eq_digits (value : Nat) :
    ∃ size, value < Nat.pow 256 size ∧ padded value = digits (Bytes.ofNat size value) := by
  induction value using Nat.strongRecOn with
  | ind value ih =>
    -- one digit, two digits, or a byte less and two more digits
    rcases Nat.lt_or_ge value 16 with one | more
    · refine ⟨1, by simp; omega, ?_⟩
      have high : value / 16 % 16 = 0 := by omega
      have low : value % 16 = value := by omega
      rw [padded, numberDigits_of_lt one]
      show ['0', digit value] = ofByte (UInt8.ofNat value) ++ []
      rw [ofByte_ofNat, high, low]
      rfl
    · rcases Nat.lt_or_ge value 256 with two | many
      · refine ⟨1, by simp; omega, ?_⟩
        have high : value / 16 % 16 = value / 16 := by omega
        have pair : padded value = [digit (value / 16), digit (value % 16)] := by
          simp [padded, numberDigits_of_le more, numberDigits_of_lt (show value / 16 < 16 by omega)]
        rw [pair]
        show _ = ofByte (UInt8.ofNat value) ++ []
        rw [ofByte_ofNat, high, List.append_nil]
      · obtain ⟨size, fits, same⟩ := ih (value / 256) (by omega)
        have split : numberDigits value =
            numberDigits (value / 256) ++ [digit (value / 16 % 16), digit (value % 16)] := by
          rw [numberDigits_of_le more, numberDigits_of_le (by omega), Nat.div_div_eq_div_mul]
          simp
        have pads : padded value =
            padded (value / 256) ++ [digit (value / 16 % 16), digit (value % 16)] := by
          unfold padded
          rw [split]
          simp only [List.length_append, List.length_cons, List.length_nil, Nat.add_mod_right]
          split <;> simp
        refine ⟨size + 1, ?_, ?_⟩
        · have power : Nat.pow 256 (size + 1) = Nat.pow 256 size * 256 := rfl
          omega
        · rw [pads, same, Bytes.ofNat, digits_concat, ofByte_ofNat]

/-- An odd number of digits is read as if a zero stood before them. -/
theorem readSpaced_padded (value : Nat) :
    readSpaced (if (numberDigits value).length % 2 = 0 then none else some 0) (numberDigits value) =
      readSpaced none (padded value) := by
  unfold padded
  split <;> rfl

theorem length_numberDigits_le {size value : Nat} (fits : value < Nat.pow 16 (size + 1)) :
    (numberDigits value).length ≤ size + 1 := by
  induction size generalizing value with
  | zero =>
    rw [numberDigits_of_lt fits]
    exact Nat.le_refl 1
  | succ size ih =>
    rcases Nat.lt_or_ge value 16 with small | large
    · rw [numberDigits_of_lt small]
      simp
    · have power : Nat.pow 16 (size + 1 + 1) = Nat.pow 16 (size + 1) * 16 := rfl
      have shorter : (numberDigits (value / 16)).length ≤ size + 1 := ih (by omega)
      rw [numberDigits_of_le large, List.length_append, List.length_singleton]
      omega

theorem numberDigits_ne_nil (value : Nat) : numberDigits value ≠ [] := by
  rw [numberDigits]
  split <;> simp

theorem readQuantity_quantity {limit value : Nat} (short : (numberDigits value).length ≤ limit) :
    readQuantity limit (quantity value) = some value := by
  obtain ⟨size, fits, same⟩ := padded_eq_digits value
  unfold readQuantity
  rw [toList_quantity]
  simp only [dropMarker]
  rw [if_neg (by simp [numberDigits_ne_nil, short]), readSpaced_padded, same, readSpaced_digits,
    Option.map_some, Bytes.toNat_ofNat, Nat.mod_eq_of_lt fits]

@[simp] theorem readWord_quantity (word : Word) : readWord (quantity word.toNat) = some word := by
  have short : (numberDigits word.toNat).length ≤ 64 := length_numberDigits_le word.isLt
  rw [readWord, readQuantity_quantity short, Option.map_some, BitVec.ofNat_toNat, BitVec.setWidth_eq]

end ChallengeGame.Hex
