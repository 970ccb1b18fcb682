import ChallengeGame.Bytes.Utf8

/-!
# Characters in bytes

Nothing is malformed in a text that is written as UTF-8, so that the octet machine reports no fault
and the lenient reader, too, gives the characters back.
-/

namespace ChallengeGame.Utf8

def encode (characters : List Char) : Bytes := characters.flatMap String.utf8EncodeChar

/-- An octet that goes on with a character that more octets are owed of. -/
theorem decodeFrom_continue {value owed low high octet : Nat} (rest : Bytes) (least : low ≤ octet)
    (most : octet ≤ high) (small : octet < 256) (more : 1 < owed) :
    decodeFrom (some ⟨value, owed, low, high⟩) (UInt8.ofNat octet :: rest) =
      decodeFrom (some ⟨value * 64 + octet % 64, owed - 1, 0x80, 0xBF⟩) rest := by
  have same : (UInt8.ofNat octet).toNat = octet := by rw [UInt8.toNat_ofNat', Nat.mod_eq_of_lt small]
  simp [decodeFrom, step, same, least, most, Nat.not_le.2 more]

theorem decodeFrom_finish {value low high octet : Nat} (rest : Bytes) (least : low ≤ octet)
    (most : octet ≤ high) (small : octet < 256) :
    decodeFrom (some ⟨value, 1, low, high⟩) (UInt8.ofNat octet :: rest) =
      some (Char.ofNat (value * 64 + octet % 64)) :: decodeFrom none rest := by
  have same : (UInt8.ofNat octet).toNat = octet := by rw [UInt8.toNat_ofNat', Nat.mod_eq_of_lt small]
  simp [decodeFrom, step, same, least, most]

theorem decodeFrom_start {octet : Nat} {p : Pending} (rest : Bytes)
    (leads : lead (UInt8.ofNat octet) = .pending p) :
    decodeFrom none (UInt8.ofNat octet :: rest) = decodeFrom (some p) rest := by
  simp [decodeFrom, step, start, leads]

/-! ## Leading octets -/

theorem lead_two {high : Nat} (least : 2 ≤ high) (most : high < 32) :
    lead (UInt8.ofNat (high + 0xC0)) = .pending ⟨high, 1, 0x80, 0xBF⟩ := by
  have same : (UInt8.ofNat (high + 0xC0)).toNat = high + 0xC0 := by
    rw [UInt8.toNat_ofNat', Nat.mod_eq_of_lt (by omega)]
  unfold lead
  simp only [same]
  rw [if_neg (by omega), if_pos (by omega), Nat.add_sub_cancel]

/-- The octets after the first are restricted where a shorter form or half a surrogate pair could
begin. -/
theorem lead_three (high next : Nat) (most : high < 16) (tail : next < 64)
    (long : high = 0 → 32 ≤ next) (whole : high = 13 → next < 32) :
    ∃ low top, lead (UInt8.ofNat (high + 0xE0)) = .pending ⟨high, 2, low, top⟩ ∧
      low ≤ next + 0x80 ∧ next + 0x80 ≤ top := by
  have same : (UInt8.ofNat (high + 0xE0)).toNat = high + 0xE0 := by
    rw [UInt8.toNat_ofNat', Nat.mod_eq_of_lt (by omega)]
  unfold lead
  simp only [same]
  rw [if_neg (by omega), if_neg (by omega)]
  by_cases first : high = 0
  · subst first
    exact ⟨0xA0, 0xBF, rfl, by have := long rfl; omega, by omega⟩
  · rw [if_neg (by omega)]
    by_cases middle : high = 13
    · subst middle
      exact ⟨0x80, 0x9F, rfl, by omega, by have := whole rfl; omega⟩
    · rw [if_neg (by omega), if_pos (by omega), Nat.add_sub_cancel]
      exact ⟨0x80, 0xBF, rfl, by omega, by omega⟩

theorem lead_four (high next : Nat) (most : high ≤ 4) (tail : next < 64)
    (long : high = 0 → 16 ≤ next) (last : high = 4 → next < 16) :
    ∃ low top, lead (UInt8.ofNat (high + 0xF0)) = .pending ⟨high, 3, low, top⟩ ∧
      low ≤ next + 0x80 ∧ next + 0x80 ≤ top := by
  have same : (UInt8.ofNat (high + 0xF0)).toNat = high + 0xF0 := by
    rw [UInt8.toNat_ofNat', Nat.mod_eq_of_lt (by omega)]
  unfold lead
  simp only [same]
  rw [if_neg (by omega), if_neg (by omega), if_neg (by omega), if_neg (by omega), if_neg (by omega)]
  by_cases first : high = 0
  · subst first
    exact ⟨0x90, 0xBF, rfl, by have := long rfl; omega, by omega⟩
  · rw [if_neg (by omega)]
    by_cases top : high = 4
    · subst top
      exact ⟨0x80, 0x8F, rfl, by omega, by have := last rfl; omega⟩
    · rw [if_pos (by omega), Nat.add_sub_cancel]
      exact ⟨0x80, 0xBF, rfl, by omega, by omega⟩

/-! ## Texts -/

theorem decodeFrom_utf8EncodeChar (c : Char) (rest : Bytes) :
    decodeFrom none (String.utf8EncodeChar c ++ rest) = some c :: decodeFrom none rest := by
  have valid : c.val.toNat < 0xD800 ∨ 0xDFFF < c.val.toNat ∧ c.val.toNat < 0x110000 := c.valid
  have whole : Char.ofNat c.val.toNat = c := Char.ofNat_toNat c
  unfold String.utf8EncodeChar
  simp only
  generalize c.val.toNat = v at valid whole
  split
  · -- one octet is the character itself
    rename_i one
    have same : (UInt8.ofNat v).toNat = v := by rw [UInt8.toNat_ofNat', Nat.mod_eq_of_lt (by omega)]
    simp [decodeFrom, step, start, lead, same, show v < 128 by omega, whole]
  · split
    · rename_i two
      rw [List.cons_append, Nat.mod_eq_of_lt (show v / 64 < 32 by omega),
        decodeFrom_start _ (lead_two (by omega) (by omega)), List.cons_append,
        decodeFrom_finish _ (by omega) (by omega) (by omega)]
      rw [show v / 64 * 64 + (v % 64 + 128) % 64 = v by omega, whole]
      rfl
    · split
      · rename_i three
        rw [List.cons_append, Nat.mod_eq_of_lt (show v / 4096 < 16 by omega)]
        obtain ⟨low, top, leads, least, most⟩ :=
          lead_three (v / 4096) (v / 64 % 64) (by omega) (by omega) (by omega) (by omega)
        rw [decodeFrom_start _ leads, List.cons_append,
          decodeFrom_continue _ least most (by omega) (by omega), List.cons_append,
          decodeFrom_finish _ (by omega) (by omega) (by omega)]
        rw [show (v / 4096 * 64 + (v / 64 % 64 + 128) % 64) * 64 + (v % 64 + 128) % 64 = v by omega,
          whole]
        rfl
      · rw [List.cons_append, Nat.mod_eq_of_lt (show v / 262144 < 8 by omega)]
        obtain ⟨low, top, leads, least, most⟩ :=
          lead_four (v / 262144) (v / 4096 % 64) (by omega) (by omega) (by omega) (by omega)
        rw [decodeFrom_start _ leads, List.cons_append,
          decodeFrom_continue _ least most (by omega) (by omega), List.cons_append,
          decodeFrom_continue _ (by omega) (by omega) (by omega) (by omega), List.cons_append,
          decodeFrom_finish _ (by omega) (by omega) (by omega)]
        rw [show ((v / 262144 * 64 + (v / 4096 % 64 + 128) % 64) * 64 + (v / 64 % 64 + 128) % 64) * 64
          + (v % 64 + 128) % 64 = v by omega, whole]
        rfl

theorem decodeFrom_encode (characters : List Char) :
    decodeFrom none (encode characters) = characters.map some := by
  induction characters with
  | nil => rfl
  | cons c rest ih =>
    show decodeFrom none (String.utf8EncodeChar c ++ encode rest) = _
    rw [decodeFrom_utf8EncodeChar, ih, List.map_cons]

theorem decodeLossy_encode (characters : List Char) : decodeLossy (encode characters) = characters := by
  rw [decodeLossy, decodeFrom_encode, List.map_map]
  exact List.map_id characters

end ChallengeGame.Utf8
