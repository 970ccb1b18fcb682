import ChallengeGame.Document.Json
import Mathlib.Data.List.Chain
import Mathlib.Data.List.TakeWhile

/-!
# Cutting a text into tokens

The characters of tokens are cut into these tokens again: `tokens?_chars`. The character machine finds
the end of a text by its quote, whatever characters are escaped in it, and the end of a word by what
follows, so that no two words may stand side by side.
-/

namespace ChallengeGame.Json

/-! ## Words -/

/-- Blanks, the quote and the marks. -/
def enders : List Char := [' ', '\t', '\n', '\r', '"', '[', ']', '\x7b', '\x7d', ',', ':']

theorem mem_enders {c : Char} (ends : endsWord c = true) : c ∈ enders := by
  rcases Bool.or_eq_true_iff.1 ends with blank | mark
  · rcases Bool.or_eq_true_iff.1 blank with blank | quote
    · simp only [isBlank, Bool.or_eq_true, decide_eq_true_eq] at blank
      rcases blank with ((rfl | rfl) | rfl) | rfl <;> decide
    · rw [of_decide_eq_true quote]
      decide
  · unfold punctuation? at mark
    split at mark
    all_goals first | decide | cases mark

/-- What a number is written with ends no word. -/
theorem not_endsWord {c : Char} (part : (c.isDigit || c == '-') = true) : endsWord c = false := by
  have apart : enders.all (fun d => !(d.isDigit || d == '-')) = true := by decide
  cases ends : endsWord c with
  | false => rfl
  | true =>
    have not := List.all_eq_true.1 apart c (mem_enders ends)
    rw [part] at not
    cases not

theorem isDigit_digit {value : Nat} (small : value < 10) : (Decimal.digit value).isDigit = true := by
  have key : ∀ v : Fin 10, (Decimal.digit v).isDigit = true := by decide
  exact key ⟨value, small⟩

/-- A number is written with digits, and the first of them is a zero only if it is the only one. -/
theorem exists_digits (value : Nat) : ∃ c rest, Decimal.digits value = c :: rest ∧
    (∀ d ∈ c :: rest, d.isDigit = true) ∧ (c = '0' → rest = []) := by
  induction value using Nat.strongRecOn with
  | ind value ih =>
    rw [Decimal.digits]
    split
    · rename_i small
      refine ⟨Decimal.digit value, [], rfl, ?_, fun _ => rfl⟩
      simpa using isDigit_digit small
    · rename_i large
      obtain ⟨c, rest, written, digits, zero⟩ := ih (value / 10) (by omega)
      have last : (Decimal.digit (value % 10)).isDigit = true :=
        isDigit_digit (Nat.mod_lt _ (by decide))
      refine ⟨c, rest ++ [Decimal.digit (value % 10)], by rw [written, List.cons_append], ?_, ?_⟩
      · intro d mem
        rcases List.mem_append.1 (List.cons_append ▸ mem) with front | back
        · exact digits d front
        · rw [List.mem_singleton.1 back]
          exact last
      · intro first
        -- only zero is written as a zero alone, and the number has more digits
        have reads := Decimal.ofDigits_digits (value / 10)
        rw [written, zero first, first] at reads
        have none : value / 10 = 0 := (Option.some.inj reads).symm
        omega

theorem whole?_digits (value : Nat) : whole? (Decimal.digits value) = some [] := by
  obtain ⟨c, rest, written, digits, zero⟩ := exists_digits value
  rw [written]
  unfold whole?
  split
  · rename_i same
    obtain ⟨first, rfl⟩ := List.cons.inj same
    rw [zero first]
  · obtain ⟨first, others⟩ := List.forall_mem_cons.1 digits
    have run : skipDigits rest = [] := by
      rw [skipDigits, List.dropWhile_eq_nil_iff]
      exact others
    rw [digitRun?, if_pos first, run]

theorem magnitude?_digits (value : Nat) : magnitude? (Decimal.digits value) = some (some value) := by
  simp [magnitude?, whole?_digits, Decimal.read_digits]

theorem number?_digits (value : Nat) : number? (Decimal.digits value) = some (.integer value) := by
  obtain ⟨c, rest, written, digits, _⟩ := exists_digits value
  unfold number?
  split
  · rename_i signed
    have first := digits c List.mem_cons_self
    rw [written] at signed
    rw [(List.cons.inj signed).1] at first
    cases first
  · rw [magnitude?_digits]

theorem number?_negative (value : Nat) :
    number? ('-' :: Decimal.digits (value + 1)) = some (.integer (-(value + 1 : Int))) := by
  simp only [number?, magnitude?_digits]

theorem word?_of_first {c : Char} {rest : List Char} (number : c ∉ ['n', 't', 'f']) :
    word? (c :: rest) = number? (c :: rest) := by
  have apart {name : String} (d : Char) (tail : List Char) (spelled : name.toList = d :: tail)
      (mem : d ∈ ['n', 't', 'f']) : c :: rest ≠ name.toList := by
    rw [spelled]
    intro same
    exact number ((List.cons.inj same).1 ▸ mem)
  rw [word?, if_neg (apart 'n' _ rfl (by decide)), if_neg (apart 't' _ rfl (by decide)),
    if_neg (apart 'f' _ rfl (by decide))]

/-- A scalar whose characters stand together as one word that reads back as this scalar. -/
structure IsWord (value : Document) : Prop where
  reads : word? (scalarChars value) = some value
  joined : ∀ c ∈ scalarChars value, endsWord c = false

theorem IsWord.of_all {value : Document} (reads : word? (scalarChars value) = some value)
    (joined : (scalarChars value).all (fun c => !endsWord c) = true) : IsWord value :=
  ⟨reads, by simpa using joined⟩

theorem isWord_null : IsWord .null := .of_all rfl rfl

theorem isWord_boolean (value : Bool) : IsWord (.boolean value) := by
  cases value <;> exact .of_all rfl rfl

theorem integerChars_natural (value : Nat) : integerChars value = Decimal.digits value := by
  rw [integerChars, if_neg (by omega), Int.natAbs_natCast]

theorem integerChars_negative (value : Nat) :
    integerChars (Int.negSucc value) = '-' :: Decimal.digits (value + 1) := by
  rw [integerChars, if_pos (Int.negSucc_lt_zero value)]
  rfl

theorem isWord_integer (value : Int) : IsWord (.integer value) := by
  cases value with
  | ofNat value =>
    obtain ⟨c, rest, written, digits, _⟩ := exists_digits value
    have spelled : scalarChars (.integer (Int.ofNat value)) = Decimal.digits value :=
      integerChars_natural value
    refine ⟨?_, ?_⟩
    · have number : c ∉ ['n', 't', 'f'] := by
        have apart : ['n', 't', 'f'].all (fun d => !d.isDigit) = true := by decide
        intro mem
        have not := List.all_eq_true.1 apart c mem
        rw [digits c List.mem_cons_self] at not
        cases not
      rw [spelled, written, word?_of_first number, ← written, number?_digits]
      rfl
    · rw [spelled, written]
      exact fun d mem => not_endsWord (by rw [digits d mem, Bool.true_or])
  | negSucc value =>
    obtain ⟨c, rest, written, digits, _⟩ := exists_digits (value + 1)
    have spelled : scalarChars (.integer (Int.negSucc value)) = '-' :: Decimal.digits (value + 1) :=
      integerChars_negative value
    refine ⟨?_, ?_⟩
    · rw [spelled, word?_of_first (by decide), number?_negative]
      rfl
    · rw [spelled, written]
      intro d mem
      rcases List.mem_cons.1 mem with rfl | mem
      · exact not_endsWord (by decide)
      · exact not_endsWord (by rw [digits d mem, Bool.true_or])

/-! ## From characters to tokens -/

theorem tokensFrom_step {mode next : Mode} {c : Char} {found : List Token} (rest : List Char)
    (steps : step mode c = some (found, next)) :
    tokensFrom mode (c :: rest) = (tokensFrom next rest).map (found ++ ·) := by
  cases mode <;> simp only [tokensFrom, steps]

theorem tokensFrom_silent {mode next : Mode} {c : Char} (rest : List Char)
    (steps : step mode c = some ([], next)) : tokensFrom mode (c :: rest) = tokensFrom next rest := by
  rw [tokensFrom_step rest steps]
  simp

theorem tokensFrom_word {word read rest : List Char} (joined : ∀ c ∈ word, endsWord c = false) :
    tokensFrom (.word read) (word ++ rest) = tokensFrom (.word (word.reverse ++ read)) rest := by
  induction word generalizing read with
  | nil => rfl
  | cons c word ih =>
    obtain ⟨first, others⟩ := List.forall_mem_cons.1 joined
    have steps : step (.word read) c = some ([], .word (c :: read)) := by
      simp [step, first]
    rw [List.cons_append, tokensFrom_silent _ steps, ih others, List.reverse_cons,
      List.append_assoc, List.singleton_append]

/-- Where a word ends the machine stands between words, and reads on from there. -/
theorem tokensFrom_word_end {read rest : List Char} {value : Document}
    (reads : word? read.reverse = some value) (ends : ∀ c ∈ rest.head?, endsWord c = true) :
    tokensFrom (.word read) rest = (tokensFrom .between rest).map (.scalar value :: ·) := by
  cases rest with
  | nil => simp [tokensFrom, reads]
  | cons c rest =>
    have last : endsWord c = true := ends c rfl
    have steps : step (.word read) c = some (.scalar value :: (start c).1, (start c).2) := by
      simp [step, last, reads]
    have between : step .between c = some ((start c).1, (start c).2) := rfl
    rw [tokensFrom_step rest steps, tokensFrom_step rest between, Option.map_map]
    rfl

theorem tokensFrom_scalar {value : Document} {rest : List Char} (word : IsWord value)
    (ends : ∀ c ∈ rest.head?, endsWord c = true) :
    tokensFrom .between (scalarChars value ++ rest) =
      (tokensFrom .between rest).map (.scalar value :: ·) := by
  cases spelled : scalarChars value with
  | nil =>
    have reads := word.reads
    rw [spelled] at reads
    cases reads
  | cons c more =>
    have joined := word.joined
    rw [spelled] at joined
    obtain ⟨first, others⟩ := List.forall_mem_cons.1 joined
    have steps : step .between c = some ([], .word [c]) := by
      have marks := first
      simp only [endsWord, Bool.or_eq_false_iff, decide_eq_false_iff_not] at marks
      obtain ⟨⟨blank, quote⟩, mark⟩ := marks
      have none : punctuation? c = none := by simpa using mark
      simp [step, start, blank, quote, none]
    rw [List.cons_append, tokensFrom_silent _ steps, tokensFrom_word others]
    refine tokensFrom_word_end ?_ ends
    rw [List.reverse_append, List.reverse_reverse, List.reverse_singleton, List.singleton_append,
      ← spelled]
    exact word.reads

/-! ### Texts -/

theorem tokensFrom_escape {read : Written} {c meant : Char} (rest : List Char)
    (escapes : escape? c = some meant) :
    tokensFrom (.text read) ('\\' :: c :: rest) = tokensFrom (.text (some meant :: read)) rest := by
  have begins : step (.text read) '\\' = some ([], .escape read) := rfl
  have ends : step (.escape read) c = some ([], .text (some meant :: read)) := by
    have other : c ≠ 'u' := by
      rintro rfl
      cases escapes
    simp [step, inEscape, other, escapes]
  rw [tokensFrom_silent _ begins, tokensFrom_silent _ ends]

theorem tokensFrom_unicode (read : Written) {a b c d : Nat} (rest : List Char) (ha : a < 16)
    (hb : b < 16) (hc : c < 16) (hd : d < 16) :
    tokensFrom (.text read)
        ('\\' :: 'u' :: Hex.digit a :: Hex.digit b :: Hex.digit c :: Hex.digit d :: rest) =
      tokensFrom (unit read none (((a * 16 + b) * 16 + c) * 16 + d)) rest := by
  have begins : step (.text read) '\\' = some ([], .escape read) := rfl
  have marks : step (.escape read) 'u' = some ([], .unicode read none []) := rfl
  have first : step (.unicode read none []) (Hex.digit a) = some ([], .unicode read none [a]) := by
    simp [step, Hex.digitValue?_digit ha]
  have second : step (.unicode read none [a]) (Hex.digit b) =
      some ([], .unicode read none [a, b]) := by
    simp [step, Hex.digitValue?_digit hb]
  have third : step (.unicode read none [a, b]) (Hex.digit c) =
      some ([], .unicode read none [a, b, c]) := by
    simp [step, Hex.digitValue?_digit hc]
  have fourth : step (.unicode read none [a, b, c]) (Hex.digit d) =
      some ([], unit read none (((a * 16 + b) * 16 + c) * 16 + d)) := by
    simp [step, Hex.digitValue?_digit hd]
  rw [tokensFrom_silent _ begins, tokensFrom_silent _ marks, tokensFrom_silent _ first,
    tokensFrom_silent _ second, tokensFrom_silent _ third, tokensFrom_silent _ fourth]

theorem tokensFrom_escapeChar (read : Written) (c : Char) (rest : List Char) :
    tokensFrom (.text read) (escapeChar c ++ rest) = tokensFrom (.text (some c :: read)) rest := by
  unfold escapeChar
  -- seven characters have an escape of their own
  iterate 7
    split
    · subst_vars
      exact tokensFrom_escape rest rfl
  split
  · rename_i control
    have value : ((0 * 16 + 0) * 16 + c.toNat / 16) * 16 + c.toNat % 16 = c.toNat := by omega
    have meant : unit read none c.toNat = .text (some c :: read) := by
      rw [unit, if_neg (by omega), if_neg (by omega), Char.ofNat_toNat]
    have reads := tokensFrom_unicode read rest (a := 0) (b := 0) (c := c.toNat / 16)
      (d := c.toNat % 16) (by decide) (by decide) (by omega) (by omega)
    rw [value, meant] at reads
    exact reads
  · rename_i quote backslash _ _ _ _ _ plain
    refine tokensFrom_silent rest ?_
    simp [step, inText, quote, backslash, plain]

theorem tokensFrom_characters (read : Written) (text rest : List Char) :
    tokensFrom (.text read) (text.flatMap escapeChar ++ rest) =
      tokensFrom (.text ((text.map some).reverse ++ read)) rest := by
  induction text generalizing read with
  | nil => rfl
  | cons c text ih =>
    rw [List.flatMap_cons, List.append_assoc, tokensFrom_escapeChar, ih, List.map_cons,
      List.reverse_cons, List.append_assoc, List.singleton_append]

theorem mapM_some {α : Type} (list : List α) : list.mapM some = some list := by
  have pure : list.mapM (fun a => some (id a)) = some (list.map id) := List.mapM_pure
  rwa [List.map_id] at pure

theorem text?_reverse (text : List Char) :
    Written.text? (text.map some).reverse = some (String.ofList text) := by
  have whole : (text.map some).mapM id = some text := List.mapM_map.trans (mapM_some text)
  rw [Written.text?, List.reverse_reverse, whole, Option.map_some]

theorem tokensFrom_quoted (value : String) (rest : List Char) :
    tokensFrom .between (Token.chars (.text (some value)) ++ rest) =
      (tokensFrom .between rest).map (.text (some value) :: ·) := by
  have opens : step .between '"' = some ([], .text []) := rfl
  have closes (read : Written) : step (.text read) '"' = some ([.text read.text?], .between) := by
    simp [step, inText]
  have spelled : Token.chars (.text (some value)) =
      '"' :: value.toList.flatMap escapeChar ++ ['"'] := rfl
  rw [spelled, List.cons_append, List.cons_append, List.append_assoc, tokensFrom_silent _ opens,
    tokensFrom_characters, List.append_nil, List.singleton_append, tokensFrom_step _ (closes _),
    text?_reverse, String.ofList_toList]
  rfl

theorem tokensFrom_broken (rest : List Char) :
    tokensFrom .between (Token.chars (.text none) ++ rest) =
      (tokensFrom .between rest).map (.text none :: ·) := by
  have opens : step .between '"' = some ([], .text []) := rfl
  have half : unit [] none (((13 * 16 + 8) * 16 + 0) * 16 + 0) = .high [] 0xD800 := by simp [unit]
  have closes : step (.high [] 0xD800) '"' = some ([.text none], .between) := rfl
  have reads := tokensFrom_unicode [] ('"' :: rest) (a := 13) (b := 8) (c := 0) (d := 0)
    (by decide) (by decide) (by decide) (by decide)
  rw [half, tokensFrom_step rest closes] at reads
  exact (tokensFrom_silent _ opens).trans reads

/-! ### All tokens -/

theorem tokensFrom_mark {token : Token} {c : Char} (rest : List Char) (spelled : token.chars = [c])
    (steps : step .between c = some ([token], .between)) :
    tokensFrom .between (token.chars ++ rest) = (tokensFrom .between rest).map (token :: ·) := by
  rw [spelled]
  exact tokensFrom_step rest steps

def Token.isScalar : Token → Bool
  | .scalar _ => true
  | _ => false

/-- Two words do not stand side by side. -/
def Apart (a b : Token) : Prop := a.isScalar = false ∨ b.isScalar = false

theorem exists_chars_of_not_scalar {token : Token} (mark : token.isScalar = false) :
    ∃ c more, token.chars = c :: more ∧ endsWord c = true := by
  cases token with
  | scalar value => cases mark
  | text value? =>
    cases value? with
    | none => exact ⟨'"', _, rfl, rfl⟩
    | some value => exact ⟨'"', _, rfl, rfl⟩
  | _ => exact ⟨_, _, rfl, rfl⟩

/-- Tokens of which no two are words side by side are read back from their characters. -/
theorem tokens?_chars {written : List Token} (words : ∀ value, .scalar value ∈ written → IsWord value)
    (apart : written.IsChain Apart) : tokens? (written.flatMap Token.chars) = some written := by
  unfold tokens?
  induction written with
  | nil => rfl
  | cons token rest ih =>
    have reads := ih (fun value mem => words value (List.mem_cons_of_mem _ mem)) apart.of_cons
    have first : tokensFrom .between (token.chars ++ rest.flatMap Token.chars) =
        (tokensFrom .between (rest.flatMap Token.chars)).map (token :: ·) := by
      cases token with
      | text value? =>
        cases value? with
        | none => exact tokensFrom_broken _
        | some value => exact tokensFrom_quoted value _
      | scalar value =>
        refine tokensFrom_scalar (words value List.mem_cons_self) ?_
        cases rest with
        | nil => simp
        | cons next more =>
          have mark : next.isScalar = false := by
            rcases (List.isChain_cons_cons.1 apart).1 with self | other
            · cases self
            · exact other
          obtain ⟨c, chars, spelled, ends⟩ := exists_chars_of_not_scalar mark
          simp [spelled, ends]
      | _ => exact tokensFrom_mark _ rfl rfl
    rw [List.flatMap_cons, first, reads, Option.map_some]

end ChallengeGame.Json
