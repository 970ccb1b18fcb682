import ChallengeGame.Proofs.Document.Json.Tokens

/-!
# Reading the text of a document

A document that is written is read back, whatever texts, lists and records it is made of:
`parse_render`. Only a number that is kept as it was spelled has to be one that reading keeps so.

The text is cut into the tokens of the document, because no two words of it stand side by side, and
the stack machine puts them together to this document whatever is still open around it.
-/

namespace ChallengeGame

/-- A document is a scalar or made of documents that have the property. -/
theorem Document.induction {motive : Document → Prop} (null : motive .null)
    (boolean : ∀ value, motive (.boolean value)) (integer : ∀ value, motive (.integer value))
    (other : ∀ spelling, motive (.other spelling)) (text : ∀ value, motive (.text value))
    (list : ∀ items : List Document, (∀ item ∈ items, motive item) → motive (.list items))
    (record : ∀ fields : List (String × Document), (∀ field ∈ fields, motive field.2) →
      motive (.record fields))
    (broken : motive .broken) : ∀ document : Document, motive document
  | .null => null
  | .boolean value => boolean value
  | .integer value => integer value
  | .other spelling => other spelling
  | .text value => text value
  | .list items => list items fun item mem =>
    have smaller : sizeOf item < 1 + sizeOf items := Nat.lt_add_left 1 (List.sizeOf_lt_of_mem mem)
    Document.induction null boolean integer other text list record broken item
  | .record fields => record fields fun field mem =>
    have smaller : sizeOf field.2 < 1 + sizeOf fields := by
      have inner : sizeOf field.2 < sizeOf field := by
        cases field
        simp only [Prod.mk.sizeOf_spec]
        omega
      have outer : sizeOf field < sizeOf fields := List.sizeOf_lt_of_mem mem
      omega
    Document.induction null boolean integer other text list record broken field.2
  | .broken => broken
termination_by document => sizeOf document

namespace Json

/-! ## The tokens of a document -/

theorem isChain_append_mark {first second : List Token} {mark : Token} (before : first.IsChain Apart)
    (after : second.IsChain Apart) (marks : mark.isScalar = false) :
    (first ++ mark :: second).IsChain Apart := by
  refine before.append (List.isChain_cons.2 ⟨fun _ _ => .inl marks, after⟩) fun _ _ next mem => ?_
  obtain rfl := Option.some.inj mem
  exact .inr marks

theorem isChain_itemTokens {items : List Document}
    (apart : ∀ item ∈ items, (tokens item).IsChain Apart) : (itemTokens items).IsChain Apart := by
  induction items with
  | nil => exact .nil
  | cons item rest ih =>
    obtain ⟨first, others⟩ := List.forall_mem_cons.1 apart
    cases rest with
    | nil => exact first
    | cons next rest => exact isChain_append_mark first (ih others) rfl

theorem isChain_namedTokens {field : String × Document} (apart : (tokens field.2).IsChain Apart) :
    (namedTokens field).IsChain Apart := by
  obtain ⟨name, value⟩ := field
  show ([Token.text (some name)] ++ Token.colon :: tokens value).IsChain Apart
  exact isChain_append_mark (.singleton _) apart rfl

theorem isChain_fieldTokens {fields : List (String × Document)}
    (apart : ∀ field ∈ fields, (tokens field.2).IsChain Apart) :
    (fieldTokens fields).IsChain Apart := by
  induction fields with
  | nil => exact .nil
  | cons field rest ih =>
    obtain ⟨first, others⟩ := List.forall_mem_cons.1 apart
    cases rest with
    | nil => exact isChain_namedTokens first
    | cons next rest => exact isChain_append_mark (isChain_namedTokens first) (ih others) rfl

theorem isChain_enclosed {opening closing : Token} {inner : List Token} (apart : inner.IsChain Apart)
    (opens : opening.isScalar = false) (closes : closing.isScalar = false) :
    (opening :: inner ++ [closing]).IsChain Apart :=
  isChain_append_mark (isChain_append_mark .nil apart opens) .nil closes

/-- No two words of a document stand side by side. -/
theorem isChain_tokens (document : Document) : (tokens document).IsChain Apart := by
  induction document using Document.induction with
  | list items apart => exact isChain_enclosed (isChain_itemTokens apart) rfl rfl
  | record fields apart => exact isChain_enclosed (isChain_fieldTokens apart) rfl rfl
  | _ => exact .singleton _

theorem exists_of_mem_itemTokens {items : List Document} {value : Document}
    (mem : .scalar value ∈ itemTokens items) : ∃ item ∈ items, .scalar value ∈ tokens item := by
  induction items with
  | nil => cases mem
  | cons item rest ih =>
    cases rest with
    | nil => exact ⟨item, List.mem_cons_self, mem⟩
    | cons next rest =>
      rcases List.mem_append.1 mem with mem | mem
      · exact ⟨item, List.mem_cons_self, mem⟩
      · obtain ⟨found, within, stands⟩ := ih (by simpa using mem)
        exact ⟨found, List.mem_cons_of_mem _ within, stands⟩

theorem exists_of_mem_fieldTokens {fields : List (String × Document)} {value : Document}
    (mem : .scalar value ∈ fieldTokens fields) : ∃ field ∈ fields, .scalar value ∈ tokens field.2 := by
  induction fields with
  | nil => cases mem
  | cons field rest ih =>
    have own (mem : .scalar value ∈ namedTokens field) : .scalar value ∈ tokens field.2 := by
      obtain ⟨name, value⟩ := field
      simpa [namedTokens] using mem
    cases rest with
    | nil => exact ⟨field, List.mem_cons_self, own mem⟩
    | cons next rest =>
      rcases List.mem_append.1 mem with mem | mem
      · exact ⟨field, List.mem_cons_self, own mem⟩
      · obtain ⟨found, within, stands⟩ := ih (by simpa using mem)
        exact ⟨found, List.mem_cons_of_mem _ within, stands⟩

theorem isWord_or_other {document value : Document} (mem : .scalar value ∈ tokens document) :
    IsWord value ∨ ∃ spelling, value = .other spelling := by
  induction document using Document.induction with
  | null =>
    cases List.mem_singleton.1 mem
    exact .inl isWord_null
  | boolean value =>
    cases List.mem_singleton.1 mem
    exact .inl (isWord_boolean value)
  | integer value =>
    cases List.mem_singleton.1 mem
    exact .inl (isWord_integer value)
  | other spelling =>
    cases List.mem_singleton.1 mem
    exact .inr ⟨spelling, rfl⟩
  | text _ | broken => cases List.mem_singleton.1 mem
  | list items ih =>
    obtain ⟨item, within, stands⟩ := exists_of_mem_itemTokens (by simpa [tokens] using mem)
    exact ih item within stands
  | record fields ih =>
    obtain ⟨field, within, stands⟩ := exists_of_mem_fieldTokens (by simpa [tokens] using mem)
    exact ih field within stands

/-- Every scalar that is kept as it was spelled reads back as this scalar. -/
def Legible (document : Document) : Prop :=
  ∀ spelling, .scalar (.other spelling) ∈ tokens document → IsWord (.other spelling)

@[simp] theorem legible_text (value : String) : Legible (.text value) := by
  intro spelling mem
  cases List.mem_singleton.1 mem

@[simp] theorem legible_integer (value : Int) : Legible (.integer value) := by
  intro spelling mem
  cases List.mem_singleton.1 mem

theorem legible_record {fields : List (String × Document)}
    (legible : ∀ field ∈ fields, Legible field.2) : Legible (.record fields) := by
  intro spelling mem
  obtain ⟨field, within, stands⟩ := exists_of_mem_fieldTokens (by simpa [tokens] using mem)
  exact legible field within spelling stands

theorem Legible.isWord {document value : Document} (legible : Legible document)
    (mem : .scalar value ∈ tokens document) : IsWord value := by
  rcases isWord_or_other mem with word | ⟨spelling, rfl⟩
  · exact word
  · exact legible spelling mem

/-! ## From tokens to documents -/

/-- What was read is complete, whatever is still open around it. -/
def Builds (document : Document) : Prop :=
  ∀ outer, (tokens document).foldlM push (.value outer) = some (.complete document outer)

theorem exists_tokens (document : Document) :
    ∃ token rest, tokens document = token :: rest ∧ token ≠ .listClose := by
  cases document <;> exact ⟨_, _, rfl, nofun⟩

theorem exists_itemTokens (item : Document) (rest : List Document) :
    ∃ token more, itemTokens (item :: rest) = token :: more ∧ token ≠ .listClose := by
  obtain ⟨token, more, written, other⟩ := exists_tokens item
  cases rest with
  | nil => exact ⟨token, more, written, other⟩
  | cons next rest =>
    exact ⟨token, more ++ .comma :: itemTokens (next :: rest),
      congrArg (· ++ _) written, other⟩

theorem foldlM_push_opened (item : Document) (rest : List Document) (more : List Token)
    (outer : List Frame) : (itemTokens (item :: rest) ++ more).foldlM push (.opened outer) =
      (itemTokens (item :: rest) ++ more).foldlM push (.value (.list [] :: outer)) := by
  obtain ⟨token, others, written, other⟩ := exists_itemTokens item rest
  have same : push (.opened outer) token = push (.value (.list [] :: outer)) token := by
    cases token with
    | listClose => exact absurd rfl other
    | _ => rfl
  rw [written, List.cons_append, List.foldlM_cons, List.foldlM_cons, same]

theorem foldlM_push_entered (field : String × Document) (rest : List (String × Document))
    (more : List Token) (outer : List Frame) :
    (fieldTokens (field :: rest) ++ more).foldlM push (.entered outer) =
      (fieldTokens (field :: rest) ++ more).foldlM push (.name [] outer) := by
  obtain ⟨name, value⟩ := field
  cases rest <;> rfl

theorem Builds.append {document : Document} (builds : Builds document) (rest : List Token)
    (outer : List Frame) : (tokens document ++ rest).foldlM push (.value outer) =
      rest.foldlM push (.complete document outer) := by
  rw [List.foldlM_append, builds outer]
  rfl

theorem foldlM_push_items {items : List Document} (builds : ∀ item ∈ items, Builds item)
    (before : List Document) (outer : List Frame) (filled : items ≠ []) :
    (itemTokens items ++ [Token.listClose]).foldlM push (.value (.list before :: outer)) =
      some (.complete (.list (before.reverse ++ items)) outer) := by
  induction items generalizing before with
  | nil => exact absurd rfl filled
  | cons item rest ih =>
    obtain ⟨first, others⟩ := List.forall_mem_cons.1 builds
    cases rest with
    | nil =>
      have closes : push (.complete item (.list before :: outer)) .listClose =
          some (.complete (.list (item :: before).reverse) outer) := rfl
      rw [itemTokens, first.append, List.foldlM_cons, closes, List.reverse_cons]
      rfl
    | cons next rest =>
      have split : itemTokens (item :: next :: rest) ++ [.listClose] =
          tokens item ++ .comma :: (itemTokens (next :: rest) ++ [.listClose]) := by
        simp [itemTokens]
      have goes : push (.complete item (.list before :: outer)) .comma =
          some (.value (.list (item :: before) :: outer)) := rfl
      have later := ih others (item :: before) (List.cons_ne_nil _ _)
      rw [List.reverse_cons, List.append_assoc, List.singleton_append] at later
      rw [split, first.append, List.foldlM_cons, goes]
      exact later

def named (field : String × Document) : Option String × Document := (some field.1, field.2)

theorem foldlM_push_fields {fields : List (String × Document)}
    (builds : ∀ field ∈ fields, Builds field.2) (before : Fields) (outer : List Frame)
    (filled : fields ≠ []) :
    (fieldTokens fields ++ [Token.recordClose]).foldlM push (.name before outer) =
      some (.complete (Fields.record ((fields.map named).reverse ++ before)) outer) := by
  induction fields generalizing before with
  | nil => exact absurd rfl filled
  | cons field rest ih =>
    obtain ⟨name, value⟩ := field
    obtain ⟨first, others⟩ := List.forall_mem_cons.1 builds
    have enters (rest : List Token) :
        (namedTokens (name, value) ++ rest).foldlM push (.name before outer) =
          (tokens value ++ rest).foldlM push (.value (.record before (some name) :: outer)) := rfl
    cases rest with
    | nil =>
      have closes : push (.complete value (.record before (some name) :: outer)) .recordClose =
          some (.complete (Fields.record ((some name, value) :: before)) outer) := rfl
      rw [fieldTokens, enters, first.append, List.foldlM_cons, closes]
      rfl
    | cons next rest =>
      have split : fieldTokens ((name, value) :: next :: rest) ++ [.recordClose] =
          namedTokens (name, value) ++ .comma :: (fieldTokens (next :: rest) ++ [.recordClose]) := by
        simp [fieldTokens]
      have goes : push (.complete value (.record before (some name) :: outer)) .comma =
          some (.name ((some name, value) :: before) outer) := rfl
      have later := ih others ((some name, value) :: before) (List.cons_ne_nil _ _)
      rw [split, enters, first.append, List.foldlM_cons, goes, List.map_cons, List.reverse_cons,
        List.append_assoc]
      exact later

theorem record_named (fields : List (String × Document)) :
    Fields.record (fields.map named).reverse = .record fields := by
  have names : (fields.map named).mapM (fun field => field.1.map (·, field.2)) = some fields :=
    List.mapM_map.trans (mapM_some fields)
  rw [Fields.record, List.reverse_reverse, names]

theorem builds (document : Document) : Builds document := by
  induction document using Document.induction with
  | list items inner =>
    intro outer
    cases items with
    | nil => rfl
    | cons item rest =>
      have opens : (tokens (.list (item :: rest))).foldlM push (.value outer) =
          (itemTokens (item :: rest) ++ [Token.listClose]).foldlM push (.opened outer) := rfl
      rw [opens, foldlM_push_opened, foldlM_push_items inner [] outer (List.cons_ne_nil _ _)]
      rfl
  | record fields inner =>
    intro outer
    cases fields with
    | nil => rfl
    | cons field rest =>
      have opens : (tokens (.record (field :: rest))).foldlM push (.value outer) =
          (fieldTokens (field :: rest) ++ [Token.recordClose]).foldlM push (.entered outer) := rfl
      rw [opens, foldlM_push_entered, foldlM_push_fields inner [] outer (List.cons_ne_nil _ _),
        List.append_nil, record_named]
  | _ => exact fun outer => rfl

theorem ofTokens?_tokens (document : Document) : ofTokens? (tokens document) = some document := by
  rw [ofTokens?, builds document []]
  rfl

/-- A written document is read back. -/
theorem parse_render {document : Document} (legible : Legible document) :
    parse (render document) = some document := by
  have cut : tokens? ((tokens document).flatMap Token.chars) = some (tokens document) :=
    tokens?_chars (fun _ mem => legible.isWord mem) (isChain_tokens document)
  rw [parse, render, String.toList_ofList, cut, Option.bind_some, ofTokens?_tokens]

end Json

end ChallengeGame
