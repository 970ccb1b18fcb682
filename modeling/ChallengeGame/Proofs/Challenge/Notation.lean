import ChallengeGame.Challenge.Notation
import ChallengeGame.Proofs.Document.Json
import ChallengeGame.Proofs.Hex

/-!
# Texts of the data model

Every value of the data model has one text, and reading this text as the same type gives the value
back: `data_model_recovered`. So two values of a type never share a text.
-/

namespace ChallengeGame

namespace Document

@[simp] theorem bytes?_bytes (value : Bytes) : (bytes value).bytes? = some value :=
  Hex.readBytes_encode value

@[simp] theorem fixed?_bytes {size : Nat} (value : FixedBytes size) :
    (bytes value.bytes).fixed? size = some value :=
  Hex.readFixed_encode value

@[simp] theorem word?_quantity (word : Word) : (quantity word.toNat).word? = some word :=
  Hex.readWord_quantity word

@[simp] theorem uint64?_ofNat (value : UInt64) : (ofNat value.toNat).uint64? = some value := by
  have bound := value.toNat_lt
  have inside : 0 ≤ (value.toNat : Int) ∧ (value.toNat : Int) < UInt64.size := by
    have size : UInt64.size = 18446744073709551616 := rfl
    omega
  rw [ofNat, uint64?, if_pos inside, Int.toNat_natCast, UInt64.ofNat_toNat]

theorem filter_name {fields : List (String × Document)} (distinct : (fields.map (·.1)).Nodup)
    {field : String × Document} (mem : field ∈ fields) :
    fields.filter (·.1 == field.1) = [field] := by
  induction fields with
  | nil => cases mem
  | cons first rest ih =>
    obtain ⟨fresh, others⟩ := List.nodup_cons.1 distinct
    have apart (other : String × Document) (mem : other ∈ rest) : other.1 ≠ first.1 :=
      fun same => fresh (List.mem_map.2 ⟨other, mem, same⟩)
    rcases List.mem_cons.1 mem with rfl | mem
    · have none : rest.filter (·.1 == field.1) = [] :=
        List.filter_eq_nil_iff.2 fun other mem => by simpa using apart other mem
      rw [List.filter_cons_of_pos (by simp), none]
    · rw [List.filter_cons_of_neg (by simpa using (apart field mem).symm), ih others mem]

/-- The fields of a record are found under their names if no two names are the same. -/
theorem fields?_record {fields : List (String × Document)} (distinct : (fields.map (·.1)).Nodup) :
    (record fields).fields? (fields.map (·.1)) = some (fields.map fun field => some field.2) := by
  have finds (part : List (String × Document)) (within : part ⊆ fields) :
      (record fields).fields? (part.map (·.1)) = some (part.map fun field => some field.2) := by
    induction part with
    | nil => rfl
    | cons field rest ih =>
      obtain ⟨mem, others⟩ := List.cons_subset.1 within
      have later := ih others
      rw [fields?] at later ⊢
      rw [List.map_cons, List.mapM_cons, filter_name distinct mem, later]
      rfl
  exact finds fields (List.Subset.refl fields)

end Document

/-! ## Documents -/

theorem Posting.ofDocument?_document (posting : Posting) :
    ofDocument? posting.document = some posting := by
  have found : posting.document.fields? ["challenged_block_number", "challenged_commitment"] = _ :=
    Document.fields?_record (by simp)
  simp [ofDocument?, found]

theorem Challenge.ofDocument?_document (record : Challenge) :
    ofDocument? record.document = some record := by
  have found : record.document.fields?
      ["arg", "challenger", "locked_bond", "start_block", "resolved_block"] = _ :=
    Document.fields?_record (by simp)
  simp [ofDocument?, found, Posting.ofDocument?_document]

theorem Resolution.ofDocument?_document (resolution : Resolution) :
    ofDocument? resolution.document = some resolution := by
  have found : resolution.document.fields? ["arg", "blob"] = _ :=
    Document.fields?_record (by simp)
  simp [ofDocument?, found, Posting.ofDocument?_document]

theorem BlockRef.ofDocument?_document (block : BlockRef) :
    ofDocument? block.document = some block := by
  have found : block.document.fields? ["hash", "number", "parent_hash", "time"] = _ :=
    Document.fields?_record (by simp)
  simp [ofDocument?, found]

theorem BlockId.ofDocument?_document (block : BlockId) :
    ofDocument? block.document = some block := by
  have found : block.document.fields? ["hash", "number"] = _ :=
    Document.fields?_record (by simp)
  simp [ofDocument?, found]

theorem ChallengeStatus.ofDocument?_document (status : ChallengeStatus) :
    ofDocument? status.document = some status := by
  cases status <;> decide

theorem CommitmentType.ofDocument?_document (type : CommitmentType) :
    ofDocument? .json type.document = some type := by
  cases type <;> decide

theorem CommitmentKind.ofDocument?_document (kind : CommitmentKind) :
    ofDocument? .json kind.document = some kind := by
  cases kind <;> decide

/-! ## Texts -/

open Json (Legible legible_record)

theorem Posting.legible (posting : Posting) : Legible posting.document :=
  legible_record (by simp [Document.quantity, Document.bytes])

theorem Challenge.legible (record : Challenge) : Legible record.document :=
  legible_record (by simp [Document.quantity, Document.bytes, Posting.legible])

theorem Resolution.legible (resolution : Resolution) : Legible resolution.document :=
  legible_record (by simp [Document.bytes, Posting.legible])

theorem BlockRef.legible (block : BlockRef) : Legible block.document :=
  legible_record (by simp [Document.ofNat, Document.bytes])

theorem BlockId.legible (block : BlockId) : Legible block.document :=
  legible_record (by simp [Document.ofNat, Document.bytes])

/-- Reading the text of a value gives the value back, and no other value has this text. -/
structure Recovers {α : Type} (document : α → Document) (read : Document → Option α) : Prop where
  back : ∀ value, (Json.parse (Json.render (document value))).bind read = some value
  apart : ∀ value other, Json.render (document value) = Json.render (document other) → value = other

theorem Recovers.of_legible {α : Type} {document : α → Document} {read : Document → Option α}
    (legible : ∀ value, Legible (document value)) (reads : ∀ value, read (document value) = some value) :
    Recovers document read := by
  have back (value : α) : (Json.parse (Json.render (document value))).bind read = some value := by
    rw [Json.parse_render (legible value), Option.bind_some, reads]
  refine ⟨back, fun value other same => ?_⟩
  have again := back value
  rw [same, back other] at again
  exact (Option.some.inj again).symm

/-- The texts of all types of the data model are read back. -/
structure DataModelRecovered : Prop where
  posting : Recovers Posting.document Posting.ofDocument?
  challenge : Recovers Challenge.document Challenge.ofDocument?
  resolution : Recovers Resolution.document Resolution.ofDocument?
  blockRef : Recovers BlockRef.document BlockRef.ofDocument?
  blockId : Recovers BlockId.document BlockId.ofDocument?
  status : Recovers ChallengeStatus.document ChallengeStatus.ofDocument?
  type : Recovers CommitmentType.document (CommitmentType.ofDocument? .json)
  kind : Recovers CommitmentKind.document (CommitmentKind.ofDocument? .json)

theorem data_model_recovered : DataModelRecovered where
  posting := .of_legible Posting.legible Posting.ofDocument?_document
  challenge := .of_legible Challenge.legible Challenge.ofDocument?_document
  resolution := .of_legible Resolution.legible Resolution.ofDocument?_document
  blockRef := .of_legible BlockRef.legible BlockRef.ofDocument?_document
  blockId := .of_legible BlockId.legible BlockId.ofDocument?_document
  status := .of_legible (fun _ => Json.legible_text _) ChallengeStatus.ofDocument?_document
  type := .of_legible (fun _ => Json.legible_text _) CommitmentType.ofDocument?_document
  kind := .of_legible (fun _ => Json.legible_text _) CommitmentKind.ofDocument?_document

example : Json.render (Posting.document ⟨256, [0x01, 0xff]⟩) =
    "\x7b\"challenged_block_number\":\"0x100\",\"challenged_commitment\":\"0x01ff\"\x7d" := by
  decide +kernel

end ChallengeGame
