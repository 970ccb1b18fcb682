import ChallengeGame.Batch
import ChallengeGame.Proofs.Alike

/-!
# Whose transactions matter

A block is full of transactions of others, and their blobs are numbered together with those of
the batches. What a block is read as depends on its batches only: other transactions shift the
numbers of the requested blobs, and nothing else.
-/

namespace ChallengeGame.Batch

open Program (Likeness Similar)

variable {rollup : Rollup} {requested others : List Slot}

/-! ## Slots -/

def Slot.content : Slot → Bytes ⊕ Hash
  | calldata data => .inl data
  | blob wanted => .inr wanted.hash

def contents (batch : L1Transaction) : List (Bytes ⊕ Hash) :=
  if batch.blobs.isEmpty then [.inl batch.input] else batch.blobs.map .inr

theorem content_numbered (index : Nat) (hashes : List Hash) :
    ((numbered index hashes).map .blob).map Slot.content = hashes.map .inr := by
  induction hashes generalizing index with
  | nil => rfl
  | cons hash rest ih => exact congrArg (.inr hash :: ·) (ih _)

theorem content_slots (rollup : Rollup) (index : Nat) (transactions : List L1Transaction) :
    (slots rollup index transactions).map Slot.content =
      (transactions.filter rollup.isBatch).flatMap contents := by
  -- the number of blobs before a transaction only shows in the indices, which contents leave out
  induction transactions generalizing index with
  | nil => rfl
  | cons transaction rest ih =>
    rw [slots, List.map_append, ih]
    by_cases batch : rollup.isBatch transaction = true
    · rw [List.filter_cons_of_pos batch, List.flatMap_cons, if_pos batch, contents]
      split
      · rfl
      · rw [content_numbered]
    · rw [List.filter_cons_of_neg batch, if_neg batch]
      rfl

theorem fill_congr (same : requested.map Slot.content = others.map Slot.content)
    (blobs : List Bytes) : fill requested blobs = fill others blobs := by
  induction requested generalizing others blobs with
  | nil =>
    cases List.map_eq_nil_iff.1 same.symm
    rfl
  | cons slot rest ih =>
    cases others with
    | nil => cases same
    | cons other _ =>
      obtain ⟨first, tail⟩ := List.cons.inj same
      cases slot with
      | calldata data =>
        cases other with
        | calldata _ => cases first; exact congrArg (data :: ·) (ih tail blobs)
        | blob _ => cases first
      | blob wanted =>
        cases other with
        | calldata _ => cases first
        | blob _ =>
          cases blobs with
          | nil => exact ih tail []
          | cons blob more => exact congrArg (blob :: ·) (ih tail more)

theorem hashes_requested (requested : List Slot) :
    (requested.filterMap Slot.blob?).map IndexedBlob.hash =
      (requested.map Slot.content).filterMap Sum.getRight? := by
  induction requested with
  | nil => rfl
  | cons slot rest ih =>
    cases slot with
    | calldata data => exact ih
    | blob wanted => exact congrArg (wanted.hash :: ·) ih

/-! ## Reading -/

abbrev Exchange := Program.Exchange Query Query.Answer

/-- The same question about the same block, but for the numbers of blobs. -/
def Query.Alike : Query → Query → Prop
  | .transactions block, .transactions other => block = other
  | .blobs block requested, .blobs other others =>
    block = other ∧ requested.map IndexedBlob.hash = others.map IndexedBlob.hash
  | _, _ => False

/-- The same question, answered by the same failure or by the same batches and the same blobs. -/
def Exchange.Alike (rollup : Rollup) : Exchange → Exchange → Prop
  | ⟨.transactions block, fetched⟩, ⟨.transactions other, fetched'⟩ =>
    block = other ∧
      fetched.map (List.filter rollup.isBatch) = fetched'.map (List.filter rollup.isBatch)
  | ⟨.blobs block requested, fetched⟩, ⟨.blobs other others, fetched'⟩ =>
    Query.Alike (.blobs block requested) (.blobs other others) ∧ fetched = fetched'
  | _, _ => False

/-- Views of L1 that differ in the transactions of others. -/
def outsiders (rollup : Rollup) : Likeness Query Query.Answer :=
  ⟨Query.Alike, Exchange.Alike rollup⟩

/-- What can be fetched. A blob is found by its hash, whatever its number. -/
structure View where
  transactions : Hash → Except L1Error (List L1Transaction)
  blobs : BlockRef → List Hash → Except Failure (List Bytes)

def View.answer (view : View) : (query : Query) → query.Answer
  | .transactions block => view.transactions block
  | .blobs block requested => view.blobs block (requested.map IndexedBlob.hash)

theorem View.alike {view other : View}
    (batches : ∀ block, (view.transactions block).map (List.filter rollup.isBatch) =
      (other.transactions block).map (List.filter rollup.isBatch))
    (blobs : view.blobs = other.blobs) (query query' : Query) (same : query.Alike query') :
    Exchange.Alike rollup ⟨query, view.answer query⟩ ⟨query', other.answer query'⟩ := by
  cases query with
  | transactions block =>
    cases query' with
    | transactions other =>
      obtain rfl : block = other := same
      exact ⟨rfl, batches block⟩
    | blobs _ _ => cases same
  | blobs block requested =>
    cases query' with
    | transactions _ => cases same
    | blobs _ _ =>
      refine ⟨same, ?_⟩
      obtain ⟨rfl, hashes⟩ := same
      rw [View.answer, View.answer, blobs, hashes]

theorem loadBlobs_similar (block : BlockRef)
    (same : requested.map Slot.content = others.map Slot.content) :
    Similar (outsiders rollup) (loadBlobs block requested) (loadBlobs block others) := by
  have hashes : (requested.filterMap Slot.blob?).map IndexedBlob.hash =
      (others.filterMap Slot.blob?).map IndexedBlob.hash := by
    rw [hashes_requested, hashes_requested, same]
  have lengths : (requested.filterMap Slot.blob?).length =
      (others.filterMap Slot.blob?).length := by
    simpa using congrArg List.length hashes
  have empty : (requested.filterMap Slot.blob?).isEmpty =
      (others.filterMap Slot.blob?).isEmpty := by
    rw [Bool.eq_iff_iff, List.isEmpty_iff_length_eq_zero, List.isEmpty_iff_length_eq_zero, lengths]
  simp only [loadBlobs, empty]
  split
  · rw [fill_congr same]
    exact .done _
  · refine .ask ⟨rfl, hashes⟩ fun fetched fetched' alike => ?_
    obtain ⟨_, rfl⟩ := alike
    cases fetched with
    | error failure => exact .done _
    | ok blobs =>
      show Similar _ (if _ then _ else _) (if _ then _ else _)
      rw [lengths, fill_congr same]
      split <;> exact .done _

theorem load_similar (source : Source) :
    Similar (outsiders source.rollup) source.load source.load := by
  refine .ask rfl fun fetched fetched' alike => ?_
  obtain ⟨_, same⟩ := alike
  cases fetched with
  | error error =>
    cases fetched' with
    | error _ => cases same; exact .done _
    | ok _ => cases same
  | ok transactions =>
    -- the batches are the same, whatever stands between them
    cases fetched' with
    | error _ => cases same
    | ok transactions' =>
      have batches : transactions.filter source.rollup.isBatch =
          transactions'.filter source.rollup.isBatch := Except.ok.inj same
      show Similar _ (if _ then _ else _) (if _ then _ else _)
      split
      · refine loadBlobs_similar source.block ?_
        rw [content_slots, content_slots, batches]
      · rw [calldata, calldata, batches]
        exact .done _

end ChallengeGame.Batch
