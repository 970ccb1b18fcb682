import ChallengeGame.Node.Blocks
import ChallengeGame.Proofs.Blobs

/-!
# Loading until it succeeds

Both kinds of sources load alike. A load that fails leaves nothing behind, so the next call asks for
everything again. The entries of the first load that succeeds are handed out once each, and nothing
is asked for after it. Only a block that the node does not know is a reason to start over.
-/

namespace ChallengeGame

/-! ## Blocks that a node does not know -/

namespace Node

variable {hash named : Hash} {reply : Reply} {documents : List Document} {error : BlockError}

theorem exists_of_mapM_transaction (failed : documents.mapM transaction = .error error) :
    ∃ document ∈ documents, transaction document = .error error := by
  induction documents with
  | nil => cases failed
  | cons document rest ih =>
    rw [List.mapM_cons] at failed
    cases first : transaction document with
    | error fault =>
      rw [first] at failed
      cases failed
      exact ⟨document, List.mem_cons_self, first⟩
    | ok _ =>
      cases others : rest.mapM transaction with
      | error fault =>
        rw [first, others] at failed
        cases failed
        obtain ⟨other, mem, same⟩ := ih others
        exact ⟨other, List.mem_cons_of_mem _ mem, same⟩
      | ok _ => simp [first, others, bind, Except.bind, pure, Except.pure] at failed

theorem transaction_ne_notFound (document : Document) :
    transaction document ≠ .error (.notFound named) := by
  unfold transaction
  split <;> simp

theorem eq_of_transactions_notFound (unknown : transactions hash reply = .error (.notFound named)) :
    named = hash := by
  unfold transactions at unknown
  split at unknown
  · simp at unknown
  · cases unknown; rfl
  · obtain ⟨document, _, failed⟩ := exists_of_mapM_transaction unknown
    exact absurd failed (transaction_ne_notFound document)

theorem eq_of_transactions_unknown
    (unknown : (transactions hash reply).mapError BlockError.error = .error (.notFound named)) :
    named = hash := by
  cases found : transactions hash reply with
  | ok _ => simp [found, Except.mapError] at unknown
  | error error =>
    cases error with
    | notFound other =>
      simp only [found, Except.mapError, BlockError.error, Except.error.injEq,
        L1Error.notFound.injEq] at unknown
      exact unknown ▸ eq_of_transactions_notFound found
    | fault _ | malformedBlobs _ => simp [found, Except.mapError, BlockError.error] at unknown

end Node

namespace Batch

variable {rollup : Rollup} {block : BlockRef} {source : Source} {hasBlobs : Bool}
  {trace : List Exchange} {loaded : Except SourceError (List Bytes)} {error : SourceError}

/-! ## One load -/

/-- A load of a block's entries, from call data or, from the upgrade on, from blobs. -/
inductive Attempt (rollup : Rollup) (block : BlockRef) :
    List Exchange → Except SourceError (List Bytes) → Prop
  | unlisted (early : rollup.isEcotone block.time = false) (error : L1Error) :
    Attempt rollup block [⟨.transactions block.hash, .error error⟩] (.error (.ofL1 error))
  | listed (early : rollup.isEcotone block.time = false) (transactions : List L1Transaction) :
    Attempt rollup block [⟨.transactions block.hash, .ok transactions⟩]
      (.ok (calldata rollup transactions))
  | blobs (upgraded : rollup.isEcotone block.time = true) {trace : List Exchange}
    {loaded : Except SourceError (List Bytes)} (extracts : Extracts rollup block trace loaded) :
    Attempt rollup block trace loaded

theorem open_eq_ok (opened : Source.open rollup hasBlobs block = .ok source) :
    source = ⟨rollup, block, rollup.isEcotone block.time⟩ := by
  unfold Source.open at opened
  split at opened
  · split at opened <;> simp_all
  · simp_all

theorem yields_load_calldata_iff :
    Program.Yields (Source.load ⟨rollup, block, false⟩) trace loaded ↔
      ∃ fetched : Except L1Error (List L1Transaction),
        trace = [⟨.transactions block.hash, fetched⟩] ∧
          loaded = (fetched.mapError .ofL1).map (calldata rollup) := by
  constructor
  · intro run
    obtain ⟨fetched, _, rest, rfl, asked, tail⟩ := Program.yields_bind.1 run
    obtain rfl := Program.yields_query.1 asked
    refine ⟨fetched, ?_⟩
    cases fetched <;> obtain ⟨rfl, rfl⟩ := Program.yields_done.1 tail <;> exact ⟨rfl, rfl⟩
  · rintro ⟨fetched, rfl, rfl⟩
    refine Program.yields_bind.2 ⟨fetched, _, [], rfl, Program.yields_query.2 rfl, ?_⟩
    cases fetched <;> exact .done _

theorem yields_load_opened_iff (opened : Source.open rollup hasBlobs block = .ok source) :
    Program.Yields source.load trace loaded ↔ Attempt rollup block trace loaded := by
  rw [open_eq_ok opened]
  cases upgraded : rollup.isEcotone block.time with
  | true =>
    rw [yields_load_iff]
    constructor
    · exact .blobs upgraded
    · rintro (early | early | ⟨_, extracts⟩)
      · rw [upgraded] at early; cases early
      · rw [upgraded] at early; cases early
      · exact extracts
  | false =>
    rw [yields_load_calldata_iff]
    constructor
    · rintro ⟨error | transactions, rfl, rfl⟩
      · exact .unlisted upgraded error
      · exact .listed upgraded transactions
    · rintro (⟨_, error⟩ | ⟨_, transactions⟩ | ⟨late, _⟩)
      · exact ⟨.error error, rfl, rfl⟩
      · exact ⟨.ok transactions, rfl, rfl⟩
      · rw [upgraded] at late; cases late

/-! ## Why a load fails -/

theorem ofL1_eq_reset_iff {cause : L1Error} {hash : Hash} :
    SourceError.ofL1 cause = .reset hash ↔ cause = .notFound hash := by
  cases cause <;> simp [SourceError.ofL1]

/-- A load starts over for an unknown block, and is worth another try in every other case. -/
theorem Attempt.error_cases (attempt : Attempt rollup block trace (.error error)) :
    (∃ cause, trace = [⟨.transactions block.hash, .error cause⟩] ∧ error = .ofL1 cause) ∨
      (∃ transactions : List L1Transaction, ∃ rest,
        trace = ⟨.transactions block.hash, .ok transactions⟩ :: rest) ∧
        ∃ failure, error = .temporary failure := by
  generalize failed : (.error error : Except SourceError (List Bytes)) = loaded at attempt
  cases attempt with
  | unlisted _ cause => cases failed; exact .inl ⟨cause, rfl, rfl⟩
  | listed _ _ => cases failed
  | blobs _ extracts =>
    cases extracts with
    | withheld cause => cases failed; exact .inl ⟨cause, rfl, rfl⟩
    | bare _ _ | dealt _ _ => cases failed
    | missing _ failure => cases failed; exact .inr ⟨⟨_, _, rfl⟩, failure, rfl⟩
    | miscounted _ _ => cases failed; exact .inr ⟨⟨_, _, rfl⟩, _, rfl⟩

theorem Attempt.error_eq_reset_iff (attempt : Attempt rollup block trace (.error error))
    (hash : Hash) :
    error = .reset hash ↔ trace = [⟨.transactions block.hash, .error (.notFound hash)⟩] := by
  rcases attempt.error_cases with ⟨cause, rfl, rfl⟩ | ⟨⟨transactions, rest, rfl⟩, failure, rfl⟩
  · simp [ofL1_eq_reset_iff]
  · simp

theorem Attempt.error_eq (attempt : Attempt rollup block trace (.error error)) :
    (∃ hash, error = .reset hash) ∨ ∃ failure, error = .temporary failure := by
  rcases attempt.error_cases with ⟨cause, _, rfl⟩ | ⟨_, failure, rfl⟩
  · cases cause with
    | notFound hash => exact .inl ⟨hash, rfl⟩
    | other failure => exact .inr ⟨failure, rfl⟩
  · exact .inr ⟨failure, rfl⟩

/-! ## The whole source -/

/-- How a source that was opened is read, however its fetches go. Opening is no reading, so all
fetches are those of the calls. -/
theorem reading_resumes (opened : Source.open rollup hasBlobs block = .ok source) :
    (∀ count trace results reader,
      Program.Yields (Reader.nexts count (.of source)) trace (results, reader) ↔
        reader.source = source ∧
          ∃ errors entries?, Reader.Fetches (Attempt rollup block) count trace errors entries? ∧
            results = errors.map .error ++
              Reader.replies (count - errors.length) (entries?.getD []) ∧
            reader.entries? = entries?.map (List.drop (count - errors.length))) ∧
    (∀ trace error, Attempt rollup block trace (.error error) →
      (∀ hash, error = .reset hash ↔
        trace = [⟨.transactions block.hash, .error (.notFound hash)⟩]) ∧
      ((∃ hash, error = .reset hash) ∨ ∃ failure, error = .temporary failure)) ∧
    ∀ reply hash, (Node.transactions block.hash reply).mapError Node.BlockError.error =
      .error (.notFound hash) → hash = block.hash := by
  refine ⟨fun count trace results reader => ?_, fun trace error attempt => ?_, fun reply hash => ?_⟩
  · rw [Reader.yields_nexts_fetches_iff]
    have attempts (errors : List SourceError) (entries? : Option (List Bytes)) :
        Reader.Fetches (Program.Yields source.load) count trace errors entries? ↔
          Reader.Fetches (Attempt rollup block) count trace errors entries? :=
      ⟨fun fetches => fetches.imp fun _ _ => (yields_load_opened_iff opened).1,
        fun fetches => fetches.imp fun _ _ => (yields_load_opened_iff opened).2⟩
    simp only [attempts]
  · exact ⟨attempt.error_eq_reset_iff, attempt.error_eq⟩
  · exact Node.eq_of_transactions_unknown

/-- The block is unknown at first, then its blob is missing, then not delivered, and then there. -/
theorem reading_resumes_after_failures :
    let inbox : Address := ⟨List.replicate 20 1, rfl⟩
    let batcher : Address := ⟨List.replicate 20 2, rfl⟩
    let hash (byte : UInt8) : Hash := ⟨List.replicate 32 byte, rfl⟩
    let rollup : Rollup := ⟨inbox, [batcher], some 0⟩
    let block : BlockRef := ⟨hash 0, 7, hash 0, 0⟩
    let carrying : L1Transaction := ⟨hash 3, batcher, some inbox, [6], [hash 12]⟩
    Source.open rollup true block = .ok ⟨rollup, block, true⟩ ∧
    Program.Yields (Reader.nexts 5 (.of ⟨rollup, block, true⟩))
      [⟨.transactions (hash 0), .error (.notFound (hash 0))⟩,
        ⟨.transactions (hash 0), .ok [carrying]⟩,
        ⟨.blobs block [⟨0, hash 12⟩], .error ⟨"offline", []⟩⟩,
        ⟨.transactions (hash 0), .ok [carrying]⟩, ⟨.blobs block [⟨0, hash 12⟩], .ok []⟩,
        ⟨.transactions (hash 0), .ok [carrying]⟩, ⟨.blobs block [⟨0, hash 12⟩], .ok [[1]]⟩]
      ([.error (.reset (hash 0)), .error (.temporary ⟨"offline", []⟩), .error (countFault 1 0),
        .ok (some [1]), .ok none], ⟨⟨rollup, block, true⟩, some []⟩) ∧
    (Node.transactions (hash 0) (.result .null)).mapError Node.BlockError.error =
      .error (.notFound (hash 0)) := by
  intro inbox batcher hash rollup block carrying
  have opened : Source.open rollup true block = .ok ⟨rollup, block, true⟩ := rfl
  obtain ⟨reads, -, -⟩ := reading_resumes opened
  have wants : wanted rollup [carrying] ≠ [] := List.cons_ne_nil _ _
  have unknown : Attempt rollup block [⟨.transactions (hash 0), .error (.notFound (hash 0))⟩]
      (.error (.reset (hash 0))) := .blobs rfl (.withheld _)
  have missing : Attempt rollup block
      [⟨.transactions (hash 0), .ok [carrying]⟩,
        ⟨.blobs block [⟨0, hash 12⟩], .error ⟨"offline", []⟩⟩]
      (.error (.temporary ⟨"offline", []⟩)) := .blobs rfl (.missing wants _)
  have undelivered : Attempt rollup block
      [⟨.transactions (hash 0), .ok [carrying]⟩, ⟨.blobs block [⟨0, hash 12⟩], .ok []⟩]
      (.error (countFault 1 0)) := .blobs rfl (.miscounted wants (by decide))
  have own : Dealt rollup [carrying] ([[1]] ++ []) ([[1]] ++ []) :=
    .blobs rfl (List.cons_ne_nil _ _) rfl .nil
  have there : Attempt rollup block
      [⟨.transactions (hash 0), .ok [carrying]⟩, ⟨.blobs block [⟨0, hash 12⟩], .ok [[1]]⟩]
      (.ok [[1]]) := .blobs rfl (.dealt wants own)
  refine ⟨opened, (reads 5 _ _ _).2 ⟨rfl, [_, _, _], some [[1]], ?_, rfl, rfl⟩, rfl⟩
  exact .failed unknown (.failed missing (.failed undelivered (.loaded there)))

end Batch

end ChallengeGame
