import ChallengeGame.Proofs.Reader

/-!
# Which blobs are fetched and where they go

A load asks for the blobs of the batches at their places among all blobs of the block, and puts the
answer where the batches stand in the block: a batch without blobs gives its call data, a batch with
blobs as many of the answered blobs as it has, in the order of the block. Without any blobs in the
block this is what a source of call data gives.
-/

namespace ChallengeGame.Batch

variable {rollup : Rollup} {block : BlockRef} {transaction : L1Transaction}
  {transactions : List L1Transaction} {blobs entries own : List Bytes} {start : Nat}

/-! ## Places -/

def carried (transactions : List L1Transaction) : List (L1Transaction × Hash) :=
  transactions.flatMap fun transaction => transaction.blobs.map (transaction, ·)

/-- The blobs of batches, each with its place in the block. -/
def wantedFrom (rollup : Rollup) (start : Nat) (transactions : List L1Transaction) : List IndexedBlob :=
  (((carried transactions).zipIdx start).filter fun blob => rollup.isBatch blob.1.1).map fun blob =>
    ⟨UInt64.ofNat blob.2, blob.1.2⟩

def wanted (rollup : Rollup) (transactions : List L1Transaction) : List IndexedBlob :=
  wantedFrom rollup 0 transactions

theorem numbered_eq (start : Nat) (hashes : List Hash) :
    numbered start hashes = (hashes.zipIdx start).map fun blob => ⟨UInt64.ofNat blob.2, blob.1⟩ := by
  induction hashes generalizing start with
  | nil => rfl
  | cons hash rest ih => rw [numbered, ih, List.zipIdx_cons, List.map_cons]

theorem length_numbered (start : Nat) (hashes : List Hash) :
    (numbered start hashes).length = hashes.length := by
  rw [numbered_eq, List.length_map, List.length_zipIdx]

theorem blob?_numbered (start : Nat) (hashes : List Hash) :
    ((numbered start hashes).map Slot.blob).filterMap Slot.blob? = numbered start hashes := by
  rw [List.filterMap_map]
  exact List.filterMap_some

theorem wantedFrom_cons :
    wantedFrom rollup start (transaction :: transactions) =
      (if rollup.isBatch transaction then numbered start transaction.blobs else []) ++
        wantedFrom rollup (start + transaction.blobs.length) transactions := by
  -- all blobs of one transaction are wanted, or none of them
  have first : (((transaction.blobs.map (transaction, ·)).zipIdx start).filter fun blob =>
        rollup.isBatch blob.1.1).map (fun blob => (⟨UInt64.ofNat blob.2, blob.1.2⟩ : IndexedBlob)) =
      if rollup.isBatch transaction then numbered start transaction.blobs else [] := by
    rw [List.zipIdx_map, List.filter_map, List.map_map]
    split
    · rename_i batch
      rw [numbered_eq]
      exact congrArg (List.map _) (List.filter_eq_self.2 fun _ _ => batch)
    · rename_i foreign
      exact congrArg (List.map _) (List.filter_eq_nil_iff.2 fun _ _ => foreign)
  rw [wantedFrom, carried, List.flatMap_cons, List.zipIdx_append, List.filter_append, List.map_append,
    first, List.length_map]
  rfl

theorem blob?_slots (start : Nat) (transactions : List L1Transaction) :
    (slots rollup start transactions).filterMap Slot.blob? = wantedFrom rollup start transactions := by
  -- `start` counts the blobs of all transactions before, batches or not
  induction transactions generalizing start with
  | nil => rfl
  | cons transaction rest ih =>
    rw [slots, List.filterMap_append, ih, wantedFrom_cons]
    congr 1
    split
    · split
      · rename_i none
        rw [List.isEmpty_iff.1 none]
        rfl
      · exact blob?_numbered start transaction.blobs
    · rfl

/-! ## Entries -/

/-- What comes of the transactions of a block and the blobs that were answered. -/
inductive Dealt (rollup : Rollup) : List L1Transaction → List Bytes → List Bytes → Prop
  | nil : Dealt rollup [] [] []
  | foreign {transaction : L1Transaction} {transactions : List L1Transaction} {blobs entries : List Bytes}
    (other : rollup.isBatch transaction = false) (rest : Dealt rollup transactions blobs entries) :
    Dealt rollup (transaction :: transactions) blobs entries
  | calldata {transaction : L1Transaction} {transactions : List L1Transaction} {blobs entries : List Bytes}
    (batch : rollup.isBatch transaction = true) (none : transaction.blobs = [])
    (rest : Dealt rollup transactions blobs entries) :
    Dealt rollup (transaction :: transactions) blobs (transaction.input :: entries)
  | blobs {transaction : L1Transaction} {transactions : List L1Transaction}
    {own blobs entries : List Bytes} (batch : rollup.isBatch transaction = true)
    (some : transaction.blobs ≠ []) (all : own.length = transaction.blobs.length)
    (rest : Dealt rollup transactions blobs entries) :
    Dealt rollup (transaction :: transactions) (own ++ blobs) (own ++ entries)

theorem fill_blobs {requested : List IndexedBlob} (all : own.length = requested.length)
    (others : List Slot) (blobs : List Bytes) :
    fill (requested.map Slot.blob ++ others) (own ++ blobs) = own ++ fill others blobs := by
  induction requested generalizing own with
  | nil =>
    obtain rfl := List.length_eq_zero_iff.1 all
    rfl
  | cons blob rest ih =>
    obtain ⟨first, own, rfl⟩ := List.exists_cons_of_length_eq_add_one all
    exact congrArg (first :: ·) (ih (Nat.succ.inj all))

theorem dealt_iff (start : Nat) :
    Dealt rollup transactions blobs entries ↔
      blobs.length = (wantedFrom rollup start transactions).length ∧
        fill (slots rollup start transactions) blobs = entries := by
  induction transactions generalizing start blobs entries with
  | nil =>
    constructor
    · rintro ⟨⟩; exact ⟨rfl, rfl⟩
    · rintro ⟨none, rfl⟩
      obtain rfl := List.length_eq_zero_iff.1 none
      exact .nil
  | cons transaction rest ih =>
    rw [wantedFrom_cons, slots]
    -- each kind of transaction fits one rule for what is dealt out
    by_cases batch : rollup.isBatch transaction = true
    · rw [if_pos batch, if_pos batch, List.length_append, length_numbered]
      by_cases none : transaction.blobs = []
      · rw [none, List.isEmpty_nil, if_pos rfl, List.length_nil, Nat.zero_add]
        constructor
        · intro dealt
          cases dealt with
          | foreign other _ => exact absurd batch (by rw [other]; exact Bool.false_ne_true)
          | calldata _ _ dealt =>
            obtain ⟨count, filled⟩ := (ih start).1 dealt
            exact ⟨count, congrArg (transaction.input :: ·) filled⟩
          | blobs _ some => exact absurd none some
        · rintro ⟨count, rfl⟩
          exact .calldata batch none ((ih start).2 ⟨count, rfl⟩)
      · rw [if_neg fun empty => none (List.isEmpty_iff.1 empty)]
        constructor
        · intro dealt
          cases dealt with
          | foreign other _ => exact absurd batch (by rw [other]; exact Bool.false_ne_true)
          | calldata _ empty => exact absurd empty none
          | @blobs _ _ own blobs entries _ _ all dealt =>
            obtain ⟨count, filled⟩ := (ih (start + transaction.blobs.length)).1 dealt
            rw [fill_blobs (all.trans (length_numbered start _).symm), filled, List.length_append, all,
              count]
            exact ⟨rfl, rfl⟩
        · rintro ⟨count, rfl⟩
          -- the first of the blobs are those of this transaction
          obtain ⟨own, others, rfl, all⟩ : ∃ own others, blobs = own ++ others ∧
              own.length = transaction.blobs.length :=
            ⟨blobs.take transaction.blobs.length, blobs.drop transaction.blobs.length,
              (List.take_append_drop ..).symm, List.length_take_of_le (by omega)⟩
          rw [fill_blobs (all.trans (length_numbered start _).symm)]
          rw [List.length_append, all] at count
          exact .blobs batch none all ((ih _).2 ⟨Nat.add_left_cancel count, rfl⟩)
    · rw [if_neg batch, if_neg batch]
      constructor
      · intro dealt
        cases dealt with
        | foreign _ dealt => exact (ih _).1 dealt
        | calldata yes => exact absurd yes batch
        | blobs yes => exact absurd yes batch
      · intro dealt
        exact .foreign (Bool.eq_false_iff.2 batch) ((ih _).2 dealt)

/-! ## Loads -/

/-- A load of the entries of a block with blobs: what is asked and answered, and what comes of it. -/
inductive Extracts (rollup : Rollup) (block : BlockRef) :
    List Exchange → Except SourceError (List Bytes) → Prop
  | withheld (error : L1Error) :
    Extracts rollup block [⟨.transactions block.hash, .error error⟩] (.error (.ofL1 error))
  | bare {transactions : List L1Transaction} {entries : List Bytes}
    (none : wanted rollup transactions = []) (dealt : Dealt rollup transactions [] entries) :
    Extracts rollup block [⟨.transactions block.hash, .ok transactions⟩] (.ok entries)
  | missing {transactions : List L1Transaction} (some : wanted rollup transactions ≠ [])
    (failure : Failure) :
    Extracts rollup block
      [⟨.transactions block.hash, .ok transactions⟩,
        ⟨.blobs block (wanted rollup transactions), .error failure⟩]
      (.error (.temporary failure))
  | miscounted {transactions : List L1Transaction} {blobs : List Bytes}
    (some : wanted rollup transactions ≠ [])
    (other : blobs.length ≠ (wanted rollup transactions).length) :
    Extracts rollup block
      [⟨.transactions block.hash, .ok transactions⟩,
        ⟨.blobs block (wanted rollup transactions), .ok blobs⟩]
      (.error (countFault (wanted rollup transactions).length blobs.length))
  | dealt {transactions : List L1Transaction} {blobs entries : List Bytes}
    (some : wanted rollup transactions ≠ []) (dealt : Dealt rollup transactions blobs entries) :
    Extracts rollup block
      [⟨.transactions block.hash, .ok transactions⟩,
        ⟨.blobs block (wanted rollup transactions), .ok blobs⟩]
      (.ok entries)

def received (places : List Slot) (requested : Nat) :
    Except Failure (List Bytes) → Except SourceError (List Bytes)
  | .error failure => .error (.temporary failure)
  | .ok blobs =>
    if blobs.length = requested then .ok (fill places blobs)
    else .error (countFault requested blobs.length)

theorem yields_loadBlobs_iff {places : List Slot} {requested : List IndexedBlob}
    (waiting : places.filterMap Slot.blob? = requested) {trace : List Exchange}
    {loaded : Except SourceError (List Bytes)} :
    Program.Yields (loadBlobs block places) trace loaded ↔
      requested = [] ∧ trace = [] ∧ loaded = .ok (fill places []) ∨
        requested ≠ [] ∧ ∃ fetched : Except Failure (List Bytes),
          trace = [⟨.blobs block requested, fetched⟩] ∧
            loaded = received places requested.length fetched := by
  subst waiting
  by_cases none : places.filterMap Slot.blob? = []
  · -- nobody waits for a blob, so nothing is asked
    have quiet : loadBlobs block places = pure (.ok (fill places [])) :=
      if_pos (List.isEmpty_iff.2 none)
    rw [quiet]
    exact Program.yields_done.trans ⟨fun told => .inl ⟨none, told⟩, fun told =>
      told.elim (fun told => told.2) fun told => absurd none told.1⟩
  · have asking : loadBlobs block places =
        (Program.query (Query.blobs block (places.filterMap Slot.blob?)) >>= fun fetched =>
          pure (received places (places.filterMap Slot.blob?).length fetched)) := by
      refine (if_neg fun empty => none (List.isEmpty_iff.1 empty)).trans
        (congrArg _ (funext fun fetched => ?_))
      cases fetched with
      | error failure => rfl
      | ok blobs => simp only [received]; split <;> rfl
    rw [asking, Program.yields_bind]
    constructor
    · rintro ⟨fetched, before, after, rfl, asked, done⟩
      obtain rfl := Program.yields_query.1 asked
      obtain ⟨rfl, rfl⟩ := Program.yields_done.1 done
      exact .inr ⟨none, fetched, rfl, rfl⟩
    · rintro (⟨empty, _⟩ | ⟨_, fetched, rfl, rfl⟩)
      · exact absurd empty none
      · exact ⟨fetched, _, [], rfl, Program.yields_query.2 rfl, .done _⟩

theorem yields_load_iff {trace : List Exchange} {loaded : Except SourceError (List Bytes)} :
    Program.Yields (Source.load ⟨rollup, block, true⟩) trace loaded ↔
      Extracts rollup block trace loaded := by
  constructor
  · intro run
    obtain ⟨fetched, _, rest, rfl, asked, tail⟩ := Program.yields_bind.1 run
    obtain rfl := Program.yields_query.1 asked
    cases fetched with
    | error error =>
      obtain ⟨rfl, rfl⟩ := Program.yields_done.1 tail
      exact .withheld error
    | ok transactions =>
      rcases (yields_loadBlobs_iff (blob?_slots 0 transactions)).1 tail with
        ⟨none, rfl, rfl⟩ | ⟨some, fetched, rfl, rfl⟩
      · exact .bare none ((dealt_iff 0).2 ⟨(congrArg List.length none).symm, rfl⟩)
      · cases fetched with
        | error failure => exact .missing some failure
        | ok blobs =>
          rw [received]
          split
          · rename_i all
            exact .dealt some ((dealt_iff 0).2 ⟨all, rfl⟩)
          · rename_i other
            exact .miscounted some other
  · intro extracts
    -- whatever the transactions, the rest of the load is a question for their blobs
    have asked {transactions : List L1Transaction} {rest : List Exchange}
        (tail : Program.Yields (loadBlobs block (slots rollup 0 transactions)) rest loaded) :
        Program.Yields (Source.load ⟨rollup, block, true⟩)
          (⟨.transactions block.hash, .ok transactions⟩ :: rest) loaded :=
      Program.yields_bind.2 ⟨(.ok transactions : Except L1Error (List L1Transaction)), _, rest, rfl,
        Program.yields_query.2 rfl, tail⟩
    have fetched {transactions : List L1Transaction} (some : wanted rollup transactions ≠ [])
        {fetched : Except Failure (List Bytes)}
        (same : loaded = received (slots rollup 0 transactions) (wanted rollup transactions).length
          fetched) :
        Program.Yields (Source.load ⟨rollup, block, true⟩)
          [⟨.transactions block.hash, .ok transactions⟩,
            ⟨.blobs block (wanted rollup transactions), fetched⟩] loaded :=
      asked ((yields_loadBlobs_iff (blob?_slots 0 transactions)).2 (.inr ⟨some, fetched, rfl, same⟩))
    cases extracts with
    | withheld error =>
      exact Program.yields_bind.2 ⟨(.error error : Except L1Error (List L1Transaction)), _, [], rfl,
        Program.yields_query.2 rfl, .done _⟩
    | @bare transactions _ none dealt =>
      obtain ⟨-, rfl⟩ := (dealt_iff 0).1 dealt
      exact asked ((yields_loadBlobs_iff (blob?_slots 0 transactions)).2 (.inl ⟨none, rfl, rfl⟩))
    | missing some failure => exact fetched some rfl
    | miscounted some other => exact fetched some (if_neg other).symm
    | dealt some dealt =>
      obtain ⟨all, rfl⟩ := (dealt_iff 0).1 dealt
      exact fetched some (if_pos all).symm

/-! ## Blocks without blobs -/

/-- No transaction that was fetched carries a blob. -/
def Blobless (trace : List Exchange) : Prop :=
  ∀ hash, ∀ transactions : List L1Transaction,
    (⟨.transactions hash, .ok transactions⟩ : Exchange) ∈ trace →
      ∀ transaction ∈ transactions, transaction.blobs = []

theorem slots_of_blobless (none : ∀ transaction ∈ transactions, transaction.blobs = []) :
    slots rollup start transactions = (calldata rollup transactions).map .calldata := by
  induction transactions generalizing start with
  | nil => rfl
  | cons transaction rest ih =>
    have empty := none transaction List.mem_cons_self
    have others : slots rollup start rest = (calldata rollup rest).map .calldata :=
      ih fun other mem => none other (List.mem_cons_of_mem _ mem)
    rw [slots, empty, List.isEmpty_nil, if_pos rfl, List.length_nil, Nat.add_zero, others, calldata]
    by_cases batch : rollup.isBatch transaction = true
    · rw [if_pos batch, calldata, List.filter_cons_of_pos batch]
      rfl
    · rw [if_neg batch, calldata, List.filter_cons_of_neg batch]
      rfl

theorem fill_calldata (data blobs : List Bytes) : fill (data.map .calldata) blobs = data := by
  induction data with
  | nil => rfl
  | cons first rest ih => exact congrArg (first :: ·) ih

theorem loadBlobs_of_blobless (block : BlockRef)
    (none : ∀ transaction ∈ transactions, transaction.blobs = []) :
    loadBlobs block (slots rollup 0 transactions) = pure (.ok (calldata rollup transactions)) := by
  have unasked : ((calldata rollup transactions).map Slot.calldata).filterMap Slot.blob? = [] := by
    rw [List.filterMap_map]
    exact List.filterMap_eq_nil_iff.2 fun _ _ => rfl
  rw [slots_of_blobless none, loadBlobs, unasked, fill_calldata]
  rfl

theorem yields_load_of_blobless {trace : List Exchange} {loaded : Except SourceError (List Bytes)}
    (bare : Blobless trace) (inBlobs other : Bool)
    (run : Program.Yields (Source.load ⟨rollup, block, inBlobs⟩) trace loaded) :
    Program.Yields (Source.load ⟨rollup, block, other⟩) trace loaded := by
  obtain ⟨fetched, _, rest, rfl, asked, tail⟩ := Program.yields_bind.1 run
  obtain rfl := Program.yields_query.1 asked
  refine Program.yields_bind.2 ⟨fetched, _, rest, rfl, Program.yields_query.2 rfl, ?_⟩
  cases fetched with
  | error error => exact tail
  | ok transactions =>
    have none := bare block.hash transactions List.mem_cons_self
    cases inBlobs <;> cases other <;>
      simpa only [loadBlobs_of_blobless block none, if_true, Bool.false_eq_true, if_false] using tail

theorem yields_nexts_of_blobless {count : Nat} {trace : List Exchange} {results : List Reader.Reply}
    {left : Option (List Bytes)} (bare : Blobless trace) (inBlobs other : Bool)
    (run : Program.Yields (Reader.nexts count (.of ⟨rollup, block, inBlobs⟩)) trace
      (results, ⟨⟨rollup, block, inBlobs⟩, left⟩)) :
    Program.Yields (Reader.nexts count (.of ⟨rollup, block, other⟩)) trace
      (results, ⟨⟨rollup, block, other⟩, left⟩) := by
  obtain ⟨-, reads⟩ := Reader.yields_nexts_iff.1 run
  refine Reader.yields_nexts_iff.2 ⟨rfl, reads.imp fun part loaded inside load => ?_⟩
  exact yields_load_of_blobless (fun hash transactions mem => bare hash transactions (inside _ mem))
    inBlobs other load

/-! ## The whole source -/

/-- What is read from a block with blobs, and when blobs make no difference. -/
theorem blobs_extracted (rollup : Rollup) (block : BlockRef) :
    (∀ trace loaded, Program.Yields (Source.load ⟨rollup, block, true⟩) trace loaded ↔
      Extracts rollup block trace loaded) ∧
    (∀ transactions blobs, blobs.length = (wanted rollup transactions).length ↔
      ∃! entries, Dealt rollup transactions blobs entries) ∧
    (∀ count trace results reader,
      Program.Yields (Reader.nexts count (.of ⟨rollup, block, true⟩)) trace (results, reader) ↔
        reader.source = ⟨rollup, block, true⟩ ∧
          Reader.Reads (Extracts rollup block) count trace results reader.entries?) ∧
    ∀ count trace results left, Blobless trace →
      (Program.Yields (Reader.nexts count (.of ⟨rollup, block, true⟩)) trace
          (results, ⟨⟨rollup, block, true⟩, left⟩) ↔
        Program.Yields (Reader.nexts count (.of ⟨rollup, block, false⟩)) trace
          (results, ⟨⟨rollup, block, false⟩, left⟩)) := by
  refine ⟨fun _ _ => yields_load_iff, fun transactions blobs => ?_, fun count trace results reader => ?_,
    fun count trace results left bare => ?_⟩
  · constructor
    · -- what is dealt out is what the slots give, so there is only one way
      intro all
      refine ⟨_, (dealt_iff 0).2 ⟨all, rfl⟩, fun other dealt => ?_⟩
      exact ((dealt_iff 0).1 dealt).2.symm
    · rintro ⟨entries, dealt, -⟩
      exact ((dealt_iff 0).1 dealt).1
  · rw [Reader.yields_nexts_iff]
    refine and_congr_right fun _ => ⟨fun reads => ?_, fun reads => ?_⟩
    · exact reads.imp fun _ _ _ => yields_load_iff.1
    · exact reads.imp fun _ _ _ => yields_load_iff.2
  · exact ⟨yields_nexts_of_blobless bare true false, yields_nexts_of_blobless bare false true⟩

theorem blobs_extracted_mixed :
    let inbox : Address := ⟨List.replicate 20 1, rfl⟩
    let batcher : Address := ⟨List.replicate 20 2, rfl⟩
    let hash (byte : UInt8) : Hash := ⟨List.replicate 32 byte, rfl⟩
    let rollup : Rollup := ⟨inbox, [batcher], some 0⟩
    let block : BlockRef := ⟨hash 0, 7, hash 0, 0⟩
    let foreign : L1Transaction := ⟨hash 1, inbox, some inbox, [9], [hash 11]⟩
    let plain : L1Transaction := ⟨hash 2, batcher, some inbox, [5], []⟩
    let carrying : L1Transaction := ⟨hash 3, batcher, some inbox, [6], [hash 12, hash 13]⟩
    Program.Yields (Reader.nexts 4 (.of ⟨rollup, block, true⟩))
      [⟨.transactions (hash 0), .ok [foreign, plain, carrying]⟩,
        ⟨.blobs block [⟨1, hash 12⟩, ⟨2, hash 13⟩], .ok [[1], [2]]⟩]
      ([.ok (some [5]), .ok (some [1]), .ok (some [2]), .ok none], ⟨⟨rollup, block, true⟩, some []⟩) ∧
    Blobless [⟨.transactions (hash 0), .ok [plain]⟩] ∧
    Program.Yields (Reader.nexts 1 (.of ⟨rollup, block, false⟩))
      [⟨.transactions (hash 0), .ok [plain]⟩]
      ([.ok (some [5])], ⟨⟨rollup, block, false⟩, some []⟩) := by
  intro inbox batcher hash rollup block foreign plain carrying
  have bare : Blobless [⟨.transactions (hash 0), .ok [plain]⟩] := by
    intro other transactions mem transaction within
    cases List.mem_singleton.1 mem
    cases List.mem_singleton.1 within
    rfl
  have own : Dealt rollup [carrying] ([[1], [2]] ++ []) ([[1], [2]] ++ []) :=
    .blobs rfl (List.cons_ne_nil _ _) rfl .nil
  have mixed : Extracts rollup block
      [⟨.transactions (hash 0), .ok [foreign, plain, carrying]⟩,
        ⟨.blobs block [⟨1, hash 12⟩, ⟨2, hash 13⟩], .ok [[1], [2]]⟩] (.ok [[5], [1], [2]]) :=
    .dealt (List.cons_ne_nil _ _) (.foreign rfl (.calldata rfl rfl own))
  have unmixed : Extracts rollup block [⟨.transactions (hash 0), .ok [plain]⟩] (.ok [[5]]) :=
    .bare rfl (.calldata rfl rfl .nil)
  obtain ⟨-, -, reads, blobless⟩ := blobs_extracted rollup block
  exact ⟨(reads 4 _ _ _).2 ⟨rfl, .loaded mixed⟩, bare,
    (blobless 1 _ _ _ bare).1 ((reads 1 _ _ _).2 ⟨rfl, .loaded unmixed⟩)⟩

end ChallengeGame.Batch
