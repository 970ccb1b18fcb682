import ChallengeGame.Proofs.Coordinator.Look

/-!
# The rounds of a head

The follow-ups that are due and the commitments of a block are both looked at one after
the other, until a shutdown comes in between; both loops are one sweep over a list of
subjects. Between the two rounds bonds are offered until one is not taken, one withdrawal
is offered, and the block is read: `readRest_next` says that its reader is asked for one
commitment after the other.
-/

namespace ChallengeGame

namespace Batch

/-- The commitments of a block in their order, up to its end or to its first empty entry. -/
def yielded : List Bytes → List Commitment
  | [] => []
  | entry :: rest =>
    match Entry.ofBytes entry with
    | .commitment commitment => commitment :: yielded rest
    | .irrelevant => yielded rest
    | .empty => []

def commitments : Except SourceError (List Bytes) → List Commitment
  | .ok entries => yielded entries
  | .error _ => []

/-- Why the commitments of a block end before the block does, if they do. -/
def fault? : List Bytes → Option SourceError
  | [] => none
  | entry :: rest =>
    match Entry.ofBytes entry with
    | .empty => some .notEnoughData
    | _ => fault? rest

def entries (rollup : Rollup) (hasBlobs : Bool) (block : BlockRef) :
    Reading (Except SourceError (List Bytes)) :=
  match Source.open rollup hasBlobs block with
  | .error error => pure (.error error)
  | .ok source => source.load

end Batch

namespace Coordinator

variable {setup : Setup} {head : BlockNumber} {before after : Books} {trace : List Exchange}

open Course

/-! ## Sweeps -/

def sweep (setup : Setup) (head : BlockNumber) : List Subject → Course Unit
  | [] => pure ()
  | subject :: rest => do
    handle setup head subject.block subject.commitment subject.known?
    sweep setup head rest

/-- The looks of a sweep, which cover its subjects unless a shutdown cuts them short. -/
inductive Sweep (setup : Setup) : List Subject → List Look → Except Error Unit → Prop where
  | nil : Sweep setup [] [] (.ok ())
  | cut {look : Look} {rest : List Subject} :
      look.fate setup = .interrupted →
      Sweep setup (look.toSubject :: rest) [look] (.error .cancelled)
  | cons {look : Look} {rest : List Subject} {looks : List Look} {result : Except Error Unit} :
      look.fate setup ≠ .interrupted → Sweep setup rest looks result →
      Sweep setup (look.toSubject :: rest) (look :: looks) result

def enterAll (setup : Setup) (head : BlockNumber) (looks : List Look) (books : Books) : Books :=
  looks.foldl (fun books look => look.enter setup head books) books

theorem Look.result_eq_ok {look : Look} (h : look.fate setup ≠ .interrupted) :
    look.result setup = .ok () := by
  unfold Look.result
  split
  · contradiction
  · rfl

theorem Look.result_of_interrupted {look : Look} (h : look.fate setup = .interrupted) :
    look.result setup = .error .cancelled := by
  simp [Look.result, h]

theorem sweep_runs {subjects : List Subject} {result : Except Error Unit} :
    Runs (sweep setup head subjects) before trace result after ↔
      ∃ looks, Sweep setup subjects looks result ∧
        trace = looks.flatMap (Look.exchanges setup) ∧
        after = enterAll setup head looks before := by
  induction subjects generalizing before trace with
  | nil =>
    rw [sweep, runs_pure]
    constructor
    · rintro ⟨rfl, rfl, rfl⟩; exact ⟨[], .nil, rfl, rfl⟩
    · rintro ⟨_, ⟨⟩, rfl, rfl⟩; exact ⟨rfl, rfl, rfl⟩
  | cons subject rest ih =>
    rw [sweep, runs_bind]
    constructor
    · rintro (⟨_, _, _, _, rfl, first, tail⟩ | ⟨error, rfl, first⟩)
      · obtain ⟨look, rfl, rfl, ended, rfl⟩ := handle_runs.1 first
        obtain ⟨looks, swept, rfl, rfl⟩ := ih.1 tail
        have going : look.fate setup ≠ .interrupted := fun stopped => by
          rw [Look.result_of_interrupted stopped] at ended; cases ended
        exact ⟨look :: looks, .cons going swept, rfl, rfl⟩
      · -- a look ends with an error only if a shutdown cuts it short
        obtain ⟨look, rfl, rfl, ended, rfl⟩ := handle_runs.1 first
        by_cases stopped : look.fate setup = .interrupted
        · rw [Look.result_of_interrupted stopped] at ended
          cases ended
          exact ⟨[look], .cut stopped, by simp, rfl⟩
        · rw [Look.result_eq_ok stopped] at ended; cases ended
    · rintro ⟨_, swept, rfl, rfl⟩
      cases swept with
      | @cut look _ stopped =>
        refine .inr ⟨.cancelled, rfl, handle_runs.2 ⟨look, rfl, by simp, ?_, rfl⟩⟩
        exact (Look.result_of_interrupted stopped).symm
      | @cons look _ looks _ going swept =>
        refine .inl ⟨(), look.enter setup head before, look.exchanges setup, _, rfl, ?_, ?_⟩
        · exact handle_runs.2 ⟨look, rfl, rfl, (Look.result_eq_ok going).symm, rfl⟩
        · exact ih.2 ⟨looks, swept, rfl, rfl⟩

/-! ## The two rounds -/

def FollowUp.subject (followUp : FollowUp) : Subject :=
  ⟨followUp.block, followUp.commitment, some followUp.deadline⟩

def posted (block : BlockRef) (commitments : List Commitment) : List Subject :=
  commitments.map fun commitment => ⟨block, commitment, none⟩

theorem handleFollowUps_eq (setup : Setup) (head : BlockNumber) (due : List FollowUp) :
    handleFollowUps setup head due = sweep setup head (due.map FollowUp.subject) := by
  induction due with
  | nil => rfl
  | cons followUp rest ih => simp only [handleFollowUps, List.map_cons, sweep, ih, FollowUp.subject]

def ending (fault? : Option SourceError) : Except Error Unit :=
  match fault? with
  | none => .ok ()
  | some cause => .error (.source cause)

theorem walk_eq (setup : Setup) (block : BlockRef) (entries : List Bytes) :
    walk setup block entries = (do
      sweep setup block.number (posted block (Batch.yielded entries))
      MonadExcept.ofExcept (ending (Batch.fault? entries))) := by
  induction entries with
  | nil => rfl
  | cons entry rest ih =>
    unfold walk Batch.yielded Batch.fault?
    cases Batch.Entry.ofBytes entry with
    | commitment commitment => simp [posted, sweep, ih]
    | irrelevant => simp [ih]
    | empty => rfl -- nothing is left to look at, and the end is the error

theorem readBlock_eq (setup : Setup) (block : BlockRef) :
    readBlock setup block = (do
      match ← Course.batch (Batch.entries setup.rollup setup.hasBlobs block) with
      | .error error => throw (.source error)
      | .ok entries => walk setup block entries) := by
  unfold readBlock Batch.entries
  cases Batch.Source.open setup.rollup setup.hasBlobs block <;> rfl

/-! ## A block, commitment by commitment -/

theorem walk_next (setup : Setup) (block : BlockRef) (entries : List Bytes) :
    walk setup block entries =
      match Batch.firstCommitment .ok entries with
      | (.ok none, _) => pure ()
      | (.ok (some commitment), rest) => do
        handle setup block.number block commitment none
        walk setup block rest
      | (.error error, _) => throw (.source error) := by
  induction entries with
  | nil => rfl
  | cons entry rest ih =>
    rw [walk, Batch.firstCommitment, Except.map]
    cases Batch.Entry.ofBytes entry with
    | commitment _ => rfl
    | irrelevant => exact (pure_bind _ _).trans ih
    | empty => rfl

def readRest (setup : Setup) (block : BlockRef) (reader : Batch.Reader) : Course Unit := do
  match ← Course.batch reader.pending with
  | .error error => throw (.source error)
  | .ok entries => walk setup block entries

theorem readBlock_eq_readRest (setup : Setup) (block : BlockRef) :
    readBlock setup block =
      match Batch.Source.open setup.rollup setup.hasBlobs block with
      | .error error => throw (.source error)
      | .ok source => readRest setup block (.of source) :=
  rfl

theorem readRest_next (setup : Setup) (block : BlockRef) (reader : Batch.Reader) :
    readRest setup block reader = (do
      match ← Course.batch reader.nextCommitment with
      | (.error error, _) => throw (.source error)
      | (.ok none, _) => pure ()
      | (.ok (some commitment), reader) =>
        handle setup block.number block commitment none
        readRest setup block reader) := by
  rw [readRest, Batch.Reader.nextCommitment, Batch.Reader.consume, batch_bind, bind_assoc]
  refine bind_congr fun fetched => ?_
  cases fetched with
  | error error => rfl
  | ok entries =>
    -- the entries are there now, so the reader that is left asks for nothing
    refine (walk_next setup block entries).trans ?_
    dsimp only
    rcases Batch.firstCommitment .ok entries with ⟨error | ⟨_ | commitment⟩, rest⟩
    · rfl
    · rfl
    · rfl

/-! ## Between the rounds -/

structure Unlock where
  /-- the block and the posting the bond was locked for -/
  bond : BlockNumber × Posting
  answer : Offer

namespace Unlock

def exchange (unlock : Unlock) : Exchange := ⟨.offer (.unlock unlock.bond.2), unlock.answer⟩

/-- Only a bond that was taken leaves the ledger. -/
def enter (ledger : BondLedger) (unlock : Unlock) : BondLedger :=
  if unlock.answer = .queued then ledger.remove unlock.bond.1 unlock.bond.2 else ledger

end Unlock

/-- The offers of bonds in their order, up to the first that is not taken. -/
inductive Unlocks : List (BlockNumber × Posting) → List Unlock → Prop where
  | nil : Unlocks [] []
  | stop {bond : BlockNumber × Posting} {answer : Offer} {rest : List (BlockNumber × Posting)} :
      answer ≠ .queued → Unlocks (bond :: rest) [⟨bond, answer⟩]
  | cons {bond : BlockNumber × Posting} {rest : List (BlockNumber × Posting)}
      {unlocks : List Unlock} :
      Unlocks rest unlocks → Unlocks (bond :: rest) (⟨bond, .queued⟩ :: unlocks)

def unlockable (setup : Setup) (head : BlockNumber) (books : Books) :
    List (BlockNumber × Posting) :=
  if setup.takes .unlock then books.bonds.eligible head else []

theorem offerUnlocks_runs {bonds : List (BlockNumber × Posting)} {result : Except Error Unit} :
    Runs (offerUnlocks bonds) before trace result after ↔
      ∃ unlocks, Unlocks bonds unlocks ∧ trace = unlocks.map Unlock.exchange ∧ result = .ok () ∧
        after = { before with bonds := unlocks.foldl Unlock.enter before.bonds } := by
  induction bonds generalizing before trace with
  | nil =>
    rw [offerUnlocks, runs_pure]
    constructor
    · rintro ⟨rfl, rfl, rfl⟩; exact ⟨[], .nil, rfl, rfl, rfl⟩
    · rintro ⟨_, ⟨⟩, rfl, rfl, rfl⟩; exact ⟨rfl, rfl, rfl⟩
  | cons bond rest ih =>
    constructor
    · intro run
      obtain ⟨answer, _, rfl, tail⟩ := (runs_query_bind (.offer (.unlock bond.2))).1 run
      cases answer with
      | queued =>
        obtain ⟨unlocks, offered, rfl, rfl, rfl⟩ := ih.1 (runs_modify_bind.1 tail)
        exact ⟨⟨bond, .queued⟩ :: unlocks, .cons offered, rfl, rfl, by simp [Unlock.enter]⟩
      | _ =>
        obtain ⟨rfl, rfl, rfl⟩ := runs_pure.1 tail
        exact ⟨[⟨bond, _⟩], .stop (by simp), rfl, rfl, by simp [Unlock.enter]⟩
    · rintro ⟨_, offered, rfl, rfl, rfl⟩
      cases offered with
      | @stop _ answer _ refused =>
        refine (runs_query_bind (.offer (.unlock bond.2))).2 ⟨answer, [], rfl, ?_⟩
        cases answer with
        | queued => exact absurd rfl refused
        | _ => exact runs_pure.2 (by simp [Unlock.enter])
      | @cons _ _ unlocks offered =>
        refine (runs_query_bind (.offer (.unlock bond.2))).2 ⟨.queued, _, rfl, ?_⟩
        exact runs_modify_bind.2 (ih.2 ⟨unlocks, offered, rfl, rfl, by simp [Unlock.enter]⟩)

theorem unlock_runs {result : Except Error Unit} :
    Runs (unlock setup head) before trace result after ↔
      ∃ unlocks, Unlocks (unlockable setup head before) unlocks ∧
        trace = unlocks.map Unlock.exchange ∧ result = .ok () ∧
        after = { before with bonds := unlocks.foldl Unlock.enter before.bonds } := by
  unfold unlock unlockable
  split
  · rw [runs_get_bind, offerUnlocks_runs]
  · show Runs (offerUnlocks []) before trace result after ↔ _
    exact offerUnlocks_runs

def withdrawalExchange (head : BlockNumber) (answer : Offer) : Exchange :=
  ⟨.offer (.withdraw head), answer⟩

theorem withdraw_runs {result : Except Error Unit} :
    Runs (withdraw setup head) before trace result after ↔
      ∃ withdrawal? : Option Offer, withdrawal?.isSome = setup.takes .withdraw ∧
        trace = withdrawal?.toList.map (withdrawalExchange head) ∧ result = .ok () ∧
        after = before := by
  unfold withdraw
  split
  · rename_i takes
    constructor
    · intro run
      obtain ⟨answer, _, rfl, tail⟩ := (runs_query_bind (.offer (.withdraw head))).1 run
      obtain ⟨rfl, rfl, rfl⟩ := runs_pure.1 tail
      exact ⟨some answer, takes.symm, rfl, rfl, rfl⟩
    · rintro ⟨withdrawal?, isSome, rfl, rfl, rfl⟩
      obtain ⟨answer, rfl⟩ := Option.isSome_iff_exists.1 (isSome.trans takes)
      refine (runs_query_bind (.offer (.withdraw head))).2 ⟨answer, [], rfl, ?_⟩
      exact runs_pure.2 ⟨rfl, rfl, rfl⟩
  · rename_i takes
    rw [runs_pure]
    constructor
    · rintro ⟨rfl, rfl, rfl⟩
      exact ⟨none, by simpa using takes, rfl, rfl, rfl⟩
    · rintro ⟨withdrawal?, isSome, rfl, rfl, rfl⟩
      obtain rfl : withdrawal? = none := by
        rw [← Option.not_isSome_iff_eq_none, isSome]; exact takes
      exact ⟨rfl, rfl, rfl⟩

/-! ## The block -/

theorem walk_runs {block : BlockRef} {entries : List Bytes} {result : Except Error Unit} :
    Runs (walk setup block entries) before trace result after ↔
      ∃ looks swept, Sweep setup (posted block (Batch.yielded entries)) looks swept ∧
        trace = looks.flatMap (Look.exchanges setup) ∧
        result = swept.bind (fun _ => ending (Batch.fault? entries)) ∧
        after = enterAll setup block.number looks before := by
  -- a sweep over what the block yields, and then the end of the block
  rw [walk_eq, runs_bind]
  constructor
  · rintro (⟨_, _, _, _, rfl, first, last⟩ | ⟨error, rfl, first⟩)
    · obtain ⟨looks, swept, rfl, rfl⟩ := sweep_runs.1 first
      obtain ⟨rfl, rfl, rfl⟩ := runs_ofExcept.1 last
      exact ⟨looks, _, swept, by simp, rfl, rfl⟩
    · obtain ⟨looks, swept, rfl, rfl⟩ := sweep_runs.1 first
      exact ⟨looks, _, swept, rfl, rfl, rfl⟩
  · rintro ⟨looks, swept, covers, rfl, rfl, rfl⟩
    cases swept with
    | ok _ =>
      refine .inl ⟨(), _, _, [], by simp, sweep_runs.2 ⟨looks, covers, rfl, rfl⟩, ?_⟩
      exact runs_ofExcept.2 ⟨rfl, rfl, rfl⟩
    | error error => exact .inr ⟨error, rfl, sweep_runs.2 ⟨looks, covers, rfl, rfl⟩⟩

theorem readBlock_runs {block : BlockRef} {result : Except Error Unit} :
    Runs (readBlock setup block) before trace result after ↔
      ∃ reading fetched rest,
        Program.Yields (Batch.entries setup.rollup setup.hasBlobs block) reading fetched ∧
        trace = reading.map ofBatch ++ rest ∧
        match fetched with
        | .error cause => rest = [] ∧ result = .error (.source cause) ∧ after = before
        | .ok entries => Runs (walk setup block entries) before rest result after := by
  rw [readBlock_eq, runs_bind]
  constructor
  · rintro (⟨fetched, _, _, rest, rfl, first, last⟩ | ⟨error, rfl, first⟩)
    · obtain ⟨reading, _, reads, rfl, same, rfl⟩ := runs_batch.1 first
      cases same
      refine ⟨reading, fetched, rest, reads, rfl, ?_⟩
      cases fetched with
      | error cause => exact runs_throw.1 last
      | ok entries => exact last
    · -- a reading has no error of its own: what failed is its value
      obtain ⟨_, _, _, _, wrong, _⟩ := runs_batch.1 first
      cases wrong
  · rintro ⟨reading, fetched, rest, reads, rfl, last⟩
    refine .inl ⟨fetched, before, _, rest, rfl, ?_, ?_⟩
    · exact runs_batch.2 ⟨reading, fetched, reads, rfl, rfl, rfl⟩
    · cases fetched with
      | error cause => exact runs_throw.2 last
      | ok entries => exact last

end Coordinator

end ChallengeGame
