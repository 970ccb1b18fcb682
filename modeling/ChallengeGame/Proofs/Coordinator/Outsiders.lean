import ChallengeGame.Proofs.Batch
import ChallengeGame.Proofs.Coordinator.Attendance
import ChallengeGame.Proofs.Coordinator.Decisions
import ChallengeGame.Proofs.Coordinator.Parallel

/-!
# What outsiders can do

Anyone can put transactions into the blocks that the coordinator reads. They change what is
fetched and how blobs are numbered, and nothing that is looked at, offered, kept or told.
-/

namespace ChallengeGame.Coordinator

open Course
open Program (Likeness Similar)

/-- The same question, but for the numbers of requested blobs. -/
def Query.Alike : Query → Query → Prop
  | .batch query, .batch other => query.Alike other
  | query, other => query = other

/-- The same exchange, but for what belongs to outsiders. -/
def ExchangeAlike (rollup : Rollup) : Exchange → Exchange → Prop
  | ⟨.batch query, answer⟩, ⟨.batch other, answer'⟩ =>
    Batch.Exchange.Alike rollup ⟨query, answer⟩ ⟨other, answer'⟩
  | exchange, other => exchange = other

/-- Two views of L1 with the same batches, and otherwise the same answers. -/
def outsiders (rollup : Rollup) : Likeness Query Query.Answer :=
  ⟨Query.Alike, ExchangeAlike rollup⟩

def isReading : Exchange → Bool
  | ⟨.batch _, _⟩ => true
  | _ => false

def Turn.apart (turn : Turn) : Turn :=
  { turn with trace := turn.trace.filter fun exchange => !isReading exchange }

variable {setup : Setup} {rollup : Rollup} {former later later' coordinator : Coordinator}
  {turn other : Turn} {turns turns' : List Turn} {trace trace' : List Exchange}

theorem fixesAround_outsiders (rollup : Rollup) : FixesAround (outsiders rollup) := by
  intro query around
  cases query with
  | batch reading => exact absurd rfl (around reading)
  | _ =>
    refine ⟨rfl, fun answer answer' same => ?_⟩
    injection (same : (⟨_, answer⟩ : Exchange) = ⟨_, answer'⟩) with _ same

theorem batch_similar {α : Type} {reading reading' : Batch.Reading α}
    (similar : Similar (Batch.outsiders rollup) reading reading') :
    Similar (outsiders rollup)
      (reading.handle fun query => Program.query (Query.batch query))
      (reading'.handle fun query => Program.query (Query.batch query)) := by
  induction similar with
  | done value => exact .done value
  | ask asks _ ih => exact .ask asks ih

theorem outsiders_process_similar (books : Books) (head : BlockRef) :
    Similar (outsiders setup.rollup) (process setup books head) (process setup books head) := by
  refine process_similar (fixesAround_outsiders _) (fun source own => ?_) books head
  rw [← own]
  exact respects_ask (batch_similar (Batch.load_similar source))

/-! ## What is left of likeness -/

theorem isReading_of_alike {own other : Exchange} (alike : ExchangeAlike rollup own other) :
    own = other ∨ isReading own = true ∧ isReading other = true := by
  unfold ExchangeAlike at alike
  split at alike
  · exact .inr ⟨rfl, rfl⟩
  · exact .inl alike

theorem filter_of_alike (alike : List.Forall₂ (ExchangeAlike rollup) trace trace') :
    (trace.filter fun exchange => !isReading exchange) =
      trace'.filter fun exchange => !isReading exchange := by
  induction alike with
  | nil => rfl
  | cons first _ ih =>
    rcases isReading_of_alike first with rfl | ⟨own, other⟩
    · rw [List.filter_cons, List.filter_cons, ih]
    · rw [List.filter_cons_of_neg (by simp [own]), List.filter_cons_of_neg (by simp [other]), ih]

theorem Turn.apart_eq (alike : turn.Alike (outsiders rollup) other) : turn.apart = other.apart := by
  rw [Turn.apart, Turn.apart, filter_of_alike alike.exchanges, alike.head, alike.result]

theorem noteAll_filter :
    coordinator.noteAll (trace.filter fun exchange => !isReading exchange) =
      coordinator.noteAll trace := by
  induction trace generalizing coordinator with
  | nil => rfl
  | cons exchange rest ih =>
    match exchange with
    | ⟨.batch _, _⟩ => exact ih
    | ⟨.advance _, _⟩ | ⟨.input _ _, _⟩ | ⟨.status _ _, _⟩ | ⟨.offer _, _⟩ | ⟨.acted _, _⟩ =>
      exact ih

theorem noteAll_of_apart (same : turns.map Turn.apart = turns'.map Turn.apart) :
    coordinator.noteAll (turns.flatMap Turn.trace) =
      coordinator.noteAll (turns'.flatMap Turn.trace) := by
  have traces (turns : List Turn) : (turns.flatMap Turn.trace).filter
      (fun exchange => !isReading exchange) = (turns.map Turn.apart).flatMap Turn.trace := by
    rw [List.filter_flatMap, List.flatMap_map]
    rfl
  rw [← noteAll_filter, traces, same, ← traces, noteAll_filter]

/-! ## Two runs -/

/-- Two coordinators that only differ in what outsiders put into the blocks they read do the same
and end up the same. -/
theorem outsiders_without_influence (onward : Attends setup former turns later)
    (onward' : Attends setup former turns' later')
    (heads : turns.map Turn.head = turns'.map Turn.head)
    (agree : (outsiders setup.rollup).Agree (turns.flatMap Turn.trace)
      (turns'.flatMap Turn.trace)) :
    turns.map Turn.apart = turns'.map Turn.apart ∧ later = later' := by
  cases activity : former.activity with
  | resting books =>
    obtain ⟨_, run, rfl⟩ := (attends_iff activity).1 onward
    obtain ⟨_, run', rfl⟩ := (attends_iff activity).1 onward'
    obtain ⟨alike, rfl⟩ := run.alike outsiders_process_similar run' heads agree
    have same : turns.map Turn.apart = turns'.map Turn.apart := by
      rw [← List.forall₂_eq_eq_eq, List.forall₂_map_left_iff, List.forall₂_map_right_iff]
      exact alike.imp fun _ _ => Turn.apart_eq
    rw [noteAll_of_apart same]
    exact ⟨same, rfl⟩
  | working head rest =>
    obtain ⟨rfl, rfl⟩ := onward.eq_of_working activity
    obtain ⟨rfl, rfl⟩ := onward'.eq_of_working activity
    exact ⟨rfl, rfl⟩

/-! ## Views of L1 -/

def viewing (view : Batch.View) (respond : Responder) : Responder
  | .batch query => view.answer query
  | query => respond query

/-- Views that only differ in the transactions of others give traces that agree. -/
theorem agree_of_views {view other : Batch.View}
    (batches : ∀ block, (view.transactions block).map (List.filter rollup.isBatch) =
      (other.transactions block).map (List.filter rollup.isBatch))
    (blobs : view.blobs = other.blobs) (books : Books) (heads : List BlockRef)
    (respond : Responder) :
    (outsiders rollup).Agree
      ((performAll setup books (heads.map (·, viewing view respond))).1.flatMap Turn.trace)
      ((performAll setup books (heads.map (·, viewing other respond))).1.flatMap Turn.trace) := by
  refine Likeness.agree_of_forall fun own mem own' mem' asks => ?_
  obtain ⟨_, found, answered⟩ := performAll_answers _ mem
  obtain ⟨_, found', answered'⟩ := performAll_answers _ mem'
  obtain ⟨_, _, rfl⟩ := List.mem_map.1 found
  obtain ⟨_, _, rfl⟩ := List.mem_map.1 found'
  obtain ⟨query, answer⟩ := own
  obtain ⟨query', answer'⟩ := own'
  obtain rfl : answer = viewing view respond query := answered
  obtain rfl : answer' = viewing other respond query' := answered'
  cases query with
  | batch query =>
    -- a blob is answered by its hash, so that its number makes no difference
    cases query' with
    | batch query' => exact Batch.View.alike batches blobs query query' asks
    | _ => cases asks
  | _ =>
    cases query' with
    | batch query' => cases asks
    | _ => cases asks <;> rfl

namespace Sample

def outsider : Address := ⟨List.replicate 20 1, rfl⟩

def withBlobs : Setup :=
  { challenger with rollup := ⟨address, [address], some 0⟩, hasBlobs := true }

def blobBatch : L1Transaction := ⟨hash, address, some address, [], [hash]⟩

def view (transactions : List L1Transaction) : Batch.View where
  transactions _ := .ok transactions
  blobs _ requested := .ok (requested.map fun _ => Batch.commitmentVersion :: (commitment 7).encode)

/-- Two blobs of an outsider stand before the batch, and a call after it. -/
def crowded : List L1Transaction :=
  [⟨hash, outsider, some address, [], [hash, hash]⟩, blobBatch, ⟨hash, outsider, none, [9], []⟩]

def viewed (transactions : List L1Transaction) : List Turn × Coordinator :=
  attendAll withBlobs (new (Books.new 4)) (Books.new 4)
    ([block 100, block 104].map
      (·, viewing (view transactions) (respond [] (.error .pendingChallenge) .dropped)))

end Sample

theorem outsiders_without_influence_sample :
    Batch.slots Sample.withBlobs.rollup 0 [Sample.blobBatch] = [.blob ⟨0, Sample.hash⟩] ∧
      Batch.slots Sample.withBlobs.rollup 0 Sample.crowded = [.blob ⟨2, Sample.hash⟩] ∧
      ((Sample.viewed Sample.crowded).1.map fun turn => turn.trace.filterMap offered?) =
        [[.challenge (Posting.of 100 (Sample.commitment 7))],
          [.challenge (Posting.of 100 (Sample.commitment 7)),
            .challenge (Posting.of 104 (Sample.commitment 7))]] ∧
      (Sample.viewed [Sample.blobBatch]).1.map Turn.apart =
        (Sample.viewed Sample.crowded).1.map Turn.apart ∧
      (Sample.viewed [Sample.blobBatch]).2 = (Sample.viewed Sample.crowded).2 := by
  have agree : (outsiders Sample.withBlobs.rollup).Agree
      ((Sample.viewed [Sample.blobBatch]).1.flatMap Turn.trace)
      ((Sample.viewed Sample.crowded).1.flatMap Turn.trace) := by
    apply agree_of_views
    · intro block; rfl
    · rfl
  have alike := outsiders_without_influence
    (attends_attendAll rfl _ : Attends Sample.withBlobs _ (Sample.viewed [Sample.blobBatch]).1 _)
    (attends_attendAll rfl _ : Attends Sample.withBlobs _ (Sample.viewed Sample.crowded).1 _)
    rfl agree
  exact ⟨by decide, by decide, rfl, alike⟩

end ChallengeGame.Coordinator
