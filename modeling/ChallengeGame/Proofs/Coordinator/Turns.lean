import ChallengeGame.Proofs.Coordinator.Balance
import ChallengeGame.Proofs.Trace
import Mathlib.Data.List.Induction
import Mathlib.Data.List.Nodup

/-!
# Turns told deed by deed

What the exchanges of a turn say about its deeds: an input is asked for at every look and
at nothing else, a job about a commitment is taken at every look that delivers one, and a
block is read at most once.
-/

namespace ChallengeGame.Coordinator

/-! ## Exchanges -/

/-- Whether a job challenges or resolves a posting. -/
def disputes (posting : Posting) : Job → Bool
  | .challenge other => other == posting
  | .resolve resolution => resolution.posting == posting
  | .unlock _ | .withdraw _ => false

/-- Whether the exchange asks for the input of a commitment. -/
def asks (key : Table.Key) : Exchange → Bool
  | ⟨.input commitment block, _⟩ => Table.Key.of block.number commitment == key
  | _ => false

/-- Whether the exchange hands over a job of some sort. -/
def hands (wanted : Job → Bool) : Exchange → Bool
  | ⟨.offer job, answer⟩ => wanted job && answer == .queued
  | _ => false

namespace Deed

def settles (setup : Setup) (key : Table.Key) : Deed → Bool
  | looked _ look => look.key == key && look.fate setup == .settled
  | _ => false

/-- Whether a job about the commitment was taken. -/
def delivers (setup : Setup) (key : Table.Key) : Deed → Bool
  | looked _ look =>
    look.key == key &&
      match look.fate setup with
      | .delivered _ => true
      | _ => false
  | _ => false

end Deed

variable {setup : Setup} {key : Table.Key} {start middle last : Moment} {deed : Deed}
  {history deeds : List Deed}

theorem countP_exchanges {counts : Exchange → Bool}
    (advance : ∀ head origin, counts ⟨.advance head, origin⟩ = false)
    (unlock : ∀ unlock : Unlock, counts unlock.exchange = false)
    (withdraw : ∀ head answer, counts (withdrawalExchange head answer) = false)
    (batch : ∀ exchange, counts (Course.ofBatch exchange) = false) (deed : Deed) :
    (deed.exchanges setup).countP counts =
      match deed with
      | .looked _ look => (look.exchanges setup).countP counts
      | _ => 0 := by
  cases deed with
  | looked head look => rfl
  | refused head cause => simp [Deed.exchanges, advance]
  | entered head => simp [Deed.exchanges, advance]
  | reset head => simp [Deed.exchanges, advance]
  | tended head unlocks withdrawal? => simp [Deed.exchanges, List.countP_eq_zero, unlock, withdraw]
  | read head reading fetched => simp [Deed.exchanges, List.countP_eq_zero, batch]
  | left head fault? => rfl

theorem Look.countP_evaluation {counts : Exchange → Bool} {look : Look}
    (input : ∀ commitment block input, counts ⟨.input commitment block, input⟩ = false)
    (status : ∀ commitment block status, counts ⟨.status commitment block, status⟩ = false) :
    (look.evaluation setup).countP counts = 0 := by
  unfold Look.evaluation
  split
  · split <;> simp [input, status]
  · simp [input]

theorem countP_asks (deed : Deed) :
    (deed.exchanges setup).countP (asks key) = if deed.looksAt key then 1 else 0 := by
  rw [countP_exchanges (fun _ _ => rfl) (fun _ => rfl) (fun _ _ => rfl) (fun _ => rfl)]
  cases deed with
  | looked head look =>
    have evaluation : (look.evaluation setup).countP (asks key) =
        if look.key == key then 1 else 0 := by
      unfold Look.evaluation
      split
      · split <;> simp [asks, List.countP_cons, Subject.key]
      · simp [asks, List.countP_cons, Subject.key]
    have offering : (look.offering setup).countP (asks key) = 0 := by
      unfold Look.offering
      split
      · split <;> simp [asks]
      · rfl
    simp only [Look.exchanges, List.countP_append, evaluation, offering, Deed.looksAt]
    rfl
  | _ => rfl

theorem Look.job_eq {look : Look} {job : Job} (called : look.decision setup = .act job) :
    job = .challenge look.posting ∨ ∃ input, job = .resolve ⟨look.posting, input⟩ := by
  unfold Look.decision at called
  split at called
  · split at called
    · cases called; exact .inr ⟨_, rfl⟩
    · cases called
  · split at called
    · cases called; exact .inl rfl
    · cases called
  · cases called
  · cases called

theorem Look.offer_mem {look : Look} {job : Job} {answer : Offer} :
    ⟨.offer job, answer⟩ ∈ look.exchanges setup ↔
      look.decision setup = .act job ∧ look.answer = answer := by
  have evaluation : ⟨.offer job, answer⟩ ∉ look.evaluation setup := by
    unfold Look.evaluation
    split
    · split <;> simp
    · simp
  rw [Look.exchanges, List.mem_append, or_iff_right evaluation]
  unfold Look.offering
  cases look.decision setup with
  | act wanted =>
    simp only [Decision.act.injEq]
    split <;> simp [eq_comm]
  | nothing | retry => simp

theorem Look.disputes_eq {look : Look} {job : Job} (called : look.decision setup = .act job)
    (posting : Posting) : disputes posting job = (look.posting == posting) := by
  rcases Look.job_eq called with rfl | ⟨input, rfl⟩ <;> rfl

theorem Look.posting_beq {look : Look} (block : BlockNumber) (commitment : Commitment) :
    (look.posting == Posting.of block commitment) =
      (look.key == Table.Key.of block commitment) := by
  rw [Bool.eq_iff_iff, beq_iff_eq, beq_iff_eq]
  exact Posting.of_injective.trans Table.Key.of_injective.symm

theorem countP_hands (setup : Setup) (block : BlockNumber) (commitment : Commitment)
    (deed : Deed) :
    (deed.exchanges setup).countP (hands (disputes (Posting.of block commitment))) =
      if deed.delivers setup (Table.Key.of block commitment) then 1 else 0 := by
  rw [countP_exchanges (fun _ _ => rfl) (fun _ => rfl) (fun _ _ => rfl) (fun _ => rfl)]
  cases deed with
  | looked head look =>
    have evaluation : (look.evaluation setup).countP
        (hands (disputes (Posting.of block commitment))) = 0 :=
      Look.countP_evaluation (fun _ _ _ => rfl) fun _ _ _ => rfl
    simp only [Look.exchanges, List.countP_append, evaluation, Deed.delivers, Nat.zero_add]
    rcases called : look.decision setup with job | _ | _
    · have about := Look.disputes_eq called (Posting.of block commitment)
      rw [Look.posting_beq] at about
      cases answered : look.answer <;>
        simp [Look.offering, Look.fate, called, hands, answered, about, List.countP_cons]
    · simp [Look.offering, Look.fate, called]
    · simp [Look.offering, Look.fate, called]
  | _ => rfl

theorem concludes_eq (deed : Deed) :
    deed.concludes setup key = (deed.settles setup key || deed.delivers setup key) := by
  cases deed with
  | looked head look =>
    simp only [Deed.concludes, Deed.settles, Deed.delivers]
    cases look.fate setup <;> simp [Fate.isFinal]
  | _ => rfl

theorem countP_concludes (history : List Deed) :
    history.countP (Deed.concludes setup key) =
      history.countP (Deed.settles setup key) + history.countP (Deed.delivers setup key) := by
  induction history with
  | nil => rfl
  | cons deed rest ih =>
    -- no look is counted on both sides
    have apart : deed.settles setup key = true → deed.delivers setup key = false := by
      cases deed with
      | looked head look =>
        simp only [Deed.settles, Deed.delivers, Bool.and_eq_true, beq_iff_eq]
        rintro ⟨_, settled⟩
        simp [settled]
      | _ => intro settled; cases settled
    simp only [List.countP_cons, ih, concludes_eq]
    cases settled : deed.settles setup key
    · simp only [Bool.false_or, Bool.false_eq_true, if_false]; omega
    · simp only [apart settled, Bool.true_or, if_true, Bool.false_eq_true, if_false]; omega

theorem countP_concludes_le (history : List Deed) :
    history.countP (Deed.concludes setup key) ≤ history.countP (Deed.looksAt key) := by
  refine List.countP_mono_left fun deed _ concludes => ?_
  cases deed with
  | looked head look =>
    simp only [Deed.concludes, Bool.and_eq_true] at concludes
    exact concludes.1
  | _ => cases concludes

/-- What is counted once in the deeds of some kind and in no other is as often as these. -/
theorem countP_flatMap_exchanges {counts : Exchange → Bool} {kind : Deed → Bool}
    (own : ∀ deed, (Deed.exchanges setup deed).countP counts = if kind deed then 1 else 0)
    (history : List Deed) :
    (history.flatMap (Deed.exchanges setup)).countP counts = history.countP kind := by
  induction history with
  | nil => rfl
  | cons deed rest ih =>
    rw [List.flatMap_cons, List.countP_append, List.countP_cons, own, ih, Nat.add_comm]

theorem countP_flatMap_asks (history : List Deed) :
    (history.flatMap (Deed.exchanges setup)).countP (asks key) =
      history.countP (Deed.looksAt key) :=
  countP_flatMap_exchanges countP_asks history

theorem look_of_asked {commitment : Commitment} {block : BlockRef}
    {input : Except ProviderError Bytes}
    (asked : ⟨.input commitment block, input⟩ ∈ history.flatMap (Deed.exchanges setup)) :
    ∃ earlier head look later, history = (earlier ++ [.looked head look]) ++ later ∧
      look.commitment = commitment ∧ look.block = block ∧ look.input = input := by
  obtain ⟨deed, mem, own⟩ := List.mem_flatMap.1 asked
  cases deed with
  | looked head look =>
    obtain ⟨earlier, later, rfl⟩ := List.append_of_mem mem
    refine ⟨earlier, head, look, later, by simp, ?_⟩
    -- the first thing a look asks for is the input, and it asks for no other
    rcases List.mem_append.1 own with evaluated | offered
    · rcases List.mem_cons.1 evaluated with same | status
      · cases same; exact ⟨rfl, rfl, rfl⟩
      · split at status
        · split at status <;> simp at status
        · cases status
    · unfold Look.offering at offered
      split at offered
      · split at offered <;> simp at offered
      · cases offered
  | tended head unlocks withdrawal? =>
    simp [Deed.exchanges, Unlock.exchange, withdrawalExchange] at own
  | read head reading fetched => simp [Deed.exchanges, Course.ofBatch] at own
  | _ => simp [Deed.exchanges] at own

theorem asks_eq_false (none : history.countP (Deed.looksAt key) = 0) :
    ∀ exchange ∈ history.flatMap (Deed.exchanges setup), asks key exchange = false := by
  rw [← @countP_flatMap_asks setup, List.countP_eq_zero] at none
  exact fun exchange mem => by simpa using none exchange mem

theorem countP_flatMap_hands {block : BlockNumber} {commitment : Commitment}
    (history : List Deed) :
    (history.flatMap (Deed.exchanges setup)).countP
        (hands (disputes (Posting.of block commitment))) =
      history.countP (Deed.delivers setup (Table.Key.of block commitment)) :=
  countP_flatMap_exchanges (countP_hands setup block commitment) history

/-! ## Reading -/

/-- How many blocks can still be read in the turn. -/
def Stage.unread : Stage → Nat
  | .looking .followUps _ _ | .reading _ => 1
  | .looking (.block _) _ _ | .resting => 0

def Deed.isRead : Deed → Bool
  | .read _ _ _ => true
  | _ => false

theorem unread_after (stage : Stage) (result : Except Error Unit) :
    (stage.after result).unread ≤ stage.unread := by
  cases result with
  | ok _ => exact Nat.le_refl _
  | error _ => exact Nat.zero_le _

theorem Step.unread_le (step : Step setup start deed last) (going : deed.starts = false) :
    last.stage.unread + (if deed.isRead then 1 else 0) ≤ start.stage.unread := by
  cases step with
  | refuse _ | enter | reset => simp [Deed.starts] at going
  | @look _ round head rest look =>
    have after := unread_after (.looking round head rest) (look.result setup)
    cases round <;> simpa [Stage.unread, Deed.isRead] using after
  | tend _ _ | read _ | fail _ | leave => simp [Stage.unread, Deed.isRead]

theorem Reaches.unread_le (reaches : Reaches setup start history last)
    (going : ∀ deed ∈ history, deed.starts = false) :
    last.stage.unread + history.countP Deed.isRead ≤ start.stage.unread := by
  induction reaches with
  | nil => simp
  | @snoc _ _ _ deed _ step ih =>
    have own := step.unread_le (going deed (by simp))
    have earlier := ih fun deed mem => going deed (List.mem_append_left _ mem)
    simp only [List.countP_append, List.countP_singleton]
    omega

theorem met_of_not_isRead (quiet : deed.isRead = false) : deed.met = [] := by
  cases deed with
  | read head reading fetched => cases quiet
  | _ => rfl

theorem met_eq_of_countP_isRead_le (once : deeds.countP Deed.isRead ≤ 1) :
    deeds.flatMap Deed.met = [] ∨ ∃ deed ∈ deeds, deeds.flatMap Deed.met = deed.met := by
  induction deeds with
  | nil => exact .inl rfl
  | cons deed rest ih =>
    rw [List.countP_cons] at once
    rw [List.flatMap_cons]
    by_cases reads : deed.isRead = true
    · rw [if_pos reads] at once
      -- no later deed reads, so no later deed meets anything
      have quiet : rest.countP Deed.isRead = 0 := by omega
      rw [List.countP_eq_zero] at quiet
      have none : rest.flatMap Deed.met = [] :=
        List.flatMap_eq_nil_iff.2 fun deed mem => met_of_not_isRead (by simpa using quiet deed mem)
      exact .inr ⟨deed, by simp, by rw [none, List.append_nil]⟩
    · rw [if_neg reads] at once
      rw [met_of_not_isRead (by simpa using reads), List.nil_append]
      rcases ih once with none | ⟨other, mem, same⟩
      · exact .inl none
      · exact .inr ⟨other, List.mem_cons_of_mem _ mem, same⟩

/-! ## Parts of histories -/

theorem reaches_nil : Reaches setup start [] last ↔ last = start := by
  constructor
  · intro reaches
    generalize whole : ([] : List Deed) = deeds at reaches
    cases reaches with
    | nil => rfl
    | snoc _ _ => simp at whole
  · rintro rfl; exact .nil

theorem reaches_append_singleton :
    Reaches setup start (history ++ [deed]) last ↔
      ∃ middle, Reaches setup start history middle ∧ Step setup middle deed last := by
  constructor
  · intro reaches
    generalize whole : history ++ [deed] = deeds at reaches
    cases reaches with
    | nil => simp at whole
    | snoc earlier step =>
      obtain ⟨rfl, same⟩ := List.append_inj' whole rfl
      cases same
      exact ⟨_, earlier, step⟩
  · rintro ⟨middle, earlier, step⟩; exact earlier.snoc step

theorem Reaches.split (reaches : Reaches setup start (history ++ deeds) last) :
    ∃ middle, Reaches setup start history middle ∧ Reaches setup middle deeds last := by
  induction deeds using List.reverseRecOn generalizing last with
  | nil => exact ⟨last, by simpa using reaches, .nil⟩
  | append_singleton deeds deed ih =>
    rw [← List.append_assoc, reaches_append_singleton] at reaches
    obtain ⟨between, earlier, step⟩ := reaches
    obtain ⟨middle, first, second⟩ := ih earlier
    exact ⟨middle, first, second.snoc step⟩

theorem Reaches.uncons (reaches : Reaches setup start (deed :: deeds) last) :
    ∃ middle, Step setup start deed middle ∧ Reaches setup middle deeds last := by
  have reaches : Reaches setup start ([deed] ++ deeds) last := reaches
  obtain ⟨middle, first, second⟩ := reaches.split
  rw [← List.nil_append [deed], reaches_append_singleton] at first
  obtain ⟨_, none, step⟩ := first
  rw [reaches_nil.1 none] at step
  exact ⟨middle, step, second⟩

theorem Reaches.step_of_mem (reaches : Reaches setup start history last) (mem : deed ∈ history) :
    ∃ before after, Step setup before deed after := by
  obtain ⟨earlier, later, rfl⟩ := List.append_of_mem mem
  obtain ⟨before, _, rest⟩ := reaches.split
  obtain ⟨after, step, _⟩ := rest.uncons
  exact ⟨before, after, step⟩

/-! ## What a turn reads -/

/-- The source of the turn's block yielded these commitments. -/
def Turn.Reads (setup : Setup) (turn : Turn) (commitments : List Commitment) : Prop :=
  ∃ reading entries,
    Program.Yields (Batch.entries setup.rollup setup.hasBlobs turn.head) reading (.ok entries) ∧
    reading.map Course.ofBatch <:+: turn.trace ∧ commitments = Batch.yielded entries

theorem Turn.Reads.eq {turn : Turn} {commitments : List Commitment}
    (reads : turn.Reads setup commitments) (replies : (query : Batch.Query) → query.Answer)
    (answered : ∀ query answer, ⟨.batch query, answer⟩ ∈ turn.trace → answer = replies query) :
    commitments = Batch.commitments
      ((Batch.entries setup.rollup setup.hasBlobs turn.head).record replies).2 := by
  obtain ⟨reading, entries, run, inside, rfl⟩ := reads
  have own : ∀ exchange ∈ reading, exchange.answer = replies exchange.query := fun exchange mem =>
    answered _ _ (inside.subset (List.mem_map.2 ⟨exchange, mem, rfl⟩))
  rw [Program.record_eq_of_yields run own]
  rfl

theorem map_key_posted (block : BlockRef) (commitments : List Commitment) :
    (posted block commitments).map Subject.key =
      commitments.map (Table.Key.of block.number) := by
  simp [posted, Subject.key]

theorem exchanges_inside (mem : deed ∈ deeds) :
    deed.exchanges setup <:+: deeds.flatMap (Deed.exchanges setup) := by
  obtain ⟨earlier, later, rfl⟩ := List.append_of_mem mem
  exact ⟨earlier.flatMap (Deed.exchanges setup), later.flatMap (Deed.exchanges setup), by simp⟩

theorem exchanges_at {before between after : List Exchange} {first second : Exchange}
    (split : deeds.flatMap (Deed.exchanges setup) =
      before ++ first :: (between ++ second :: after)) :
    (∃ (deed : Deed) (own rest : List Exchange),
      deed.exchanges setup = own ++ first :: rest ∧ second ∈ rest) ∨
      ∃ earlier deed inner other later, deeds = earlier ++ deed :: (inner ++ other :: later) ∧
        first ∈ deed.exchanges setup ∧ second ∈ other.exchanges setup ∧
        inner.flatMap (Deed.exchanges setup) ⊆ between := by
  obtain ⟨earlier, deed, others, own, rest, rfl, inside, _, tail⟩ := flatMap_at split
  by_cases same : second ∈ rest
  · exact .inl ⟨deed, own, rest, inside, same⟩
  · -- the deed is over before the second exchange
    obtain ⟨beyond, rfl, onward⟩ := (append_at.1 tail.symm).resolve_left fun ⟨_, within, _⟩ =>
      same (by rw [within]; simp)
    obtain ⟨inner, other, later, front, _, rfl, within, rfl, _⟩ := flatMap_at onward
    refine .inr ⟨earlier, deed, inner, other, later, rfl, ?_, ?_, ?_⟩
    · rw [inside]; simp
    · rw [within]; simp
    · exact fun exchange mem => List.mem_append_right rest (List.mem_append_left front mem)

variable {turn : Turn}

/-- A turn starts at rest, goes on without another start, and reads at most one block. -/
theorem Tells.uncons (told : Tells setup turn deeds) (reaches : Reaches setup start deeds last) :
    ∃ first rest middle, deeds = first :: rest ∧ first.starts = true ∧ first.head = turn.head ∧
      (∀ deed ∈ rest, deed.Continues turn.head) ∧ Step setup start first middle ∧
      Reaches setup middle rest last := by
  obtain ⟨first, rest, rfl, same, starts, going⟩ := told.opens
  obtain ⟨middle, step, later⟩ := reaches.uncons
  exact ⟨first, rest, middle, rfl, starts, same, going, step, later⟩

theorem Reaches.met_eq_nil (reaches : Reaches setup start deeds last)
    (going : ∀ deed ∈ deeds, deed.starts = false) (unread : start.stage.unread = 0) :
    deeds.flatMap Deed.met = [] := by
  have bound := reaches.unread_le going
  have quiet : deeds.countP Deed.isRead = 0 := by omega
  rw [List.countP_eq_zero] at quiet
  exact List.flatMap_eq_nil_iff.2 fun deed mem => met_of_not_isRead (by simpa using quiet deed mem)

theorem Step.unread_of_starts (step : Step setup start deed last) (starts : deed.starts = true) :
    last.stage.unread ≤ 1 := by
  cases step with
  | refuse _ | enter | reset => simp [Stage.unread]
  | _ => cases starts

theorem Tells.met (told : Tells setup turn deeds) (reaches : Reaches setup start deeds last) :
    deeds.flatMap Deed.met = [] ∨
      ∃ commitments, turn.Reads setup commitments ∧
        deeds.flatMap Deed.met = commitments.map (Table.Key.of turn.head.number) := by
  obtain ⟨first, rest, middle, rfl, starts, _, going, step, later⟩ := told.uncons reaches
  have bound := later.unread_le fun deed mem => (going deed mem).2
  have once : rest.countP Deed.isRead ≤ 1 := by
    have := step.unread_of_starts starts
    omega
  rw [List.flatMap_cons, Deed.met_of_starts starts, List.nil_append]
  rcases met_eq_of_countP_isRead_le once with none | ⟨deed, mem, same⟩
  · exact .inl none
  · rw [same]
    match deed with
    | .read head reading (.ok entries) =>
      obtain ⟨_, _, read⟩ := later.step_of_mem mem
      obtain ⟨rfl, _⟩ := going _ mem
      cases read with
      | read reads =>
        refine .inr ⟨_, ⟨reading, entries, reads, ?_, rfl⟩, map_key_posted _ _⟩
        rw [← told.exchanges]
        exact exchanges_inside (List.mem_cons_of_mem _ mem)
    | .read _ _ (.error _) | .refused _ _ | .entered _ | .reset _ | .looked _ _ | .tended _ _ _
    | .left _ _ => exact .inl rfl

/-! ## Told turns -/

variable {turns : List Turn} {parts : List (List Deed)}

theorem told_split (told : List.Forall₂ (Tells setup) turns parts) (mem : turn ∈ turns) :
    ∃ earlier part later, parts = earlier ++ part :: later ∧ Tells setup turn part := by
  induction told with
  | nil => cases mem
  | @cons first part turns parts tells told ih =>
    rcases List.mem_cons.1 mem with rfl | mem
    · exact ⟨[], part, parts, rfl, tells⟩
    · obtain ⟨earlier, own, later, rfl, tells'⟩ := ih mem
      exact ⟨part :: earlier, own, later, rfl, tells'⟩

theorem told_exchanges (told : List.Forall₂ (Tells setup) turns parts) :
    parts.flatten.flatMap (Deed.exchanges setup) = turns.flatMap Turn.trace := by
  induction told with
  | nil => rfl
  | cons tells _ ih =>
    rw [List.flatten_cons, List.flatMap_append, tells.exchanges, ih, List.flatMap_cons]

end ChallengeGame.Coordinator
