import ChallengeGame.Proofs.Coordinator.Decisions
import ChallengeGame.Proofs.Coordinator.Turns
import Mathlib.Data.List.Count

/-!
# One delivery for each commitment

A commitment leads to one job only if it is met once: the books remember what still has to
be looked at, not what was delivered. A block that posts a commitment twice leads to two
jobs, and so does a head that is handed over twice. `delivers_once_iff` gives the exact
condition: between two reorgs nothing is met twice.
-/

namespace ChallengeGame.Coordinator

/-! ## Days -/

/-- A head with what the chain has to say about it: how the provider follows, and what is
answered when the block is read. -/
structure Day where
  head : BlockRef
  origin : Except ProviderError Unit
  replies : (query : Batch.Query) → query.Answer

namespace Day

def resets (day : Day) : Bool := day.origin = .error .reorgRequired

/-- The commitments that the block yields, with its number. A refused head is not read. -/
def met (setup : Setup) (day : Day) : List (BlockNumber × Commitment) :=
  match day.origin with
  | .ok _ | .error .reorgRequired =>
    (Batch.commitments
      ((Batch.entries setup.rollup setup.hasBlobs day.head).record day.replies).2).map
      (day.head.number, ·)
  | .error _ => []

/-- The turn is about the head of the day and has its answers about the chain. -/
structure Governs (day : Day) (turn : Turn) : Prop where
  head : turn.head = day.head
  origin : ∀ id origin, ⟨.advance id, origin⟩ ∈ turn.trace → origin = day.origin
  replies : ∀ query answer, ⟨.batch query, answer⟩ ∈ turn.trace → answer = day.replies query

end Day

/-- No commitment of a block is met twice without a reorg in between. `seen` was met before. -/
def Unrepeated (setup : Setup) : (seen : List (BlockNumber × Commitment)) → List Day → Prop
  | _, [] => True
  | seen, day :: rest =>
    let seen := (if day.resets then [] else seen) ++ day.met setup
    seen.Nodup ∧ Unrepeated setup seen rest

/-! ## Segments of a trace -/

def isReset : Exchange → Bool
  | ⟨.advance _, .error .reorgRequired⟩ => true
  | _ => false

def challenges (posting : Posting) (job : Job) : Bool := job == .challenge posting

def resolves (posting : Posting) : Job → Bool
  | .resolve resolution => resolution.posting == posting
  | _ => false

def offers (wanted : Job → Bool) : Exchange → Bool
  | ⟨.offer job, _⟩ => wanted job
  | _ => false

/-- Between two reorgs at most one challenge and at most one resolution of a posting is
taken, and after either none is offered again. -/
structure DeliversOnce (trace : List Exchange) (posting : Posting) : Prop where
  challenge : ∀ segment, segment <:+: trace → (∀ exchange ∈ segment, isReset exchange = false) →
    segment.countP (hands (challenges posting)) ≤ 1
  resolve : ∀ segment, segment <:+: trace → (∀ exchange ∈ segment, isReset exchange = false) →
    segment.countP (hands (resolves posting)) ≤ 1
  never_again : ∀ earlier exchange later, earlier ++ exchange :: later <:+: trace →
    (∀ exchange ∈ later, isReset exchange = false) → hands (disputes posting) exchange = true →
    ∀ other ∈ later, offers (disputes posting) other = false

/-! ## Counting from the last reorg on -/

def Deed.isReset : Deed → Bool
  | .reset _ => true
  | _ => false

/-- The weight of the deeds after the last reorg, `start` being what there was before. -/
def since (weight : Deed → Nat) (start : Nat) (history : List Deed) : Nat :=
  history.foldl (fun total deed => if deed.isReset then 0 else total + weight deed) start

variable {setup : Setup} {key : Table.Key} {weight : Deed → Nat} {start : Nat}
  {moment last : Moment} {history later : List Deed} {deed : Deed}

@[simp] theorem since_nil : since weight start [] = start := rfl

@[simp] theorem since_cons : since weight start (deed :: later) =
    since weight (if deed.isReset then 0 else start + weight deed) later := rfl

theorem since_append : since weight start (history ++ later) =
    since weight (since weight start history) later :=
  List.foldl_append

theorem le_since (quiet : ∀ deed ∈ history, deed.isReset = false) :
    start ≤ since weight start history := by
  induction history generalizing start with
  | nil => exact Nat.le_refl _
  | cons deed rest ih =>
    have later := @ih (start + weight deed) fun other mem =>
      quiet other (List.mem_cons_of_mem _ mem)
    rw [since_cons, quiet deed List.mem_cons_self, if_neg Bool.false_ne_true]
    omega

def ends (setup : Setup) (key : Table.Key) (deed : Deed) : Nat :=
  if deed.concludes setup key then 1 else 0

def meets (key : Table.Key) (deed : Deed) : Nat := deed.met.count key

theorem Reaches.balance_since {ended met : Nat} (reaches : Reaches setup moment history last)
    (before : moment.stage.awaited key + moment.books.followUps.count key + ended ≤ met) :
    last.stage.awaited key + last.books.followUps.count key +
      since (ends setup key) ended history ≤ since (meets key) met history := by
  induction reaches with
  | nil => simpa using before
  | @snoc _ _ _ deed _ step ih =>
    rw [since_append, since_append]
    simp only [since_cons, since_nil]
    by_cases reset : deed.isReset = true
    · -- a reorg empties the books and both counts
      rw [if_pos reset, if_pos reset]
      cases step with
      | reset => simp [Stage.awaited, Books.clear]
      | _ => cases reset
    · -- without a reorg both sides move as the balance does
      have balance := step.balance key
      simp only [reset, Bool.false_eq_true, if_false, ends, meets]
      omega

/-! ## Days and deeds -/

def keyOf (pair : BlockNumber × Commitment) : Table.Key := Table.Key.of pair.1 pair.2

theorem keyOf_injective : Function.Injective keyOf := fun a b equal => by
  obtain ⟨block, commitment⟩ := Table.Key.of_injective.1 equal
  exact Prod.ext block commitment

variable {day : Day} {turn : Turn} {deeds : List Deed}

theorem Turn.Reads.eq_of_governs {commitments : List Commitment}
    (reads : turn.Reads setup commitments) (governs : day.Governs turn) :
    commitments = Batch.commitments
      ((Batch.entries setup.rollup setup.hasBlobs day.head).record day.replies).2 := by
  rw [← governs.head]
  exact reads.eq day.replies governs.replies

def Day.Refuses (day : Day) : Prop :=
  ∃ cause, day.origin = .error cause ∧ cause ≠ .reorgRequired

theorem Deed.isReset_of_not_starts (going : deed.starts = false) : deed.isReset = false := by
  cases deed with
  | reset head => cases going
  | _ => rfl

theorem origin_of_step {first : Deed} (step : Step setup moment first last)
    (starts : first.starts = true) (governs : day.Governs turn)
    (mem : first.exchanges setup <:+: turn.trace) :
    first.isReset = day.resets ∧
      (day.Refuses → last.stage.unread = 0) := by
  cases step with
  | @refuse books head cause other =>
    have origin := governs.origin _ _ (mem.subset List.mem_cons_self)
    simp [Deed.isReset, Day.resets, ← origin, other, Stage.unread]
  | enter =>
    have origin := governs.origin _ _ (mem.subset List.mem_cons_self)
    simp [Deed.isReset, Day.resets, Day.Refuses, ← origin]
  | reset =>
    have origin := governs.origin _ _ (mem.subset List.mem_cons_self)
    simp [Deed.isReset, Day.resets, Day.Refuses, ← origin]
  | _ => cases starts

theorem Day.met_eq (follows : ¬ day.Refuses) :
    day.met setup = (Batch.commitments
      ((Batch.entries setup.rollup setup.hasBlobs day.head).record day.replies).2).map
      (day.head.number, ·) := by
  unfold Day.met
  split
  · rfl
  · rfl
  · rename_i cause other origin
    exact absurd ⟨cause, origin, other⟩ follows

theorem Day.met_of_refuses (refuses : day.Refuses) : day.met setup = [] := by
  obtain ⟨cause, origin, other⟩ := refuses
  unfold Day.met
  split
  · rename_i given; rw [origin] at given; cases given
  · rename_i given; rw [origin] at given; cases given; contradiction
  · rfl

theorem Day.origin_of_follows (follows : ¬ day.Refuses) :
    day.origin = .ok () ∨ day.origin = .error .reorgRequired := by
  rcases given : day.origin with cause | _
  · by_cases reorg : cause = .reorgRequired
    · exact .inr (by rw [reorg])
    · exact absurd ⟨cause, given, reorg⟩ follows
  · exact .inl rfl

/-- A turn starts over exactly on a day that resets, and meets no more than its day. -/
theorem Tells.met_le (told : Tells setup turn deeds) (key : Table.Key)
    (reaches : Reaches setup moment deeds last) (governs : day.Governs turn) :
    ∃ first rest, deeds = first :: rest ∧ first.isReset = day.resets ∧ first.met = [] ∧
      (∀ deed ∈ rest, deed.isReset = false) ∧
      (rest.flatMap Deed.met).count key ≤ ((day.met setup).map keyOf).count key := by
  obtain ⟨first, rest, middle, rfl, starts, _, going, step, later⟩ := told.uncons reaches
  have inside : first.exchanges setup <:+: turn.trace :=
    told.exchanges ▸ exchanges_inside List.mem_cons_self
  obtain ⟨resets, refused⟩ := origin_of_step step starts governs inside
  refine ⟨first, rest, rfl, resets, Deed.met_of_starts starts, ?_, ?_⟩
  · exact fun deed mem => Deed.isReset_of_not_starts (going deed mem).2
  · by_cases refuses : day.Refuses
    · -- nothing is read after a refusal, and nothing has to be
      rw [later.met_eq_nil (fun deed mem => (going deed mem).2) (refused refuses)]
      simp
    · have met := told.met reaches
      rw [List.flatMap_cons, Deed.met_of_starts starts, List.nil_append] at met
      rcases met with none | ⟨commitments, reads, same⟩
      · simp [none]
      · rw [same, reads.eq_of_governs governs, Day.met_eq refuses, governs.head, List.map_map]
        exact Nat.le_refl _

theorem since_meets (quiet : ∀ deed ∈ history, deed.isReset = false) :
    since (meets key) start history = start + (history.flatMap Deed.met).count key := by
  induction history generalizing start with
  | nil => rfl
  | cons deed rest ih =>
    rw [since_cons, quiet deed List.mem_cons_self, if_neg Bool.false_ne_true,
      ih fun other mem => quiet other (List.mem_cons_of_mem _ mem), List.flatMap_cons,
      List.count_append, meets, Nat.add_assoc]

theorem since_meets_le {seen : List (BlockNumber × Commitment)} {first : Deed}
    {some more : List Deed} (resets : first.isReset = day.resets) (unmet : first.met = [])
    (noResets : ∀ deed ∈ some ++ more, deed.isReset = false)
    (met : ((some ++ more).flatMap Deed.met).count key ≤ ((day.met setup).map keyOf).count key)
    (bound : start ≤ (seen.map keyOf).count key) :
    since (meets key) start (first :: some) ≤
      (((if day.resets then [] else seen) ++ day.met setup).map keyOf).count key := by
  rw [since_cons, since_meets fun deed mem => noResets deed (List.mem_append_left _ mem), resets]
  rw [List.flatMap_append, List.count_append] at met
  rw [List.map_append, List.count_append]
  -- on a day that resets, only what the day itself meets counts
  cases day.resets
  · simp only [Bool.false_eq_true, if_false, meets, unmet, List.count_nil] at bound ⊢
    omega
  · simp only [if_true, List.map_nil, List.count_nil] at bound ⊢
    omega

theorem since_meets_le_one (key : Table.Key) {days : List Day} {turns : List Turn}
    {parts : List (List Deed)} {seen : List (BlockNumber × Commitment)}
    (governs : List.Forall₂ Day.Governs days turns)
    (told : List.Forall₂ (Tells setup) turns parts)
    (reaches : Reaches setup moment parts.flatten last) (unrepeated : Unrepeated setup seen days)
    (fresh : start ≤ 1) (bound : start ≤ (seen.map keyOf).count key)
    (whole : parts.flatten = history ++ later) : since (meets key) start history ≤ 1 := by
  induction governs generalizing start moment parts seen history with
  | nil =>
    cases told
    obtain ⟨rfl, _⟩ := List.append_eq_nil_iff.1 whole.symm
    exact fresh
  | @cons day turn days turns governs _ ih =>
    obtain _ | ⟨tells, told⟩ := told
    rename_i part parts
    obtain ⟨middle, own, onward⟩ := Reaches.split reaches
    obtain ⟨first, rest, rfl, resets, unmet, noResets, met⟩ := tells.met_le key own governs
    obtain ⟨nodup, unrepeated⟩ := unrepeated
    have once : (((if day.resets then [] else seen) ++ day.met setup).map keyOf).count key ≤ 1 :=
      List.nodup_iff_count_le_one.1 (nodup.map keyOf_injective) key
    -- the history goes beyond the turn, or it ends within it
    rw [List.flatten_cons, List.append_eq_append_iff] at whole
    rcases whole with ⟨beyond, rfl, tail⟩ | ⟨remaining, within, _⟩
    · rw [← List.append_nil rest] at noResets met
      have own := since_meets_le resets unmet noResets met bound
      rw [since_append]
      exact ih told onward unrepeated (by omega) own tail
    · cases history with
      | nil => exact fresh
      | cons deed some =>
        obtain ⟨rfl, rfl⟩ := List.cons.inj within
        have own := since_meets_le resets unmet noResets met bound
        omega

/-! ## What is met once is delivered once -/

section
variable {books after : Books} {days : List Day} {turns : List Turn} {parts : List (List Deed)}
  {block : BlockNumber} {commitment : Commitment} {exchange : Exchange}

theorem isReset_of_concludes (ended : deed.concludes setup key = true) :
    deed.isReset = false := by
  cases deed with
  | reset head => cases ended
  | _ => rfl

theorem not_looked_at_again {first second : Deed} {between : List Deed}
    (started : Coordinator.start setup = .ok books) (told : Told setup books turns after parts)
    (governs : List.Forall₂ Day.Governs days turns) (unrepeated : Unrepeated setup [] days)
    (whole : parts.flatten = history ++ first :: (between ++ second :: later))
    (ended : first.concludes setup key = true)
    (quiet : ∀ deed ∈ between, deed.isReset = false) : second.looksAt key = false := by
  by_contra looks
  rw [Bool.not_eq_false] at looks
  have split : parts.flatten = (history ++ first :: between) ++ second :: later := by
    rw [whole]; simp
  have reaches := told.reaches
  rw [split] at reaches
  obtain ⟨moment, reached, rest⟩ := reaches.split
  obtain ⟨_, step, _⟩ := rest.uncons
  have awaited := step.awaited_pos looks
  have met := since_meets_le_one key governs told.tells told.reaches unrepeated
    (Nat.zero_le 1) (Nat.zero_le _) split
  have fresh : Stage.resting.awaited key + books.followUps.count key + 0 ≤ 0 := by
    rw [count_start started]; exact Nat.le_refl 0
  -- the commitment was awaited and had ended since the last reorg, which makes two
  have balance := reached.balance_since fresh
  have one : 1 ≤ since (ends setup key) 0 (history ++ first :: between) := by
    rw [since_append, since_cons, isReset_of_concludes ended, if_neg Bool.false_ne_true]
    refine Nat.le_trans ?_ (le_since quiet)
    rw [ends, ended, if_pos rfl]
    exact Nat.le_add_left 1 _
  omega

theorem delivers_of_hands (mem : exchange ∈ deed.exchanges setup)
    (hands : hands (disputes (Posting.of block commitment)) exchange = true) :
    deed.delivers setup (Table.Key.of block commitment) = true := by
  have count := countP_hands setup block commitment deed
  have positive := List.countP_pos_iff.2 ⟨exchange, mem, hands⟩
  by_contra none
  rw [if_neg none] at count
  omega

theorem countP_offers_le (setup : Setup) (block : BlockNumber) (commitment : Commitment)
    (deed : Deed) :
    (deed.exchanges setup).countP (offers (disputes (Posting.of block commitment))) ≤
      if deed.looksAt (Table.Key.of block commitment) then 1 else 0 := by
  rw [countP_exchanges (fun _ _ => rfl) (fun _ => rfl) (fun _ _ => rfl) (fun _ => rfl)]
  cases deed with
  | looked head look =>
    -- a look offers nothing until its evaluation is over
    have evaluation : (look.evaluation setup).countP
        (offers (disputes (Posting.of block commitment))) = 0 :=
      Look.countP_evaluation (fun _ _ _ => rfl) fun _ _ _ => rfl
    simp only [Look.exchanges, List.countP_append, evaluation, Deed.looksAt, Nat.zero_add]
    rcases called : look.decision setup with job | _ | _
    · have about := Look.disputes_eq called (Posting.of block commitment)
      rw [Look.posting_beq] at about
      cases answered : look.answer <;>
        simp [Look.offering, called, offers, answered, about, List.countP_cons]
    · simp [Look.offering, called]
    · simp [Look.offering, called]
  | _ => exact Nat.zero_le _

theorem looksAt_of_offers (mem : exchange ∈ deed.exchanges setup)
    (offered : offers (disputes (Posting.of block commitment)) exchange = true) :
    deed.looksAt (Table.Key.of block commitment) = true := by
  have count := countP_offers_le setup block commitment deed
  have positive := List.countP_pos_iff.2 ⟨exchange, mem, offered⟩
  by_contra none
  rw [if_neg none] at count
  omega

theorem offers_of_hands {wanted : Job → Bool} (handed : hands wanted exchange = true) :
    offers wanted exchange = true := by
  obtain ⟨query, answer⟩ := exchange
  cases query with
  | offer job =>
    simp only [hands, Bool.and_eq_true] at handed
    exact handed.1
  | _ => cases handed

theorem isReset_eq_false
    (quiet : ∀ exchange ∈ history.flatMap (Deed.exchanges setup), isReset exchange = false) :
    ∀ deed ∈ history, deed.isReset = false := by
  intro deed mem
  cases deed with
  | reset head =>
    exact quiet ⟨.advance head.id, .error .reorgRequired⟩
      (List.mem_flatMap.2 ⟨_, mem, List.mem_cons_self⟩)
  | _ => rfl

theorem never_again_of_unrepeated {earlier rest : List Exchange}
    (started : Coordinator.start setup = .ok books) (told : Told setup books turns after parts)
    (governs : List.Forall₂ Day.Governs days turns) (unrepeated : Unrepeated setup [] days)
    (inside : earlier ++ exchange :: rest <:+: turns.flatMap Turn.trace)
    (quiet : ∀ exchange ∈ rest, isReset exchange = false)
    (handed : hands (disputes (Posting.of block commitment)) exchange = true) :
    ∀ other ∈ rest, offers (disputes (Posting.of block commitment)) other = false := by
  intro other mem
  by_contra offered
  rw [Bool.not_eq_false] at offered
  obtain ⟨before, behind, split⟩ := inside
  obtain ⟨between, right, rfl⟩ := List.append_of_mem mem
  have found : parts.flatten.flatMap (Deed.exchanges setup) =
      (before ++ earlier) ++ exchange :: (between ++ other :: (right ++ behind)) := by
    rw [told_exchanges told.tells, ← split]; simp
  obtain ⟨deed, own, ending, inside, same⟩ |
    ⟨history, first, inner, second, later, whole, handedBy, offeredBy, within⟩ :=
      exchanges_at found
  · -- the deed that handed the job over would have made two offers
    have two : 2 ≤ (deed.exchanges setup).countP
        (offers (disputes (Posting.of block commitment))) := by
      have positive := List.countP_pos_iff.2 ⟨other, same, offered⟩
      rw [inside, List.countP_append, List.countP_cons, if_pos (offers_of_hands handed)]
      omega
    have one := countP_offers_le setup block commitment deed
    split at one <;> omega
  · -- the second deed would have looked at a commitment that came to its end
    have ended : first.concludes setup (Table.Key.of block commitment) = true := by
      rw [concludes_eq, delivers_of_hands handedBy handed, Bool.or_true]
    have noReset : ∀ deed ∈ inner, deed.isReset = false :=
      isReset_eq_false fun exchange mem => quiet exchange (List.mem_append_left _ (within mem))
    have unlooked := not_looked_at_again started told governs unrepeated whole ended noReset
    rw [looksAt_of_offers offeredBy offered] at unlooked
    cases unlooked

theorem countP_le_one {α : Type} {p : α → Bool} {l : List α}
    (alone : ∀ earlier a later, l = earlier ++ a :: later → p a = true →
      ∀ b ∈ later, p b = false) :
    l.countP p ≤ 1 := by
  induction l with
  | nil => simp
  | cons a rest ih =>
    rw [List.countP_cons]
    by_cases holds : p a = true
    · have none : rest.countP p = 0 :=
        List.countP_eq_zero.2 fun b mem => by simp [alone [] a rest rfl holds b mem]
      simp [none, holds]
    · rw [if_neg holds]
      exact ih fun earlier b later split => alone (a :: earlier) b later (by rw [split]; rfl)

theorem countP_hands_le_one {wanted : Job → Bool} {posting : Posting}
    {trace segment : List Exchange}
    (about : ∀ job, wanted job = true → disputes posting job = true)
    (inside : segment <:+: trace) (quiet : ∀ exchange ∈ segment, isReset exchange = false)
    (again : ∀ earlier exchange later, earlier ++ exchange :: later <:+: trace →
      (∀ exchange ∈ later, isReset exchange = false) → hands (disputes posting) exchange = true →
      ∀ other ∈ later, offers (disputes posting) other = false) :
    segment.countP (hands wanted) ≤ 1 := by
  have weaken {exchange : Exchange} (handed : hands wanted exchange = true) :
      hands (disputes posting) exchange = true := by
    obtain ⟨query, answer⟩ := exchange
    cases query with
    | offer job =>
      simp only [hands, Bool.and_eq_true] at handed ⊢
      exact ⟨about job handed.1, handed.2⟩
    | _ => cases handed
  -- after the first of two there would be an offer, although nothing calls for a reset in between
  refine countP_le_one fun earlier exchange later split handed other mem => ?_
  by_contra handedAgain
  have offered := offers_of_hands (weaken (by simpa using handedAgain))
  subst split
  rw [again earlier exchange later inside
    (fun exchange mem => quiet exchange (by simp [mem])) (weaken handed) other mem] at offered
  cases offered

theorem delivers_once_of_unrepeated (started : Coordinator.start setup = .ok books)
    (run : Run setup books turns after) (governs : List.Forall₂ Day.Governs days turns)
    (unrepeated : Unrepeated setup [] days) (block : BlockNumber) (commitment : Commitment) :
    DeliversOnce (turns.flatMap Turn.trace) (Posting.of block commitment) := by
  obtain ⟨parts, told⟩ := run.told
  have again : ∀ earlier exchange later,
      earlier ++ exchange :: later <:+: turns.flatMap Turn.trace →
      (∀ exchange ∈ later, isReset exchange = false) →
      hands (disputes (Posting.of block commitment)) exchange = true →
      ∀ other ∈ later, offers (disputes (Posting.of block commitment)) other = false :=
    fun _ _ _ inside => never_again_of_unrepeated started told governs unrepeated inside
  refine ⟨fun segment inside quiet => ?_, fun segment inside quiet => ?_, again⟩
  · refine countP_hands_le_one (fun job challenged => ?_) inside quiet again
    have same : job = .challenge (Posting.of block commitment) := by
      simpa [challenges] using challenged
    simp [same, disputes]
  · refine countP_hands_le_one (fun job resolved => ?_) inside quiet again
    cases job with
    | resolve resolution => exact resolved
    | _ => cases resolved

end

/-! ## What is met twice is delivered twice -/

/-- The jobs that are offered if every commitment calls for one. -/
def demanded (setup : Setup) (posting : Posting) : Job → Bool :=
  if setup.takes .challenge then challenges posting else resolves posting

/-- The chain answers as on the day, every commitment calls for a job, and every job is
taken. -/
def Day.respond (setup : Setup) (day : Day) : Responder
  | .advance _ => day.origin
  | .input _ _ => if setup.takes .challenge then .error .pendingChallenge else .ok []
  | .status _ _ => .active
  | .offer _ => .queued
  | .batch query => day.replies query
  | .acted _ => ()

section
variable {books after : Books} {day : Day} {look : Look} {block : BlockNumber}
  {commitment : Commitment}

theorem Look.hands_demanded (block : BlockNumber) (commitment : Commitment)
    (able : setup.takes .challenge = true ∨ setup.takes .resolve = true)
    (answered : ∀ exchange ∈ look.exchanges setup,
      exchange.answer = day.respond setup exchange.query) :
    (if look.key == Table.Key.of block commitment then 1 else 0) ≤
      (look.exchanges setup).countP (hands (demanded setup (Posting.of block commitment))) := by
  have input : look.input = if setup.takes .challenge then .error .pendingChallenge else .ok [] :=
    answered ⟨.input look.commitment look.block, look.input⟩
      (by simp [Look.exchanges, Look.evaluation])
  rw [← Look.posting_beq, Look.exchanges, List.countP_append]
  by_cases challenger : setup.takes .challenge = true
  · rw [if_pos challenger] at input
    have called : look.decision setup = .act (.challenge look.posting) := by
      simp [Look.decision, input, challenger]
    have taken : look.answer = .queued :=
      answered ⟨.offer (.challenge look.posting), look.answer⟩
        (by simp [Look.exchanges, Look.offering, called])
    simp [Look.offering, called, taken, hands, demanded, challenger, challenges, List.countP_cons]
  · rw [if_neg challenger] at input
    have resolver : setup.takes .resolve = true := able.resolve_left challenger
    have active : look.status = .active :=
      answered ⟨.status look.commitment look.block.number, look.status⟩
        (by simp [Look.exchanges, Look.evaluation, input, resolver])
    have called : look.decision setup = .act (.resolve ⟨look.posting, []⟩) := by
      simp [Look.decision, input, resolver, active]
    have taken : look.answer = .queued :=
      answered ⟨.offer (.resolve ⟨look.posting, []⟩), look.answer⟩
        (by simp [Look.exchanges, Look.offering, called])
    simp [Look.offering, called, taken, hands, demanded, challenger, resolves, List.countP_cons]

theorem looks_hands_demanded {looks : List Look}
    (able : setup.takes .challenge = true ∨ setup.takes .resolve = true)
    (answered : ∀ exchange ∈ looks.flatMap (Look.exchanges setup),
      exchange.answer = day.respond setup exchange.query) :
    ((looks.map Look.toSubject).map Subject.key).count (Table.Key.of block commitment) ≤
      (looks.flatMap (Look.exchanges setup)).countP
        (hands (demanded setup (Posting.of block commitment))) := by
  induction looks with
  | nil => exact Nat.zero_le _
  | cons look rest ih =>
    rw [List.flatMap_cons] at answered
    have first := Look.hands_demanded block commitment able
      fun exchange mem => answered exchange (List.mem_append_left _ mem)
    have later := ih fun exchange mem => answered exchange (List.mem_append_right _ mem)
    rw [List.map_cons, List.map_cons, List.count_cons, List.flatMap_cons, List.countP_append]
    omega

theorem Look.isReset_exchanges (look : Look) :
    ∀ exchange ∈ look.exchanges setup, isReset exchange = false := by
  intro exchange mem
  have none : (look.exchanges setup).countP isReset = 0 := by
    rcases called : look.decision setup with job | _ | _ <;>
      cases given : look.input <;>
        simp [Look.exchanges, Look.evaluation, Look.offering, called, given, isReset]
  simpa using List.countP_eq_zero.1 none exchange mem

theorem Session.isReset_exchanges (session : Session) (head : BlockRef) :
    ∀ exchange ∈ session.exchanges setup head, isReset exchange = false := by
  have looks (looks : List Look) :
      ∀ exchange ∈ looks.flatMap (Look.exchanges setup), isReset exchange = false := by
    intro exchange mem
    obtain ⟨look, _, mem⟩ := List.mem_flatMap.1 mem
    exact look.isReset_exchanges exchange mem
  intro exchange mem
  simp only [Session.exchanges, List.mem_append] at mem
  rcases mem with mem | mem | mem | mem | mem
  · exact looks _ exchange mem
  · obtain ⟨_, _, rfl⟩ := List.mem_map.1 mem; rfl
  · obtain ⟨_, _, rfl⟩ := List.mem_map.1 mem; rfl
  · obtain ⟨_, _, rfl⟩ := List.mem_map.1 mem; rfl
  · exact looks _ exchange mem

theorem Session.Covers.hands_met {session : Session}
    (covers : session.Covers setup day.head books)
    (able : setup.takes .challenge = true ∨ setup.takes .resolve = true)
    (follows : ¬ day.Refuses)
    (answered : ∀ exchange ∈ session.exchanges setup day.head,
      exchange.answer = day.respond setup exchange.query) :
    (day.met setup).count (block, commitment) ≤
      (session.exchanges setup day.head).countP
        (hands (demanded setup (Posting.of block commitment))) := by
  have onDay : ∀ exchange ∈ session.reading, exchange.answer = day.replies exchange.query := by
    intro exchange mem
    refine answered (Course.ofBatch exchange) ?_
    simp only [Session.exchanges, List.mem_append]
    exact .inr (.inr (.inr (.inl (List.mem_map.2 ⟨exchange, mem, rfl⟩))))
  have visits : ∀ exchange ∈ session.visited.flatMap (Look.exchanges setup),
      exchange.answer = day.respond setup exchange.query := by
    intro exchange mem
    refine answered exchange ?_
    simp only [Session.exchanges, List.mem_append]
    exact .inr (.inr (.inr (.inr mem)))
  -- a session looks at all that the block yields, and each of these looks calls for a job
  have met : (session.visited.map Look.toSubject).map Subject.key =
      (day.met setup).map keyOf := by
    rw [covers.visited, Day.met_eq follows, Program.record_eq_of_yields covers.reading onDay,
      map_key_posted, List.map_map]
    rfl
  calc (day.met setup).count (block, commitment)
      = ((day.met setup).map keyOf).count (keyOf (block, commitment)) :=
        (List.count_map_of_injective _ _ keyOf_injective _).symm
    _ = ((session.visited.map Look.toSubject).map Subject.key).count
          (Table.Key.of block commitment) := by rw [met]; rfl
    _ ≤ (session.visited.flatMap (Look.exchanges setup)).countP
          (hands (demanded setup (Posting.of block commitment))) :=
        looks_hands_demanded able visits
    _ ≤ (session.exchanges setup day.head).countP
          (hands (demanded setup (Posting.of block commitment))) := by
        refine List.Sublist.countP_le ?_
        simp only [Session.exchanges, ← List.append_assoc]
        exact List.sublist_append_right _ _

theorem perform_hands (able : setup.takes .challenge = true ∨ setup.takes .resolve = true)
    (day : Day) (books : Books) :
    ∃ rest, (perform setup books day.head (day.respond setup)).1.trace =
        ⟨.advance day.head.id, day.origin⟩ :: rest ∧
      (∀ exchange ∈ rest, isReset exchange = false) ∧
      ∀ block commitment, (day.met setup).count (block, commitment) ≤
        rest.countP (hands (demanded setup (Posting.of block commitment))) := by
  have answered := @perform_answers setup books day.head (day.respond setup)
  have uncancelled : Uncancelled (perform setup books day.head (day.respond setup)).1.trace :=
    uncancelled_perform fun job => by simp [Day.respond]
  obtain ⟨origin, rest, split, refused, worked⟩ :=
    course_covers (yields_perform setup books day.head (day.respond setup)) uncancelled
  rw [split] at answered
  obtain rfl : origin = day.origin := answered _ List.mem_cons_self
  refine ⟨rest, split, ?_⟩
  -- a head to which the provider does not follow meets nothing
  by_cases refuses : day.Refuses
  · obtain ⟨cause, origin, other⟩ := id refuses
    obtain ⟨rfl, _⟩ := refused cause origin other
    refine ⟨by simp, fun block commitment => ?_⟩
    rw [Day.met_of_refuses refuses]
    exact Nat.zero_le _
  · obtain ⟨session, covers, rfl⟩ := worked (Day.origin_of_follows refuses)
    refine ⟨session.isReset_exchanges day.head, fun block commitment => ?_⟩
    exact covers.hands_met able refuses fun exchange mem =>
      answered exchange (List.mem_cons_of_mem _ mem)

theorem isReset_advance (day : Day) :
    isReset ⟨.advance day.head.id, day.origin⟩ = day.resets := by
  unfold Day.resets
  rcases day.origin with (_ | _ | _ | _ | _ | _) | _ <;> rfl

theorem DeliversOnce.restrict {posting : Posting} {trace whole : List Exchange}
    (once : DeliversOnce whole posting) (inside : trace <:+: whole) : DeliversOnce trace posting :=
  ⟨fun segment within => once.challenge segment (within.trans inside),
    fun segment within => once.resolve segment (within.trans inside),
    fun earlier exchange later within =>
      once.never_again earlier exchange later (within.trans inside)⟩

theorem DeliversOnce.demanded_le {posting : Posting} {trace segment : List Exchange}
    (once : DeliversOnce trace posting) (inside : segment <:+: trace)
    (quiet : ∀ exchange ∈ segment, isReset exchange = false) :
    segment.countP (hands (demanded setup posting)) ≤ 1 := by
  unfold demanded
  split
  · exact once.challenge segment inside quiet
  · exact once.resolve segment inside quiet

/-- The exchanges since the last reorg, those before the turn of the day being `recent`. -/
def Day.since (day : Day) (recent own : List Exchange) : List Exchange :=
  if day.resets then own else recent ++ ⟨.advance day.head.id, day.origin⟩ :: own

section
variable {recent own : List Exchange} {seen : List (BlockNumber × Commitment)}

theorem Day.isReset_since (quiet : ∀ exchange ∈ recent, isReset exchange = false)
    (ownQuiet : ∀ exchange ∈ own, isReset exchange = false) :
    ∀ exchange ∈ day.since recent own, isReset exchange = false := by
  unfold Day.since
  split
  · exact ownQuiet
  · rename_i resets
    intro exchange mem
    rcases List.mem_append.1 mem with mem | mem
    · exact quiet exchange mem
    · rcases List.mem_cons.1 mem with rfl | mem
      · rw [isReset_advance]; simpa using resets
      · exact ownQuiet exchange mem

theorem Day.since_inside (later : List Exchange) :
    day.since recent own ++ later <:+:
      recent ++ (⟨.advance day.head.id, day.origin⟩ :: own ++ later) := by
  unfold Day.since
  split
  · exact ⟨recent ++ [⟨.advance day.head.id, day.origin⟩], [], by simp⟩
  · exact ⟨[], [], by simp⟩

theorem Day.count_le_since {counts : Exchange → Bool}
    (handed : seen.count (block, commitment) ≤ recent.countP counts)
    (met : (day.met setup).count (block, commitment) ≤ own.countP counts) :
    ((if day.resets then [] else seen) ++ day.met setup).count (block, commitment) ≤
      (day.since recent own).countP counts := by
  unfold Day.since
  split
  · exact met
  · rw [List.count_append, List.countP_append, List.countP_cons]
    omega

/-- The induction is on the days. Everything met since the last reorg has led to a job in the
exchanges since then, so a commitment that is met twice there has two. -/
theorem unrepeated_of_delivers_once
    (able : setup.takes .challenge = true ∨ setup.takes .resolve = true) (books : Books)
    (days : List Day) (quiet : ∀ exchange ∈ recent, isReset exchange = false)
    (handed : ∀ block commitment, seen.count (block, commitment) ≤
      recent.countP (hands (demanded setup (Posting.of block commitment))))
    (once : ∀ block commitment, DeliversOnce
      (recent ++ (performAll setup books
        (days.map fun day => (day.head, day.respond setup))).1.flatMap Turn.trace)
      (Posting.of block commitment)) :
    Unrepeated setup seen days := by
  induction days generalizing books seen recent with
  | nil => trivial
  | cons day rest ih =>
    obtain ⟨own, trace, ownQuiet, met⟩ := perform_hands able day books
    simp only [List.map_cons, performAll, List.flatMap_cons, trace] at once
    have sinceQuiet := @Day.isReset_since day recent own quiet ownQuiet
    have sinceHanded (block : BlockNumber) (commitment : Commitment) :=
      Day.count_le_since (handed block commitment) (met block commitment)
    have onward (block : BlockNumber) (commitment : Commitment) :=
      (once block commitment).restrict (Day.since_inside _)
    refine ⟨List.nodup_iff_count_le_one.2 ?_, ih _ sinceQuiet sinceHanded onward⟩
    rintro ⟨block, commitment⟩
    exact Nat.le_trans (sinceHanded block commitment)
      ((onward block commitment).demanded_le (List.prefix_append _ _).isInfix sinceQuiet)

end

theorem governs_performAll (books : Books) (days : List Day) :
    List.Forall₂ Day.Governs days
      (performAll setup books (days.map fun day => (day.head, day.respond setup))).1 := by
  induction days generalizing books with
  | nil => exact .nil
  | cons day rest ih =>
    refine .cons ⟨rfl, fun id origin mem => ?_, fun query answer mem => ?_⟩ (ih _)
    · exact perform_answers _ mem
    · exact perform_answers _ mem

/-- The exact condition under which nothing is delivered twice, whatever is answered about
the inputs and whoever takes the jobs: between two reorgs no commitment of a block is met
twice. -/
theorem delivers_once_iff (started : Coordinator.start setup = .ok books) (days : List Day) :
    (∀ turns after, Run setup books turns after → List.Forall₂ Day.Governs days turns →
        ∀ block commitment, DeliversOnce (turns.flatMap Turn.trace) (Posting.of block commitment)) ↔
      Unrepeated setup [] days := by
  constructor
  · intro once
    have able := (start_eq_ok_iff.1 started).1
    refine @unrepeated_of_delivers_once setup [] [] able books days (by simp) (by simp) ?_
    exact once _ _ (run_performAll setup books _) (governs_performAll books days)
  · intro unrepeated turns after run governs
    exact delivers_once_of_unrepeated started run governs unrepeated

end

def Sample.dayOf (posted : List Commitment) : Day where
  head := Sample.block 100
  origin := .ok ()
  replies
    | .transactions _ => .ok (posted.map Sample.batch)
    | .blobs _ _ => .ok []

theorem delivers_once_iff_two_commitments :
    Coordinator.start Sample.challenger = .ok (Books.new 4) ∧
      ∀ turns after,
        Run Sample.challenger (Books.new 4) turns after →
        List.Forall₂ Day.Governs [Sample.dayOf [Sample.commitment 7, Sample.commitment 8]] turns →
        ∀ block commitment, DeliversOnce (turns.flatMap Turn.trace) (Posting.of block commitment) :=
  ⟨rfl, (delivers_once_iff rfl _).2 ⟨by decide, trivial⟩⟩

/-- A block that posts a commitment twice has it challenged twice. -/
theorem delivered_twice :
    ∃ turns after,
      Coordinator.start Sample.challenger = .ok (Books.new 4) ∧
      Run Sample.challenger (Books.new 4) turns after ∧
      (turns.flatMap Turn.trace).countP isReset = 0 ∧
      (turns.flatMap Turn.trace).countP
        (hands (challenges (Posting.of 100 (Sample.commitment 7)))) = 2 :=
  ⟨_, _, rfl, run_performAll _ _ [(Sample.block 100, Sample.respond
    [Sample.commitment 7, Sample.commitment 7] (.error .pendingChallenge) .queued)], rfl, rfl⟩

end ChallengeGame.Coordinator
