import ChallengeGame.Proofs.Coordinator.Persistence
import ChallengeGame.Proofs.Coordinator.Windows

/-!
# The visits of a commitment

All looks at one commitment, each with its head. In a run that meets nothing twice they form
a chain: the first is made at the head that posts the commitment, and every other one because
of what the look before it left in the books. What is tracked or awaited is therefore known
from the last visit alone, which is the invariant `Traced`.
-/

namespace ChallengeGame.Coordinator

abbrev Visit := BlockRef × Look

def Deed.visit? (key : Table.Key) : Deed → Option Visit
  | looked head look => if look.key = key then some (head, look) else none
  | _ => none

def visits (key : Table.Key) (history : List Deed) : List Visit :=
  history.filterMap (Deed.visit? key)

variable {setup : Setup} {key : Table.Key} {books after : Books} {turns : List Turn}
  {parts : List (List Deed)} {history rest : List Deed} {moment last : Moment} {deed : Deed}
  {head : BlockRef} {look : Look} {followUp : FollowUp}
  {earlier list : List Visit} {visit latest : Visit}

@[simp] theorem visits_append (key : Table.Key) (history rest : List Deed) :
    visits key (history ++ rest) = visits key history ++ visits key rest :=
  List.filterMap_append

@[simp] theorem visits_looked :
    visits key [.looked head look] = if look.key = key then [(head, look)] else [] := by
  unfold visits Deed.visit?
  split <;> simp_all

theorem visits_unlooked (unlooked : deed.looksAt key = false) : visits key [deed] = [] := by
  cases deed with
  | looked head look => simpa [Deed.looksAt] using unlooked
  | _ => rfl

theorem key_of_mem_visits (mem : visit ∈ visits key history) : visit.2.key = key := by
  obtain ⟨deed, _, found⟩ := List.mem_filterMap.1 mem
  cases deed with
  | looked head look =>
    simp only [Deed.visit?, Option.ite_none_right_eq_some, Option.some.injEq] at found
    obtain ⟨same, rfl⟩ := found
    exact same
  | _ => cases found

theorem visits_eq_nil_iff : visits key history = [] ↔ history.countP (Deed.looksAt key) = 0 := by
  rw [visits, List.filterMap_eq_nil_iff, List.countP_eq_zero]
  refine forall₂_congr fun deed _ => ?_
  cases deed <;> simp [Deed.visit?, Deed.looksAt]

/-! ## Inquiries -/

def Look.inquiry (look : Look) : Exchange := ⟨.input look.commitment look.block, look.input⟩

/-- Everything that a run asks about the input of a commitment. -/
def inquiries (key : Table.Key) (turns : List Turn) : List Dated :=
  (turns.flatMap Turn.timeline).filter fun dated => asks key dated.2

theorem filter_asks_exchanges (deed : Deed) :
    (deed.exchanges setup).filter (asks key) =
      (visits key [deed]).map fun visit => visit.2.inquiry := by
  have counted := @countP_asks setup key deed
  cases looks : deed.looksAt key with
  | false =>
    rw [looks, if_neg Bool.false_ne_true, List.countP_eq_zero] at counted
    rw [visits_unlooked looks, List.map_nil, List.filter_eq_nil_iff]
    exact counted
  | true =>
    cases deed with
    | looked head look =>
      -- the input is asked for first, and the count leaves no other inquiry
      have same : look.key = key := by simpa [Deed.looksAt] using looks
      have asked : asks key look.inquiry = true := by
        simpa [asks, Look.inquiry, Subject.key] using same
      obtain ⟨more, own⟩ : ∃ more, look.exchanges setup = look.inquiry :: more := ⟨_, rfl⟩
      rw [Deed.exchanges, own, looks, if_pos rfl, List.countP_cons_of_pos asked,
        Nat.add_eq_right, List.countP_eq_zero] at counted
      rw [Deed.exchanges, own, List.filter_cons_of_pos asked, List.filter_eq_nil_iff.2 counted,
        visits_looked, if_pos same]
      rfl
    | _ => cases looks

theorem filter_asks_timeline (deed : Deed) :
    (deed.timeline setup).filter (fun dated => asks key dated.2) =
      (visits key [deed]).map fun visit => (visit.1, visit.2.inquiry) := by
  have filtered := @filter_asks_exchanges setup key deed
  rw [Deed.timeline, List.filter_map]
  simp only [Function.comp_def, filtered, List.map_map]
  cases deed with
  | looked head look => rw [visits_looked]; split <;> rfl
  | _ => rfl

theorem inquiries_eq (told : List.Forall₂ (Tells setup) turns parts) (key : Table.Key) :
    inquiries key turns =
      (visits key parts.flatten).map fun visit => (visit.1, visit.2.inquiry) := by
  rw [inquiries, ← told_timeline told]
  generalize parts.flatten = history
  induction history with
  | nil => rfl
  | cons deed rest ih =>
    rw [List.flatMap_cons, List.filter_append, filter_asks_timeline, ih, ← List.map_append,
      ← visits_append, List.singleton_append]

/-! ## Chains -/

/-- The last visit is the first one, at the block that posts the commitment, or it follows from
the one before: that left the commitment undelivered, and its check is due at the new head. -/
inductive Chained (setup : Setup) : (earlier : List Visit) → (latest : Visit) → Prop where
  | posted {head : BlockRef} {commitment : Commitment} {input : Except ProviderError Bytes}
      {status : ChallengeStatus} {answer : Offer} :
      Chained setup [] (head, ⟨⟨head, commitment, none⟩, input, status, answer⟩)
  | due {earlier : List Visit} {visit : Visit} {head : BlockRef}
      {input : Except ProviderError Bytes} {status : ChallengeStatus} {answer : Offer} :
      Chained setup earlier visit → 0 < setup.retryInterval →
      visit.2.fate setup = .undelivered →
      visit.1.number.later setup.retryInterval ≤ head.number →
      head.number ≤ visit.2.deadline setup →
      Chained setup (earlier ++ [visit])
        (head, ⟨FollowUp.subject (visit.2.entry setup visit.1.number), input, status, answer⟩)

/-! ## Deadlines along a chain -/

/-- The job of the last visit that called for one. -/
def lastJob? (setup : Setup) (list : List Visit) : Option Job :=
  (list.filterMap fun visit => visit.2.job? setup).getLast?

/-- The deadline that some visits leave a commitment of the block with. -/
def carried (setup : Setup) (block : BlockNumber) (list : List Visit) : BlockNumber :=
  match lastJob? setup list with
  | some job => Coordinator.deadline setup block job
  | none => setup.resolveDeadline block

theorem lastJob?_append_singleton (setup : Setup) (list : List Visit) (visit : Visit) :
    lastJob? setup (list ++ [visit]) = (visit.2.job? setup).or (lastJob? setup list) := by
  unfold lastJob?
  rw [List.filterMap_append, List.getLast?_append]
  congr 1
  cases called : visit.2.job? setup <;> simp [called]

theorem deadline_le (setup : Setup) (block : BlockNumber) (job : Job) :
    Coordinator.deadline setup block job ≤ setup.resolveDeadline block := by
  cases job with
  | challenge _ => exact challengeDeadline_le setup block
  | _ => exact UInt64.le_refl _

theorem carried_le (setup : Setup) (block : BlockNumber) (list : List Visit) :
    carried setup block list ≤ setup.resolveDeadline block := by
  unfold carried
  split
  · exact deadline_le setup block _
  · exact UInt64.le_refl _

/-- A look that calls for a job sets the deadline anew, every other one passes on what it knows. -/
theorem Look.deadline_eq
    (known : look.known?.getD (setup.resolveDeadline look.block.number) =
      carried setup look.block.number list) :
    look.deadline setup = carried setup look.block.number (list ++ [(head, look)]) := by
  unfold carried at known ⊢
  rw [lastJob?_append_singleton]
  cases called : look.decision setup <;> simp [Look.deadline, Look.job?, called, known]

theorem Chained.deadline_eq (chained : Chained setup earlier latest) :
    latest.2.deadline setup = carried setup latest.2.block.number (earlier ++ [latest]) := by
  induction chained with
  | posted => exact Look.deadline_eq rfl
  | due _ _ _ _ _ ih => exact Look.deadline_eq ih

/-! ## What the books and the round know of the visits -/

structure Traced (setup : Setup) (history : List Deed) (moment : Moment) : Prop where
  chained : ∀ key earlier latest, visits key history = earlier ++ [latest] →
    Chained setup earlier latest
  tracked : ∀ followUp ∈ moment.books.followUps.entries.values,
    ∃ earlier latest, visits followUp.key history = earlier ++ [latest] ∧
      0 < setup.retryInterval ∧ latest.2.fate setup = .undelivered ∧
      followUp = latest.2.entry setup latest.1.number
  /-- Whatever is answered at the next look, it continues the chain. -/
  awaited : ∀ round head subjects, moment.stage = .looking round head subjects →
    ∀ subject ∈ subjects, ∀ input status answer,
      Chained setup (visits subject.key history) (head, ⟨subject, input, status, answer⟩)

theorem Look.eq_entry_or_mem {number : BlockNumber}
    (interval : books.followUps.interval = setup.retryInterval)
    (mem : followUp ∈ (look.enter setup number books).followUps.entries.values) :
    (0 < setup.retryInterval ∧ look.fate setup = .undelivered ∧
        followUp = look.entry setup number) ∨
      followUp ∈ books.followUps.entries.values := by
  unfold Look.enter at mem
  split at mem
  · exact .inr mem
  · rename_i undelivered
    by_cases enabled : 0 < setup.retryInterval
    · rcases FollowUps.eq_or_mem_of_mem_track mem with same | mem
      · refine .inl ⟨enabled, undelivered, ?_⟩
        rw [same, Look.entry, FollowUps.nextCheck, interval]
      · exact .inr mem
    · -- an interval of zero keeps nothing
      have off : books.followUps.interval = 0 := by
        rw [interval]
        exact UInt64.le_zero_iff.1 (UInt64.not_lt.1 enabled)
      rw [FollowUps.track_eq_self (.inl off)] at mem
      exact .inr mem
  · exact .inr mem

theorem Traced.of_unlooked (traced : Traced setup history moment)
    (unlooked : ∀ key, deed.looksAt key = false)
    (tracked : ∀ followUp ∈ last.books.followUps.entries.values,
      followUp ∈ moment.books.followUps.entries.values)
    (awaited : ∀ round head subjects, last.stage = .looking round head subjects →
      ∀ subject ∈ subjects, ∀ input status answer,
        Chained setup (visits subject.key history) (head, ⟨subject, input, status, answer⟩)) :
    Traced setup (history ++ [deed]) last := by
  have same (key : Table.Key) : visits key (history ++ [deed]) = visits key history := by
    rw [visits_append, visits_unlooked (unlooked key), List.append_nil]
  constructor
  case chained => simpa only [same] using traced.chained
  case tracked =>
    intro followUp mem
    simpa only [same] using traced.tracked followUp (tracked followUp mem)
  case awaited => simpa only [same] using awaited

theorem Traced.looked {round : Round} {rest : List Subject}
    (traced : Traced setup history ⟨.looking round head (look.toSubject :: rest), books⟩)
    (interval : books.followUps.interval = setup.retryInterval)
    (balance : (Stage.looking round head (look.toSubject :: rest)).awaited look.key +
      books.followUps.count look.key ≤ 1) :
    Traced setup (history ++ [.looked head look])
      ⟨Stage.after (.looking round head rest) (look.result setup),
        look.enter setup head.number books⟩ := by
  -- the look is at the one place where its commitment was, so it touches no other
  have alone : rest.countP (fun subject => subject.key == look.key) +
      books.followUps.count look.key = 0 := by
    simp only [Stage.awaited, List.countP_cons, beq_self_eq_true, if_true] at balance
    omega
  have awaitedOnce : ∀ subject ∈ rest, look.key ≠ subject.key := by
    intro subject mem same
    have again := (List.countP_eq_zero.1 (Nat.add_eq_zero_iff.1 alone).1) subject mem
    simp [same] at again
  have untracked : ∀ followUp ∈ books.followUps.entries.values, look.key ≠ followUp.key := by
    intro followUp mem same
    have tracked := FollowUps.count_pos_iff.2 ⟨followUp, mem, same.symm⟩
    omega
  constructor
  case chained =>
    intro key earlier latest split
    rw [visits_append, visits_looked] at split
    split_ifs at split with same
    · obtain ⟨rfl, ends⟩ := List.append_inj' split rfl
      cases ends
      exact same ▸ traced.awaited round head _ rfl _ List.mem_cons_self look.input look.status
        look.answer
    · exact traced.chained key earlier latest (by simpa using split)
  case tracked =>
    intro followUp mem
    rcases Look.eq_entry_or_mem interval mem with ⟨enabled, undelivered, rfl⟩ | mem
    · have own : look.key = (look.entry setup head.number).key := rfl
      refine ⟨visits look.key history, (head, look), ?_, enabled, undelivered, rfl⟩
      rw [visits_append, visits_looked, ← own, if_pos rfl]
    · rw [visits_append, visits_looked, if_neg (untracked followUp mem), List.append_nil]
      exact traced.tracked followUp mem
  case awaited =>
    intro round' head' subjects stage subject mem
    cases ended : look.result setup with
    | ok _ =>
      rw [ended] at stage
      cases stage
      rw [visits_append, visits_looked, if_neg (awaitedOnce subject mem), List.append_nil]
      exact traced.awaited round head _ rfl subject (List.mem_cons_of_mem _ mem)
    | error _ =>
      rw [ended] at stage
      cases stage

theorem Step.traced (step : Step setup moment deed last) (traced : Traced setup history moment)
    (interval : moment.books.followUps.interval = setup.retryInterval)
    (balance : ∀ key, moment.stage.awaited key + moment.books.followUps.count key ≤ 1)
    (fresh : ∀ key ∈ deed.met, visits key history = []) :
    Traced setup (history ++ [deed]) last := by
  cases step with
  | refuse _ | fail _ | leave | tend _ _ =>
    exact traced.of_unlooked (fun _ => rfl) (fun _ mem => mem) fun _ _ _ stage => by cases stage
  | reset =>
    refine traced.of_unlooked (fun _ => rfl) (fun _ mem => by cases mem) ?_
    intro round head subjects stage subject mem
    cases stage
    cases mem
  | @enter books head =>
    refine traced.of_unlooked (fun _ => rfl) (fun _ mem => (FollowUps.mem_rest.1 mem).1) ?_
    intro round head subjects stage subject mem
    cases stage
    -- what is due was left by the last visit of its commitment
    obtain ⟨followUp, due, rfl⟩ := List.mem_map.1 mem
    obtain ⟨kept, check, alive⟩ := FollowUps.mem_due.1 due
    obtain ⟨earlier, latest, visited, enabled, undelivered, rfl⟩ := traced.tracked followUp kept
    have chained := traced.chained _ earlier latest visited
    rw [FollowUp.key_subject, visited]
    exact fun _ _ _ => .due chained enabled undelivered check alive
  | @read books head entries reading _ =>
    refine traced.of_unlooked (fun _ => rfl) (fun _ mem => mem) ?_
    intro round head' subjects stage subject mem
    cases stage
    -- what the block posts was never visited
    rw [fresh subject.key (List.mem_map_of_mem mem)]
    obtain ⟨commitment, _, rfl⟩ := List.mem_map.1 mem
    exact fun _ _ _ => .posted
  | look =>
    exact traced.looked interval (balance _)

theorem traced_start (started : Coordinator.start setup = .ok books) :
    Traced setup [] ⟨.resting, books⟩ := by
  obtain ⟨_, rfl⟩ := start_eq_ok_iff.1 started
  constructor
  · intro key earlier latest split; simp [visits] at split
  · intro followUp mem; cases mem
  · intro round head subjects stage; cases stage

section
variable (started : Coordinator.start setup = .ok books) (once : MeetsOnce setup turns)
  (told : Told setup books turns after parts)
include started once told

theorem unvisited_of_met (whole : parts.flatten = history ++ [deed] ++ rest)
    (met : key ∈ deed.met) : visits key history = [] := by
  rw [visits_eq_nil_iff]
  by_contra looked
  have before := met_of_looked started told (whole.trans (List.append_assoc ..))
    (Nat.pos_of_ne_zero looked)
  have total := met_count_le once told whole key
  have now := List.count_pos_iff.2 met
  simp only [List.flatMap_append, List.flatMap_singleton, List.count_append] at total
  omega

theorem Reaches.traced (whole : parts.flatten = history ++ rest)
    (reached : Reaches setup ⟨.resting, books⟩ history moment) :
    Traced setup history moment := by
  -- by induction on the history; the balance holds at each of its moments
  induction reached generalizing rest with
  | nil => exact traced_start started
  | snoc earlier step ih =>
    have shorter := whole.trans (List.append_assoc ..)
    refine step.traced (ih shorter) (earlier.interval.trans (interval_start started))
      (fun key => ?_) fun key met => unvisited_of_met started once told whole met
    have balance := balance_le started once told shorter earlier key
    omega

end

end ChallengeGame.Coordinator
