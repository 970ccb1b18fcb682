import ChallengeGame.Proofs.Coordinator.Deliveries

/-!
# The timeline of a run

The exchanges of a run in their order, each with the head it belongs to. What happened after
the last reorg is recent, and so is, more generally, what no exchange of some kind came after.
-/

namespace ChallengeGame.Coordinator

/-! ## Recent elements -/

section
variable {α : Type} {ends : α → Bool} {list more : List α} {a : α}

/-- An element stands in a list, and nothing after it puts an end to it. -/
def Recent (ends : α → Bool) (list : List α) (a : α) : Prop :=
  ∃ earlier later, list = earlier ++ a :: later ∧ ∀ b ∈ later, ends b = false

theorem Recent.mem (recent : Recent ends list a) : a ∈ list := by
  obtain ⟨earlier, later, rfl, _⟩ := recent
  exact List.mem_append_right _ List.mem_cons_self

theorem recent_append :
    Recent ends (list ++ more) a ↔
      Recent ends more a ∨ (∀ b ∈ more, ends b = false) ∧ Recent ends list a := by
  constructor
  · rintro ⟨earlier, later, split, quiet⟩
    rcases append_at.1 split with ⟨rest, rfl, rfl⟩ | ⟨inner, rfl, rfl⟩
    · refine .inr ⟨fun b mem => quiet b (List.mem_append_right _ mem), earlier, rest, rfl, ?_⟩
      exact fun b mem => quiet b (List.mem_append_left _ mem)
    · exact .inl ⟨inner, later, rfl, quiet⟩
  · rintro (⟨earlier, later, rfl, quiet⟩ | ⟨quietMore, earlier, later, rfl, quiet⟩)
    · exact ⟨list ++ earlier, later, by simp, quiet⟩
    · refine ⟨earlier, later ++ more, by simp, fun b mem => ?_⟩
      rcases List.mem_append.1 mem with mem | mem
      · exact quiet b mem
      · exact quietMore b mem

theorem Recent.append (recent : Recent ends list a) (quiet : ∀ b ∈ more, ends b = false) :
    Recent ends (list ++ more) a :=
  recent_append.2 (.inr ⟨quiet, recent⟩)

/-- Where nothing puts an end to anything, everything is recent. -/
theorem recent_of_mem (mem : a ∈ list) (quiet : ∀ b ∈ list, ends b = false) :
    Recent ends list a := by
  obtain ⟨earlier, later, rfl⟩ := List.append_of_mem mem
  exact ⟨earlier, later, rfl, fun b mem => quiet b (by simp [mem])⟩

end

/-! ## Exchanges with their heads -/

/-- An exchange with the head in whose turn it was made. -/
abbrev Dated := BlockRef × Exchange

def Dated.isReset (dated : Dated) : Bool := Coordinator.isReset dated.2

def Turn.timeline (turn : Turn) : List Dated := turn.trace.map (turn.head, ·)

def Deed.timeline (setup : Setup) (deed : Deed) : List Dated :=
  (deed.exchanges setup).map (deed.head, ·)

variable {setup : Setup} {turns : List Turn} {turn : Turn} {parts : List (List Deed)}
  {deeds : List Deed} {deed : Deed} {moment last : Moment}

theorem Tells.head_eq (tells : Tells setup turn deeds) : ∀ deed ∈ deeds, deed.head = turn.head := by
  obtain ⟨first, rest, rfl, same, _, going⟩ := tells.opens
  intro deed mem
  rcases List.mem_cons.1 mem with rfl | mem
  · exact same
  · exact (going deed mem).1

theorem Tells.timeline (tells : Tells setup turn deeds) :
    deeds.flatMap (Deed.timeline setup) = turn.timeline := by
  have heads : deeds.flatMap (Deed.timeline setup) =
      deeds.flatMap fun deed => (deed.exchanges setup).map (turn.head, ·) := by
    refine List.flatMap_congr fun deed mem => ?_
    rw [Deed.timeline, tells.head_eq deed mem]
  rw [heads, ← List.map_flatMap, tells.exchanges, Turn.timeline]

theorem told_timeline (told : List.Forall₂ (Tells setup) turns parts) :
    parts.flatten.flatMap (Deed.timeline setup) = turns.flatMap Turn.timeline := by
  induction told with
  | nil => rfl
  | cons tells _ ih =>
    rw [List.flatten_cons, List.flatMap_append, tells.timeline, ih, List.flatMap_cons]

theorem mem_timeline {dated : Dated} :
    dated ∈ deed.timeline setup ↔ dated.1 = deed.head ∧ dated.2 ∈ deed.exchanges setup := by
  obtain ⟨head, exchange⟩ := dated
  simp only [Deed.timeline, List.mem_map, Prod.mk.injEq, exists_eq_right_right]
  exact and_comm.trans (and_congr_left' eq_comm)

/-- Only a deed that resets tells of a reorg. -/
theorem Step.isReset_exchanges (step : Step setup moment deed last)
    (going : deed.isReset = false) :
    ∀ exchange ∈ deed.exchanges setup, isReset exchange = false := by
  intro exchange mem
  cases step with
  | @refuse _ _ cause other =>
    -- a head is refused for every reason but a reorg
    obtain rfl := List.mem_singleton.1 mem
    cases cause with
    | reorgRequired => exact absurd rfl other
    | _ => rfl
  | enter =>
    obtain rfl := List.mem_singleton.1 mem
    rfl
  | reset => cases going
  | look => exact Look.isReset_exchanges _ exchange mem
  | tend _ _ =>
    rcases List.mem_append.1 mem with mem | mem
    · obtain ⟨_, _, rfl⟩ := List.mem_map.1 mem; rfl
    · obtain ⟨_, _, rfl⟩ := List.mem_map.1 mem; rfl
  | read _ | fail _ =>
    obtain ⟨_, _, rfl⟩ := List.mem_map.1 mem
    rfl
  | leave => cases mem

theorem Step.isReset_timeline (step : Step setup moment deed last)
    (going : deed.isReset = false) : ∀ dated ∈ deed.timeline setup, dated.isReset = false :=
  fun dated mem => step.isReset_exchanges going dated.2 (mem_timeline.1 mem).2

end ChallengeGame.Coordinator
