import ChallengeGame.Proofs.Challenger.Moves

/-!
# The calls of a coordinator to its crew

A coordinator has at most one call under way, and it is at the member that takes the job it
offers. So whoever leaves an offer leaves no call behind, and a coordinator whose desk has ended
makes none.
-/

namespace ChallengeGame

namespace Coordinator

variable {setup : Setup} {coordinator next : Coordinator} {head : BlockRef} {job : Job}

theorem wanted?_eq_some :
    coordinator.wanted? = some job ↔
      ∃ head next, coordinator.activity = .working head (.ask (.offer job) next) := by
  unfold wanted?
  split
  · rename_i working
    simp [working]
  · rename_i other
    refine iff_of_false (by simp) ?_
    rintro ⟨head, next, working⟩
    exact other head job next working

/-! A coordinator at an offer can only go on with the answer to it. -/

theorem begin?_of_wanted? (wanted : coordinator.wanted? = some job) :
    coordinator.begin? setup head = none := by
  obtain ⟨_, _, working⟩ := wanted?_eq_some.1 wanted
  simp [begin?, working]

theorem finish?_of_wanted? (wanted : coordinator.wanted? = some job) :
    coordinator.finish? = none := by
  obtain ⟨_, _, working⟩ := wanted?_eq_some.1 wanted
  simp [finish?, working]

theorem query_of_wanted? {query : Query} {answer : query.Answer}
    (wanted : coordinator.wanted? = some job)
    (moved : coordinator.progress? ⟨query, answer⟩ = some next) : query = .offer job := by
  obtain ⟨_, _, working⟩ := wanted?_eq_some.1 wanted
  simp only [progress?, working, Option.map_eq_some_iff] at moved
  obtain ⟨_, resumed, -⟩ := moved
  obtain ⟨_, same, -⟩ := Program.resume_eq_some.1 resumed
  cases same
  rfl

end Coordinator

namespace Desk

variable {setup : Coordinator.Setup} {desk last : Desk} {action : Action} {shown : List Event}
  {job : Job}

theorem wanted?_eq_some :
    desk.wanted? = some job ↔ desk.phase ≠ .ended ∧ desk.coordinator.wanted? = some job := by
  unfold wanted?
  split <;> simp_all

theorem Move.wanted? (move : Move setup desk action last shown) (goes : action ≠ .stop)
    (other : ∀ job answer, action ≠ .progress ⟨.offer job, answer⟩)
    (wanted : desk.wanted? = some job) : last.wanted? = some job := by
  obtain ⟨going, wanted⟩ := wanted?_eq_some.1 wanted
  refine wanted?_eq_some.2 ?_
  cases move with
  | stopped => exact absurd rfl goes
  | started => exact ⟨by simp, wanted⟩
  | handed _ begun | took _ _ begun =>
    rw [Coordinator.begin?_of_wanted? wanted] at begun
    cases begun
  | finished _ _ ends | died _ _ ends =>
    rw [Coordinator.finish?_of_wanted? wanted] at ends
    cases ends
  | @progressed exchange _ _ moved =>
    obtain ⟨query, answer⟩ := exchange
    obtain rfl := Coordinator.query_of_wanted? wanted moved
    exact absurd rfl (other job answer)
  | _ => exact ⟨going, wanted⟩

end Desk

namespace Challenger

open Scheduler (CallId)

variable {setup : Setup} {challenger last : Challenger} {action : Action} {shown : List Event}
  {kind : ActionKind} {own : List (Scheduler.Event Job)} {job : Job}
  {member next : Scheduler Job ExecutionQuery ExecutionQuery.Answer}

/-! ## Members of a crew -/

theorem returned?_eq_none :
    returned? own = none ↔ ∀ call job result, .returned call job result ∉ own := by
  unfold returned?
  rw [List.findSome?_eq_none_iff]
  constructor
  · intro none call job result mem
    cases none _ mem
  · intro absent event mem
    cases event with
    | returned call job result => exact absurd mem (absent call job result)
    | _ => rfl

theorem returned?_of_move {setup : Scheduler.Setup Job ExecutionQuery ExecutionQuery.Answer}
    {action : Crew.Action} (noCall : ∀ call job, action ≠ .schedule call job)
    (kept : ∀ call, action ≠ .giveUp call)
    (move : Scheduler.Move setup member action next own) :
    returned? own = none ∧ next.waiting = member.waiting ∨
      ∃ entry result, returned? own = some result ∧ member.waiting = entry :: next.waiting := by
  cases move with
  | turnedAway | admitted | queuedUp | dropped => exact absurd rfl (noCall _ _)
  | givenUp => exact absurd rfl (kept _)
  | letIn _ _ waiting | refused _ waiting => exact .inr ⟨_, _, rfl, waiting⟩
  | closedIdle | died | stopped | interrupted =>
    refine .inl ⟨returned?_eq_none.2 ?_, rfl⟩
    simp [Scheduler.discarded]
  | _ => exact .inl ⟨rfl, rfl⟩

/-- A member that has not been started or closed since. -/
def Steady (old new : Scheduler Job ExecutionQuery ExecutionQuery.Answer) : Prop :=
  new.lifecycle = old.lifecycle ∧ (old.worker = .stopped → new.worker = .stopped)

/-- A crew with the same members, none of them started or closed since. -/
def Keeps (before after : Crew) : Prop :=
  ∀ kind, Option.Rel Steady (before.get kind) (after.get kind)

theorem Keeps.refl (crew : Crew) : Keeps crew crew := by
  intro kind
  cases crew.get kind with
  | none => exact .none
  | some member => exact .some ⟨rfl, id⟩

theorem Keeps.set {crew : Crew} (present : crew.get kind = some member)
    (steady : Steady member next) : Keeps crew (crew.set kind (some next)) := by
  intro other
  by_cases same : other = kind
  · subst same
    rw [PerKind.get_set_self, present]
    exact .some steady
  · rw [PerKind.get_set_of_ne _ _ same]
    exact Keeps.refl crew other

theorem steady_of_move {setup : Scheduler.Setup Job ExecutionQuery ExecutionQuery.Answer}
    {action : Crew.Action} (noStart : ∀ cancelled, action ≠ .start cancelled)
    (noClose : ∀ call, action ≠ .close call)
    (move : Scheduler.Move setup member action next own) : Steady member next := by
  cases move with
  | started | startedAgain => exact absurd rfl (noStart _)
  | closedIdle | closing | closedAgain => exact absurd rfl (noClose _)
  | took listening => exact ⟨rfl, fun stopped => by simp [listening] at stopped⟩
  | progressed executing | ended executing =>
    exact ⟨rfl, fun stopped => by simp [executing] at stopped⟩
  | died | stopped | interrupted => exact ⟨rfl, fun _ => rfl⟩
  | _ => exact ⟨rfl, id⟩

theorem closed_of_move {setup : Scheduler.Setup Job ExecutionQuery ExecutionQuery.Answer}
    {call : CallId} (move : Scheduler.Move setup member (.close call) next own) :
    next.lifecycle = .closed ∧ (member.worker = .stopped → next.worker = .stopped) := by
  cases move with
  | closedIdle => exact ⟨rfl, fun _ => rfl⟩
  | closing => exact ⟨rfl, id⟩
  | closedAgain closed => exact ⟨closed, id⟩

/-! ## Calls under way -/

def pending (challenger : Challenger) (kind : ActionKind) : List (CallId × Job) :=
  match challenger.offering, challenger.desk.wanted? with
  | true, some job => if job.kind = kind then [(coordinatorCall, job)] else []
  | _, _ => []

/-- The crew has just the call under way that the coordinator waits for. -/
structure Linked (challenger : Challenger) : Prop where
  offers : challenger.offering = true → ∃ job, challenger.desk.wanted? = some job
  waiting : ∀ kind member, challenger.crew.get kind = some member →
    member.waiting = challenger.pending kind

theorem pending_of_idle (idle : challenger.offering = false) : challenger.pending kind = [] := by
  simp [pending, idle]

theorem pending_of_offering (offering : challenger.offering = true)
    (wanted : challenger.desk.wanted? = some job) :
    challenger.pending kind = if job.kind = kind then [(coordinatorCall, job)] else [] := by
  simp [pending, offering, wanted]

/-- Nobody waits for an answer of the crew. -/
structure Idle (challenger : Challenger) : Prop where
  offering : challenger.offering = false
  waiting : ∀ kind member, challenger.crew.get kind = some member → member.waiting = []

theorem Idle.linked (idle : Idle challenger) : Linked challenger where
  offers offering := by rw [idle.offering] at offering; cases offering
  waiting kind member present := by
    rw [pending_of_idle idle.offering]
    exact idle.waiting kind member present

theorem Linked.idle (linked : Linked challenger) (offering : challenger.offering = false) :
    Idle challenger := by
  refine ⟨offering, fun kind member present => ?_⟩
  rw [← pending_of_idle offering]
  exact linked.waiting kind member present

theorem Linked.idle_of_ended (linked : Linked challenger)
    (ended : challenger.desk.phase = .ended) : Idle challenger := by
  refine linked.idle ?_
  by_contra offering
  obtain ⟨job, wanted⟩ := linked.offers (by simpa using offering)
  exact (Desk.wanted?_eq_some.1 wanted).1 ended

theorem idle_set {crew : Crew}
    (others : ∀ other member, other ≠ kind → crew.get other = some member → member.waiting = [])
    (own : next.waiting = []) :
    ∀ other member, (crew.set kind (some next)).get other = some member → member.waiting = [] := by
  intro other member present
  by_cases same : other = kind
  · subst same
    rw [PerKind.get_set_self] at present
    cases present
    exact own
  · rw [PerKind.get_set_of_ne _ _ same] at present
    exact others other member same present

section
variable {change : Scheduler Job ExecutionQuery ExecutionQuery.Answer →
  Scheduler Job ExecutionQuery ExecutionQuery.Answer}

theorem waiting_of_map {crew : Crew} (same : ∀ member, (change member).waiting = member.waiting)
    {waiting : List (CallId × Job)}
    (before : ∀ member, crew.get kind = some member → member.waiting = waiting)
    (present : (crew.map (·.map change)).get kind = some member) : member.waiting = waiting := by
  rw [PerKind.get_map] at present
  obtain ⟨old, found, rfl⟩ := Option.map_eq_some_iff.1 present
  rw [same]
  exact before old found

theorem Keeps.map {crew : Crew} (steady : ∀ member, Steady member (change member)) :
    Keeps crew (crew.map (·.map change)) := by
  intro kind
  rw [PerKind.get_map]
  cases crew.get kind with
  | none => exact .none
  | some member => exact .some (steady member)

end

theorem Linked.retract (linked : Linked challenger) :
    Idle challenger.retract ∧ Keeps challenger.crew challenger.retract.crew := by
  cases offering : challenger.offering with
  | false =>
    have same : challenger.retract = challenger := by simp [Challenger.retract, offering]
    rw [same]
    exact ⟨linked.idle offering, Keeps.refl _⟩
  | true =>
    obtain ⟨job, wanted⟩ := linked.offers offering
    have here := fun kind member present =>
      (linked.waiting kind member present).trans (pending_of_offering offering wanted)
    simp only [Challenger.retract, offering, wanted, PerKind.modify]
    -- only at the member for this kind of job a call can wait
    cases present : challenger.crew.get job.kind with
    | none =>
      refine ⟨⟨rfl, fun kind member found => ?_⟩, fun kind => ?_⟩
      · by_cases same : kind = job.kind
        · subst same
          simp at found
        · rw [Option.map_none, PerKind.get_set_of_ne _ _ same] at found
          rw [here kind member found, if_neg (Ne.symm same)]
      · by_cases same : kind = job.kind
        · subst same
          rw [PerKind.get_set_self, present]
          exact .none
        · rw [PerKind.get_set_of_ne _ _ same]
          exact Keeps.refl _ kind
    | some member =>
      refine ⟨⟨rfl, idle_set (fun kind other away found => ?_) ?_⟩, Keeps.set present ⟨rfl, id⟩⟩
      · rw [here kind other found, if_neg (Ne.symm away)]
      · simp [Scheduler.giveUp, here job.kind member present]

theorem Linked.set (linked : Linked challenger) (present : challenger.crew.get kind = some member)
    (same : next.waiting = member.waiting) :
    Linked { challenger with crew := challenger.crew.set kind (some next) } := by
  refine ⟨linked.offers, fun other found again => ?_⟩
  have unchanged : pending { challenger with crew := challenger.crew.set kind (some next) } other =
    challenger.pending other := rfl
  rw [unchanged]
  by_cases here : other = kind
  · subst here
    simp only [PerKind.get_set_self, Option.some.injEq] at again
    rw [← again, same]
    exact linked.waiting other member present
  · simp only [PerKind.get_set_of_ne _ _ here] at again
    exact linked.waiting other found again

theorem returned?_of_schedule {setup : Scheduler.Setup Job ExecutionQuery ExecutionQuery.Answer}
    {call : CallId} (move : Scheduler.Move setup member (.schedule call job) next own) :
    returned? own ≠ none ∧ next.waiting = member.waiting ∨
      returned? own = none ∧ next.waiting = member.waiting ++ [(call, job)] := by
  cases move with
  | turnedAway | admitted | dropped => exact .inl ⟨by simp [returned?], rfl⟩
  | queuedUp => exact .inr ⟨rfl, rfl⟩

theorem Adopts.crew (adopts : Adopts challenger kind own last shown) :
    last.crew = challenger.crew := by
  cases adopts <;> rfl

theorem Move.linked (move : Move setup challenger action last shown)
    (linked : Linked challenger) : Linked last := by
  cases move with
  | desk goes other moved =>
    refine ⟨fun offering => ?_, fun kind member present => ?_⟩
    · obtain ⟨job, wanted⟩ := linked.offers offering
      exact ⟨job, moved.wanted? goes other wanted⟩
    · rw [linked.waiting kind member present]
      cases offering : challenger.offering with
      | false => rw [pending_of_idle offering, pending_of_idle rfl]
      | true =>
        obtain ⟨job, wanted⟩ := linked.offers offering
        have still := moved.wanted? goes other wanted
        rw [pending_of_offering offering wanted, pending_of_offering rfl still]
  | stopped =>
    obtain ⟨offering, waiting⟩ := linked.retract.1
    exact Idle.linked ⟨offering, waiting⟩
  | unwanted offering => exact Idle.linked ⟨rfl, (linked.idle offering).waiting⟩
  -- nobody was waiting when the job is offered
  | @offered job member next own _ _ offering wanted present moved adopts =>
    have idle := linked.idle offering
    rcases returned?_of_schedule moved with ⟨answered, same⟩ | ⟨unanswered, queued⟩
    · cases adopts with
      | quiet none => exact absurd none answered
      | settled =>
        refine Idle.linked ⟨rfl, idle_set (fun other found _ => idle.waiting other found) ?_⟩
        rw [same, idle.waiting _ _ present]
    · cases adopts with
      | settled some => rw [unanswered] at some; cases some
      | quiet =>
        refine ⟨fun _ => ⟨job, wanted⟩, fun kind found again => ?_⟩
        have mine : pending { challenger with
            offering := true, crew := challenger.crew.set job.kind (some next) } kind =
            if job.kind = kind then [(coordinatorCall, job)] else [] :=
          pending_of_offering rfl wanted
        rw [mine]
        by_cases here : kind = job.kind
        · subst here
          simp only [PerKind.get_set_self, Option.some.injEq] at again
          rw [← again, queued, idle.waiting _ _ present]
          simp
        · simp only [PerKind.get_set_of_ne _ _ here] at again
          rw [if_neg (Ne.symm here)]
          exact idle.waiting kind found again
  | interrupted =>
    obtain ⟨-, waiting⟩ := linked.retract.1
    exact Idle.linked ⟨rfl, waiting⟩
  | @crew kind action member next own _ _ noCall kept present moved adopts =>
    rcases returned?_of_move noCall kept moved with ⟨unanswered, same⟩ | ⟨entry, result, answered, was⟩
    · cases adopts with
      | settled some => rw [unanswered] at some; cases some
      | quiet => exact linked.set present same
    · cases adopts with
      | quiet none => rw [answered] at none; cases none
      | settled =>
        -- the call that has an answer was the only one
        have own := linked.waiting kind member present
        cases offering : challenger.offering with
        | false =>
          rw [pending_of_idle offering, was] at own
          cases own
        | true =>
          obtain ⟨job, wanted⟩ := linked.offers offering
          have all := fun kind found again =>
            (linked.waiting kind found again).trans (pending_of_offering offering wanted)
          rw [pending_of_offering offering wanted, was] at own
          split at own
          · rename_i here
            obtain ⟨-, none⟩ := List.cons.inj own
            refine Idle.linked ⟨rfl, idle_set (fun other found away again => ?_) none⟩
            rw [all other found again, if_neg]
            rintro rfl
            exact away here
          · cases own

/-! ## What stays -/

theorem Move.crew_eq {action : Crew.Action}
    (move : Move setup challenger (.crew kind action) last shown) :
    ∃ member next own, challenger.crew.get kind = some member ∧
      Scheduler.Move (Crew.setup setup.account kind) member action next own ∧
      last.crew = challenger.crew.set kind (some next) := by
  cases move with
  | crew _ _ present moved adopts => exact ⟨_, _, _, present, moved, adopts.crew⟩

theorem Move.keeps (move : Move setup challenger action last shown) (linked : Linked challenger)
    (noStart : ∀ kind cancelled, action ≠ .crew kind (.start cancelled))
    (noClose : ∀ kind call, action ≠ .crew kind (.close call)) :
    Keeps challenger.crew last.crew := by
  cases move with
  | desk | unwanted => exact Keeps.refl _
  | stopped | interrupted => exact linked.retract.2
  | offered _ _ present moved adopts =>
    rw [adopts.crew]
    exact Keeps.set present (steady_of_move (by simp) (by simp) moved)
  | crew _ _ present moved adopts =>
    rw [adopts.crew]
    refine Keeps.set present (steady_of_move ?_ ?_ moved)
    · rintro cancelled rfl
      exact noStart _ _ rfl
    · rintro call rfl
      exact noClose _ _ rfl

def Event.isOffer : Event → Bool
  | .offered _ _ => true
  | .crew _ (.returned _ _ _) => true
  | _ => false

theorem Move.of_ended (move : Move setup challenger action last shown)
    (linked : Linked challenger) (ended : challenger.desk.phase = .ended) :
    action ≠ .offer ∧ last.desk.phase = .ended ∧ ∀ event ∈ shown, event.isOffer = false := by
  have none (job : Job) : challenger.desk.wanted? ≠ some job :=
    fun wanted => (Desk.wanted?_eq_some.1 wanted).1 ended
  have idle := linked.idle_of_ended ended
  cases move with
  -- nothing is wanted of the crew any more
  | unwanted _ wanted | offered _ wanted | interrupted wanted => exact absurd wanted (none _)
  | desk _ _ moved =>
    exact ⟨by simp, (moved.of_ended ended).1, by simp [Event.isOffer]⟩
  | stopped moved =>
    cases moved with
    | stopped running =>
      rw [ended] at running
      cases running
  | crew noCall kept present moved adopts =>
    rcases returned?_of_move noCall kept moved with ⟨unanswered, -⟩ | ⟨entry, _, _, waits⟩
    · cases adopts with
      | settled some => rw [unanswered] at some; cases some
      | quiet =>
        refine ⟨by simp, ended, fun event mem => ?_⟩
        obtain ⟨event, shown, rfl⟩ := List.mem_map.1 mem
        cases event with
        | returned call job result => exact absurd shown (returned?_eq_none.1 unanswered _ _ _)
        | _ => rfl
    · -- and no call of the coordinator waits
      rw [idle.waiting _ _ present] at waits
      cases waits

end Challenger

end ChallengeGame
