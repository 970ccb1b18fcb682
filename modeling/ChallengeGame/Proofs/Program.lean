import ChallengeGame.Program

/-!
# Complete runs of programs

A complete run of a program is the list of its exchanges together with its result. The
laws here read a run of a composed program as runs of its parts, so that nothing later
looks into the tree itself.
-/

namespace ChallengeGame.Program

variable {Query : Type} {Answer : Query → Type} {α β : Type}

@[simp] theorem map_done (f : α → β) (value : α) :
    f <$> (done value : Program Query Answer α) = done (f value) := rfl

theorem yields_done {value result : α} {trace : List (Exchange Query Answer)} :
    Yields (done value) trace result ↔ trace = [] ∧ result = value := by
  constructor
  · rintro ⟨⟩; exact ⟨rfl, rfl⟩
  · rintro ⟨rfl, rfl⟩; exact .done _

theorem yields_ask {q : Query} {next : Answer q → Program Query Answer α}
    {trace : List (Exchange Query Answer)} {result : α} :
    Yields (ask q next) trace result ↔
      ∃ answer rest, trace = ⟨q, answer⟩ :: rest ∧ Yields (next answer) rest result := by
  constructor
  · rintro (_ | run); exact ⟨_, _, rfl, run⟩
  · rintro ⟨answer, rest, rfl, run⟩; exact .ask run

theorem yields_query {q : Query} {trace : List (Exchange Query Answer)} {result : Answer q} :
    Yields (query q) trace result ↔ trace = [⟨q, result⟩] := by
  simp only [query, yields_ask, yields_done]
  constructor
  · rintro ⟨answer, rest, rfl, rfl, rfl⟩; rfl
  · rintro rfl; exact ⟨result, [], rfl, rfl, rfl⟩

/-- A run of one program after another is a run of the first and then one of the second. -/
theorem yields_bind {program : Program Query Answer α} {next : α → Program Query Answer β}
    {trace : List (Exchange Query Answer)} {result : β} :
    Yields (program >>= next) trace result ↔
      ∃ value first second, trace = first ++ second ∧
        Yields program first value ∧ Yields (next value) second result := by
  induction program generalizing trace with
  | done value =>
    simp only [done_bind, yields_done]
    constructor
    · intro run; exact ⟨value, [], trace, rfl, ⟨rfl, rfl⟩, run⟩
    · rintro ⟨_, _, second, rfl, ⟨rfl, rfl⟩, run⟩; exact run
  | ask q branch ih =>
    simp only [ask_bind, yields_ask, ih]
    constructor
    · rintro ⟨answer, _, rfl, value, first, second, rfl, head, tail⟩
      exact ⟨value, _, second, rfl, ⟨answer, first, rfl, head⟩, tail⟩
    · rintro ⟨value, _, second, rfl, ⟨answer, first, rfl, head⟩, tail⟩
      exact ⟨answer, _, rfl, value, first, second, rfl, head, tail⟩

def record (respond : (q : Query) → Answer q) :
    Program Query Answer α → List (Exchange Query Answer) × α
  | done value => ([], value)
  | ask q next =>
    let rest := (next (respond q)).record respond
    (⟨q, respond q⟩ :: rest.1, rest.2)

theorem yields_record (respond : (q : Query) → Answer q) (program : Program Query Answer α) :
    Yields program (program.record respond).1 (program.record respond).2 := by
  induction program with
  | done value => exact .done value
  | ask q next ih => exact .ask (ih (respond q))

theorem record_answers (respond : (q : Query) → Answer q) (program : Program Query Answer α) :
    ∀ exchange ∈ (program.record respond).1, exchange.answer = respond exchange.query := by
  induction program with
  | done value => simp [record]
  | ask q next ih => simpa [record] using ih (respond q)

theorem record_eq_of_yields {respond : (q : Query) → Answer q} {program : Program Query Answer α}
    {trace : List (Exchange Query Answer)} {value : α} (run : Yields program trace value)
    (answered : ∀ exchange ∈ trace, exchange.answer = respond exchange.query) :
    program.record respond = (trace, value) := by
  induction run with
  | done value => rfl
  | @ask q next answer trace value _ ih =>
    have first : answer = respond q := answered _ List.mem_cons_self
    subst first
    have rest := ih fun exchange mem => answered exchange (List.mem_cons_of_mem _ mem)
    simp [record, rest]

/-- Each answer is the one that the script gives after those before it. -/
def Follows (script : List (Exchange Query Answer) → (q : Query) → Answer q)
    (trace : List (Exchange Query Answer)) : Prop :=
  ∀ before exchange after, trace = before ++ exchange :: after →
    exchange.answer = script before exchange.query

theorem exists_yields_follows (script : List (Exchange Query Answer) → (q : Query) → Answer q)
    (program : Program Query Answer α) :
    ∃ trace result, Yields program trace result ∧ Follows script trace := by
  induction program generalizing script with
  | done value => exact ⟨[], value, .done value, by simp [Follows]⟩
  | ask q next ih =>
    -- what is left of the script knows of the first answer
    obtain ⟨trace, result, run, follows⟩ :=
      ih (script [] q) fun before => script (⟨q, script [] q⟩ :: before)
    refine ⟨⟨q, script [] q⟩ :: trace, result, .ask run, ?_⟩
    intro before exchange after split
    cases before with
    | nil => cases split; rfl
    | cons _ before =>
      obtain ⟨rfl, rest⟩ := List.cons.inj split
      exact follows before exchange after rest

theorem resume_eq_some [DecidableEq Query] {program after : Program Query Answer α} {q : Query}
    {answer : Answer q} :
    program.resume q answer = some after ↔
      ∃ next, program = .ask q next ∧ after = next answer := by
  constructor
  · intro resumed
    unfold resume at resumed
    split at resumed
    · cases resumed
    · split at resumed
      · rename_i same
        subst same
        cases resumed
        exact ⟨_, rfl, rfl⟩
      · cases resumed
  · rintro ⟨next, rfl, rfl⟩
    exact resume_ask q next answer

/-! ## Programs that can fail -/

section
variable {ε : Type} {trace : List (Exchange Query Answer)}

theorem yields_lift_query {q : Query} {result : Except ε (Answer q)} :
    Yields (ExceptT.lift (query q) : ExceptT ε (Program Query Answer) (Answer q)).run trace result ↔
      ∃ answer, trace = [⟨q, answer⟩] ∧ result = .ok answer := by
  refine yields_ask.trans ?_
  constructor
  · rintro ⟨answer, rest, rfl, run⟩
    obtain ⟨rfl, rfl⟩ := yields_done.1 run
    exact ⟨answer, rfl, rfl⟩
  · rintro ⟨answer, rfl, rfl⟩
    exact ⟨answer, [], rfl, .done _⟩

/-- A run of one attempt after another ends with the first one that fails. -/
theorem yields_attempts {first : ExceptT ε (Program Query Answer) α}
    {next : α → ExceptT ε (Program Query Answer) β} {result : Except ε β} :
    Yields (first >>= next).run trace result ↔
      (∃ error, Yields first.run trace (.error error) ∧ result = .error error) ∨
      ∃ value own rest, trace = own ++ rest ∧ Yields first.run own (.ok value) ∧
        Yields (next value).run rest result := by
  rw [ExceptT.run_bind, yields_bind]
  constructor
  · rintro ⟨reached, own, rest, rfl, run, later⟩
    cases reached with
    | error error =>
      obtain ⟨rfl, rfl⟩ := yields_done.1 later
      exact .inl ⟨error, by simpa using run, rfl⟩
    | ok value => exact .inr ⟨value, own, rest, rfl, run, later⟩
  · rintro (⟨error, run, rfl⟩ | ⟨value, own, rest, rfl, run, later⟩)
    · exact ⟨.error error, trace, [], (List.append_nil _).symm, run, .done _⟩
    · exact ⟨.ok value, own, rest, rfl, run, later⟩

end

/-! ## Programs in terms of others -/

section
variable {Lower : Type} {LowerAnswer : Lower → Type}
  {handler : (q : Query) → Program Lower LowerAnswer (Answer q)}

theorem handle_query (q : Query) : (query q).handle handler = handler q := by
  simp [query, handle]

theorem handle_bind (program : Program Query Answer α) (next : α → Program Query Answer β) :
    (program >>= next).handle handler =
      (program.handle handler >>= fun value => (next value).handle handler) := by
  induction program with
  | done value => rfl
  | ask q branch ih => simp [handle, ih]

/-- A trace in which every exchange is carried out by a run of its handler. -/
inductive Carries (handler : (q : Query) → Program Lower LowerAnswer (Answer q)) :
    List (Exchange Query Answer) → List (Exchange Lower LowerAnswer) → Prop
  | nil : Carries handler [] []
  | cons {q : Query} {answer : Answer q} {inner : List (Exchange Query Answer)}
      {own trace : List (Exchange Lower LowerAnswer)} :
      Yields (handler q) own answer → Carries handler inner trace →
      Carries handler (⟨q, answer⟩ :: inner) (own ++ trace)

@[simp] theorem carries_nil_iff {trace : List (Exchange Lower LowerAnswer)} :
    Carries handler [] trace ↔ trace = [] := by
  constructor
  · rintro ⟨⟩; rfl
  · rintro rfl; exact .nil

theorem carries_cons_iff {q : Query} {answer : Answer q} {inner : List (Exchange Query Answer)}
    {trace : List (Exchange Lower LowerAnswer)} :
    Carries handler (⟨q, answer⟩ :: inner) trace ↔
      ∃ own rest, trace = own ++ rest ∧ Yields (handler q) own answer ∧ Carries handler inner rest := by
  constructor
  · rintro (_ | ⟨handled, carried⟩); exact ⟨_, _, rfl, handled, carried⟩
  · rintro ⟨own, rest, rfl, handled, carried⟩; exact .cons handled carried

theorem Carries.mem {inner : List (Exchange Query Answer)} {trace : List (Exchange Lower LowerAnswer)}
    {exchange : Exchange Query Answer} (carries : Carries handler inner trace)
    (mem : exchange ∈ inner) :
    ∃ own, Yields (handler exchange.query) own exchange.answer ∧ own ⊆ trace := by
  induction carries with
  | nil => cases mem
  | cons handled carried ih =>
    rcases List.mem_cons.1 mem with rfl | mem
    · exact ⟨_, handled, List.subset_append_left ..⟩
    · obtain ⟨own, run, within⟩ := ih mem
      exact ⟨own, run, List.Subset.trans within (List.subset_append_right ..)⟩

theorem yields_handle_iff {program : Program Query Answer α}
    {trace : List (Exchange Lower LowerAnswer)} {result : α} :
    Yields (program.handle handler) trace result ↔
      ∃ inner, Yields program inner result ∧ Carries handler inner trace := by
  induction program generalizing trace with
  | done value =>
    simp only [handle, yields_done]
    constructor
    · rintro ⟨rfl, rfl⟩; exact ⟨[], ⟨rfl, rfl⟩, .nil⟩
    · rintro ⟨_, ⟨rfl, rfl⟩, ⟨⟩⟩; exact ⟨rfl, rfl⟩
  | ask q next ih =>
    simp only [handle, yields_bind, yields_ask, ih]
    constructor
    · rintro ⟨answer, own, _, rfl, handled, inner, run, carried⟩
      exact ⟨_, ⟨answer, inner, rfl, run⟩, .cons handled carried⟩
    · rintro ⟨_, ⟨answer, inner, rfl, run⟩, carried⟩
      obtain ⟨own, rest, rfl, handled, carried⟩ := carries_cons_iff.1 carried
      exact ⟨answer, own, rest, rfl, handled, inner, run, carried⟩

/-- Queries that are passed on as they are leave their trace as it is. -/
theorem carries_query_iff {Lower : Type} {LowerAnswer : Lower → Type} {lift : Query → Lower}
    {inner : List (Exchange Query fun q => LowerAnswer (lift q))}
    {trace : List (Exchange Lower LowerAnswer)} :
    Carries (fun q => query (lift q)) inner trace ↔
      trace = inner.map fun exchange => ⟨lift exchange.query, exchange.answer⟩ := by
  induction inner generalizing trace with
  | nil => exact carries_nil_iff
  | cons exchange inner ih =>
    refine carries_cons_iff.trans ?_
    simp only [yields_query, ih, List.map_cons]
    constructor
    · rintro ⟨_, _, rfl, rfl, rfl⟩; rfl
    · rintro rfl; exact ⟨_, _, rfl, rfl, rfl⟩

end

end ChallengeGame.Program
