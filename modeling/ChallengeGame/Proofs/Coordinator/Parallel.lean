import ChallengeGame.Proofs.Alike
import ChallengeGame.Proofs.Coordinator.History

/-!
# Two runs on the same heads

Two runs on the same heads from the same books go alike as long as they are answered alike,
whatever counts as alike, if the work on each head respects it. With equality nothing has to be
respected: the answers determine the run.
-/

namespace ChallengeGame.Coordinator

open Program (Likeness Similar)

/-! ## Courses -/

namespace Course

variable {like : Likeness Query Query.Answer} {α β : Type}

/-- The course goes alike from the same books, whatever books these are. -/
def Respects (like : Likeness Query Query.Answer) (course : Course α) : Prop :=
  ∀ books, Similar like (course.run.run books) (course.run.run books)

theorem respects_pure (value : α) : Respects like (pure value) := fun _ => .done _

theorem respects_throw (error : Error) : Respects like (throw error : Course α) := fun _ => .done _

theorem respects_modify (change : Books → Books) : Respects like (modify change) :=
  fun _ => .done _

theorem respects_modifyGet (change : Books → α × Books) : Respects like (modifyGet change) :=
  fun _ => .done _

theorem respects_get : Respects like (get : Course Books) := fun _ => .done _

theorem respects_bind {course : Course α} {next : α → Course β} (first : Respects like course)
    (second : ∀ value, Respects like (next value)) : Respects like (course >>= next) := by
  intro books
  -- both go on with the same result, and with the books that the first part left
  simp only [ExceptT.run_bind, StateT.run_bind]
  refine (first books).bind ?_
  rintro ⟨error | value, between⟩
  · exact .done _
  · exact second value between

theorem respects_ask {asking : Asking α} (similar : Similar like asking asking) :
    Respects like (ask asking) := by
  intro books
  simp only [ask, ExceptT.run_lift, StateT.run_map, StateT.run_lift, map_bind]
  exact similar.bind fun _ => .done _

theorem respects_query {query : Query} (fixes : like.Fixes query) :
    Respects like (ask (Program.query query)) :=
  respects_ask (.query fixes)

end Course

/-! ## The work on a head -/

section
open Course

variable {setup : Setup} {like : Likeness Query Query.Answer} {head : BlockRef}

/-- All that is asked, except while a block is read, is fixed. -/
def FixesAround (like : Likeness Query Query.Answer) : Prop :=
  ∀ query : Query, (∀ reading, query ≠ .batch reading) → like.Fixes query

theorem evaluate_respects (fixes : FixesAround like) (block : BlockRef) (commitment : Commitment) :
    Respects like (evaluate setup block commitment) := by
  refine respects_bind (respects_query (fixes _ (by simp))) fun input => ?_
  cases input with
  | error error => exact respects_pure _
  | ok input =>
    dsimp only
    split
    · refine respects_bind (respects_query (fixes _ (by simp))) fun status => ?_
      split <;> exact respects_pure _
    · exact respects_pure _

theorem act_respects (fixes : FixesAround like) (number : BlockNumber) (block : BlockRef)
    (commitment : Commitment) (job : Job) :
    Respects like (act setup number block commitment job) := by
  refine respects_bind (respects_query (fixes _ (by simp))) fun answer => ?_
  cases answer with
  | queued =>
    refine respects_bind (respects_query (fixes _ (by simp))) fun _ => ?_
    unfold lockBond
    split
    · split
      · exact respects_modify _
      · exact respects_pure _
    · exact respects_pure _
  | cancelled => exact respects_throw _
  | dropped => exact respects_modify _
  | closed => exact respects_modify _

theorem handle_respects (fixes : FixesAround like) (number : BlockNumber) (block : BlockRef)
    (commitment : Commitment) (known? : Option BlockNumber) :
    Respects like (handle setup number block commitment known?) := by
  refine respects_bind (evaluate_respects fixes block commitment) fun decision => ?_
  cases decision with
  | act job => exact act_respects fixes number block commitment job
  | nothing => exact respects_pure _
  | retry => exact respects_modify _

theorem handleFollowUps_respects (fixes : FixesAround like) (number : BlockNumber)
    (followUps : List FollowUp) : Respects like (handleFollowUps setup number followUps) := by
  induction followUps with
  | nil => exact respects_pure _
  | cons followUp rest ih => exact respects_bind (handle_respects fixes _ _ _ _) fun _ => ih

theorem offerUnlocks_respects (fixes : FixesAround like)
    (bonds : List (BlockNumber × Posting)) : Respects like (offerUnlocks bonds) := by
  induction bonds with
  | nil => exact respects_pure _
  | cons bond rest ih =>
    refine respects_bind (respects_query (fixes _ (by simp))) fun answer => ?_
    cases answer with
    | queued => exact respects_bind (respects_modify _) fun _ => ih
    | dropped | closed | cancelled => exact respects_pure _

theorem walk_respects (fixes : FixesAround like) (entries : List Bytes) :
    Respects like (walk setup head entries) := by
  induction entries with
  | nil => exact respects_pure _
  | cons entry rest ih =>
    unfold walk
    split
    · exact respects_bind (handle_respects fixes _ _ _ _) fun _ => ih
    · exact ih
    · exact respects_bind (respects_throw _) fun _ => ih

theorem unlock_respects (fixes : FixesAround like) (number : BlockNumber) :
    Respects like (unlock setup number) := by
  unfold unlock
  split
  · exact respects_bind respects_get fun books => offerUnlocks_respects fixes _
  · exact respects_pure _

theorem withdraw_respects (fixes : FixesAround like) (number : BlockNumber) :
    Respects like (withdraw setup number) := by
  unfold withdraw
  split
  · exact respects_bind (respects_query (fixes _ (by simp))) fun _ => respects_pure _
  · exact respects_pure _

theorem readBlock_respects (fixes : FixesAround like)
    (reads : ∀ source, source.rollup = setup.rollup →
      Respects like (batch (Batch.Source.load source))) :
    Respects like (readBlock setup head) := by
  unfold readBlock
  split
  · exact respects_throw _
  · rename_i source opened
    have own : source.rollup = setup.rollup := by
      unfold Batch.Source.open at opened
      split at opened
      · split at opened <;> cases opened
        rfl
      · cases opened
        rfl
    refine respects_bind (reads source own) fun fetched => ?_
    split
    · exact respects_throw _
    · exact walk_respects fixes _

theorem advance_respects (fixes : FixesAround like) : Respects like (advance head) := by
  refine respects_bind (respects_query (fixes _ (by simp))) fun origin => ?_
  split
  · exact respects_pure _
  · exact respects_modify _
  · exact respects_throw _

/-- Where the sources are read alike, the work on a head goes alike. -/
theorem process_similar (fixes : FixesAround like)
    (reads : ∀ source, source.rollup = setup.rollup →
      Respects like (batch (Batch.Source.load source))) (books : Books) (head : BlockRef) :
    Similar like (process setup books head) (process setup books head) := by
  have course : Respects like (course setup head) := by
    refine respects_bind (advance_respects fixes) fun _ => ?_
    refine respects_bind (respects_modifyGet _) fun due => ?_
    refine respects_bind (handleFollowUps_respects fixes _ due) fun _ => ?_
    refine respects_bind (unlock_respects fixes _) fun _ => ?_
    refine respects_bind (withdraw_respects fixes _) fun _ => ?_
    exact readBlock_respects fixes reads
  exact course books

end

/-! ## Runs -/

/-- Two turns of the same head with the same result and with exchanges that are alike. -/
structure Turn.Alike (like : Likeness Query Query.Answer) (turn other : Turn) : Prop where
  head : turn.head = other.head
  exchanges : List.Forall₂ like.exchanges turn.trace other.trace
  result : turn.result = other.result

variable {setup : Setup} {like : Likeness Query Query.Answer} {books after after' : Books}
  {turns turns' : List Turn}

theorem Run.alike
    (similar : ∀ books head,
      Similar like (process setup books head) (process setup books head))
    (run : Run setup books turns after) (run' : Run setup books turns' after')
    (heads : turns.map Turn.head = turns'.map Turn.head)
    (agree : like.Agree (turns.flatMap Turn.trace) (turns'.flatMap Turn.trace)) :
    List.Forall₂ (Turn.Alike like) turns turns' ∧ after = after' := by
  induction run generalizing turns' with
  | nil =>
    cases List.map_eq_nil_iff.1 heads.symm
    cases run'
    exact ⟨.nil, rfl⟩
  | cons first _ ih =>
    cases run' with
    | nil => cases heads
    | cons first' rest' =>
      obtain ⟨head, heads⟩ := List.cons.inj heads
      rw [← head] at first'
      -- the first turns go alike and leave the same books, from which the others go on
      obtain ⟨alike, ends, agree⟩ := (similar _ _).yields first first' agree
      obtain ⟨result, rfl⟩ := Prod.mk.inj ends
      obtain ⟨others, same⟩ := ih rest' heads agree
      exact ⟨.cons ⟨head, alike, result⟩ others, same⟩

theorem Turn.eq_of_alike {turn other : Turn}
    (alike : turn.Alike (Likeness.equal Query Query.Answer) other) : turn = other := by
  have traces : turn.trace = other.trace := List.forall₂_eq_eq_eq ▸ alike.exchanges
  cases turn
  cases other
  cases alike.head
  cases alike.result
  cases traces
  rfl

/-- The answers determine the run. -/
theorem Run.eq_of_agree (run : Run setup books turns after) (run' : Run setup books turns' after')
    (heads : turns.map Turn.head = turns'.map Turn.head)
    (agree : (Likeness.equal Query Query.Answer).Agree (turns.flatMap Turn.trace)
      (turns'.flatMap Turn.trace)) :
    turns = turns' ∧ after = after' := by
  obtain ⟨alike, same⟩ := run.alike (fun _ _ => .refl Likeness.equal_fixes _) run' heads agree
  refine ⟨?_, same⟩
  rw [← List.forall₂_eq_eq_eq]
  exact alike.imp fun _ _ => Turn.eq_of_alike

end ChallengeGame.Coordinator
