import ChallengeGame.Proofs.Coordinator.History
import ChallengeGame.Proofs.FollowUps

/-!
# What is offered at a head

Without a shutdown in between, the work on a head looks at all due follow-ups and then at
all commitments of the block, and the jobs it offers are those that the looks call for, with
the bonds and one withdrawal between them.
-/

namespace ChallengeGame.Coordinator

variable {setup : Setup} {head : BlockRef} {before after : Books} {trace : List Exchange}
  {result : Except Error Unit} {subjects : List Subject} {looks : List Look} {look : Look}

open Course

/-! ## Without a shutdown -/

/-- No offer was given up because of a shutdown. -/
def Uncancelled (trace : List Exchange) : Prop := ∀ job, ⟨.offer job, .cancelled⟩ ∉ trace

theorem Uncancelled.of_append {first second : List Exchange}
    (uncancelled : Uncancelled (first ++ second)) : Uncancelled first ∧ Uncancelled second :=
  ⟨fun job mem => uncancelled job (List.mem_append_left _ mem),
    fun job mem => uncancelled job (List.mem_append_right _ mem)⟩

theorem Look.fate_ne_interrupted (uncancelled : Uncancelled (look.exchanges setup)) :
    look.fate setup ≠ .interrupted := by
  intro stopped
  rcases called : look.decision setup with job | _ | _
  · refine uncancelled job (List.mem_append_right _ ?_)
    cases answered : look.answer <;>
      simp_all [Look.fate, Look.offering]
  · simp [Look.fate, called] at stopped
  · simp [Look.fate, called] at stopped

theorem Sweep.covers (swept : Sweep setup subjects looks result)
    (uncancelled : Uncancelled (looks.flatMap (Look.exchanges setup))) :
    looks.map Look.toSubject = subjects ∧ result = .ok () := by
  induction swept with
  | nil => exact ⟨rfl, rfl⟩
  | cut stopped =>
    rw [List.flatMap_singleton] at uncancelled
    exact absurd stopped (Look.fate_ne_interrupted uncancelled)
  | cons _ _ ih =>
    rw [List.flatMap_cons] at uncancelled
    obtain ⟨covers, ends⟩ := ih uncancelled.of_append.2
    exact ⟨by rw [List.map_cons, covers], ends⟩

theorem uncancelled_perform {books : Books} {respond : Responder}
    (taken : ∀ job, respond (.offer job) ≠ .cancelled) :
    Uncancelled (perform setup books head respond).1.trace :=
  fun job mem => taken job (perform_answers _ mem).symm

theorem uncancelled_performAll {tasks : List (BlockRef × Responder)} (books : Books)
    (taken : ∀ task ∈ tasks, ∀ job, task.2 (.offer job) ≠ .cancelled) :
    Uncancelled ((performAll setup books tasks).1.flatMap Turn.trace) := by
  intro job mem
  obtain ⟨task, found, answered⟩ := performAll_answers _ mem
  exact taken task found job answered.symm

/-! ## Sessions -/

/-- What was done at a head once the provider had followed. -/
structure Session where
  revisited : List Look
  unlocks : List Unlock
  withdrawal? : Option Offer
  reading : List (Program.Exchange Batch.Query Batch.Query.Answer)
  fetched : Except SourceError (List Bytes)
  visited : List Look

namespace Session

def exchanges (setup : Setup) (head : BlockRef) (session : Session) : List Exchange :=
  session.revisited.flatMap (Look.exchanges setup) ++
    (session.unlocks.map Unlock.exchange ++
      (session.withdrawal?.toList.map (withdrawalExchange head.number) ++
        (session.reading.map ofBatch ++ session.visited.flatMap (Look.exchanges setup))))

/-- The session looks at everything that is due and at everything that the block yields. -/
structure Covers (setup : Setup) (head : BlockRef) (books : Books) (session : Session) : Prop where
  revisited : session.revisited.map Look.toSubject =
    (books.due head.number).1.map FollowUp.subject
  unlocks : Unlocks
    (unlockable setup head.number
      (enterAll setup head.number session.revisited (books.due head.number).2))
    session.unlocks
  withdrawal : session.withdrawal?.isSome = setup.takes .withdraw
  reading : Program.Yields (Batch.entries setup.rollup setup.hasBlobs head) session.reading
    session.fetched
  visited : session.visited.map Look.toSubject = posted head (Batch.commitments session.fetched)

end Session

theorem readBlock_covers (run : Runs (readBlock setup head) before trace result after)
    (uncancelled : Uncancelled trace) :
    ∃ reading fetched, ∃ visited : List Look,
      trace = reading.map ofBatch ++ visited.flatMap (Look.exchanges setup) ∧
      Program.Yields (Batch.entries setup.rollup setup.hasBlobs head) reading fetched ∧
      visited.map Look.toSubject = posted head (Batch.commitments fetched) := by
  obtain ⟨reading, fetched, rest, reads, rfl, tail⟩ := readBlock_runs.1 run
  cases fetched with
  | error cause =>
    obtain ⟨rfl, _, _⟩ := tail
    exact ⟨reading, _, [], rfl, reads, rfl⟩
  | ok entries =>
    obtain ⟨looks, swept, sweeps, rfl, _, _⟩ := walk_runs.1 tail
    exact ⟨reading, _, looks, rfl, reads, (sweeps.covers uncancelled.of_append.2).1⟩

theorem work_covers (run : Runs (work setup head) before trace result after)
    (uncancelled : Uncancelled trace) :
    ∃ session : Session, session.Covers setup head before ∧
      trace = session.exchanges setup head := by
  have run := runs_modifyGet_bind.1 run
  rw [handleFollowUps_eq, runs_bind] at run
  obtain ⟨_, _, _, _, rfl, first, tail⟩ | ⟨error, rfl, first⟩ := run
  · obtain ⟨revisited, sweeps, rfl, rfl⟩ := sweep_runs.1 first
    obtain ⟨_, _, _, _, rfl, unlocked, tail⟩ | ⟨_, _, unlocked⟩ := runs_bind.1 tail
    · obtain ⟨unlocks, offered, rfl, _, rfl⟩ := unlock_runs.1 unlocked
      obtain ⟨_, _, _, _, rfl, withdrawn, last⟩ | ⟨_, _, withdrawn⟩ := runs_bind.1 tail
      · obtain ⟨withdrawal?, isSome, rfl, _, rfl⟩ := withdraw_runs.1 withdrawn
        have later := uncancelled.of_append.2.of_append.2.of_append.2
        obtain ⟨reading, fetched, visited, rfl, reads, covers⟩ := readBlock_covers last later
        exact ⟨⟨revisited, unlocks, withdrawal?, reading, fetched, visited⟩,
          ⟨(sweeps.covers uncancelled.of_append.1).1, offered, isSome, reads, covers⟩, rfl⟩
      · obtain ⟨_, _, _, wrong, _⟩ := withdraw_runs.1 withdrawn
        cases wrong
    · obtain ⟨_, _, _, wrong, _⟩ := unlock_runs.1 unlocked
      cases wrong
  · obtain ⟨revisited, sweeps, rfl, _⟩ := sweep_runs.1 first
    -- only a shutdown ends a sweep with an error
    cases (sweeps.covers uncancelled).2

def Books.at (origin : Except ProviderError Unit) (books : Books) : Books :=
  if origin = .error .reorgRequired then books.clear else books

theorem course_covers (run : Runs (course setup head) before trace result after)
    (uncancelled : Uncancelled trace) :
    ∃ origin rest, trace = ⟨.advance head.id, origin⟩ :: rest ∧
      (∀ cause, origin = .error cause → cause ≠ .reorgRequired →
        rest = [] ∧ result = .error (.advanceOrigin head.number cause) ∧ after = before) ∧
      (origin = .ok () ∨ origin = .error .reorgRequired →
        ∃ session : Session, session.Covers setup head (before.at origin) ∧
          rest = session.exchanges setup head) := by
  have run : Runs (advance head >>= fun _ => work setup head) before trace result after := run
  rcases runs_bind.1 run with ⟨_, _, _, _, rfl, moved, tail⟩ | ⟨error, rfl, moved⟩
  · obtain ⟨origin, rfl, outcome⟩ := advance_runs.1 moved
    obtain ⟨session, covers, rfl⟩ := work_covers tail uncancelled.of_append.2
    refine ⟨origin, session.exchanges setup head, rfl, ?_, ?_⟩
    · -- the head was not refused, or there would be no work
      rintro cause rfl other
      cases cause <;> contradiction
    · rintro (rfl | rfl) <;> cases outcome <;> exact ⟨session, covers, rfl⟩
  · obtain ⟨origin, rfl, outcome⟩ := advance_runs.1 moved
    refine ⟨origin, [], rfl, ?_, ?_⟩
    · rintro cause rfl other
      cases cause with
      | reorgRequired => contradiction
      | _ => cases outcome; exact ⟨rfl, rfl, rfl⟩
    · rintro (rfl | rfl) <;> cases outcome

/-! ## Jobs -/

def offered? : Exchange → Option Job
  | ⟨.offer job, _⟩ => some job
  | _ => none

theorem Look.offered (look : Look) :
    (look.exchanges setup).filterMap offered? = (look.job? setup).toList := by
  have evaluation : (look.evaluation setup).filterMap offered? = [] := by
    unfold Look.evaluation
    split
    · split <;> rfl
    · rfl
  rw [Look.exchanges, List.filterMap_append, evaluation, List.nil_append]
  unfold Look.offering Look.job?
  split
  · split <;> rfl
  · rfl

theorem offered_looks (looks : List Look) :
    (looks.flatMap (Look.exchanges setup)).filterMap offered? =
      looks.filterMap (Look.job? setup) := by
  induction looks with
  | nil => rfl
  | cons look rest ih =>
    rw [List.flatMap_cons, List.filterMap_append, Look.offered, ih]
    cases job : look.job? setup with
    | none => simp [job]
    | some job' => simp [job]

theorem offered_unlocks (unlocks : List Unlock) :
    (unlocks.map Unlock.exchange).filterMap offered? =
      unlocks.map fun unlock => .unlock unlock.bond.2 := by
  simp [List.filterMap_map, Function.comp_def, Unlock.exchange, offered?]

theorem offered_withdrawal {withdrawal? : Option Offer}
    (made : withdrawal?.isSome = setup.takes .withdraw) :
    (withdrawal?.toList.map (withdrawalExchange head.number)).filterMap offered? =
      if setup.takes .withdraw then [.withdraw head.number] else [] := by
  rw [← made]
  cases withdrawal? <;> rfl

theorem offered_reading (reading : List (Program.Exchange Batch.Query Batch.Query.Answer)) :
    (reading.map ofBatch).filterMap offered? = [] := by
  simp [List.filterMap_map, Function.comp_def, ofBatch, offered?]

theorem Look.job?_eq_some_iff {job : Job} :
    look.job? setup = some job ↔
      (job = .challenge look.posting ∧ setup.takes .challenge = true ∧
        look.input = .error .pendingChallenge) ∨
      ∃ input, job = .resolve ⟨look.posting, input⟩ ∧ setup.takes .resolve = true ∧
        look.input = .ok input ∧ look.status = .active := by
  unfold Look.job? Look.decision
  cases look.input with
  | ok input =>
    by_cases called : setup.takes .resolve = true ∧ look.status = .active <;> grind
  | error cause =>
    cases cause <;> by_cases called : setup.takes .challenge = true <;> grind

theorem Session.Covers.offered {session : Session} {books : Books}
    (covers : session.Covers setup head books) :
    (session.exchanges setup head).filterMap offered? =
      session.revisited.filterMap (Look.job? setup) ++
        (session.unlocks.map fun unlock => .unlock unlock.bond.2) ++
        (if setup.takes .withdraw then [.withdraw head.number] else []) ++
        session.visited.filterMap (Look.job? setup) := by
  simp only [Session.exchanges, List.filterMap_append, offered_looks, offered_unlocks,
    offered_withdrawal covers.withdrawal, offered_reading, List.nil_append, List.append_assoc]

/-- What is offered at a head, in the order it is offered. A refused head leads to nothing.
After that the due follow-ups come first, by their keys, and the commitments of the block
last, in their order, and each of them leads to the job that its answers call for. -/
theorem offers_exact {books : Books}
    (run : Program.Yields (process setup books head) trace (result, after))
    (uncancelled : Uncancelled trace) :
    ∃ origin rest, trace = ⟨.advance head.id, origin⟩ :: rest ∧
      (∀ cause, origin = .error cause → cause ≠ .reorgRequired →
        rest = [] ∧ result = .error (.advanceOrigin head.number cause) ∧ after = books) ∧
      (origin = .ok () ∨ origin = .error .reorgRequired →
        ∃ (session : Session) (due : List FollowUp),
          session.Covers setup head (books.at origin) ∧ rest = session.exchanges setup head ∧
          session.revisited.map Look.toSubject = due.map FollowUp.subject ∧
          (due.Pairwise fun a b => a.key.lt b.key = true) ∧
          (∀ followUp, followUp ∈ due ↔
            followUp ∈ (books.at origin).followUps.entries.values ∧
              followUp.nextCheck ≤ head.number ∧ head.number ≤ followUp.deadline) ∧
          rest.filterMap offered? =
            session.revisited.filterMap (Look.job? setup) ++
              (session.unlocks.map fun unlock => .unlock unlock.bond.2) ++
              (if setup.takes .withdraw then [.withdraw head.number] else []) ++
              session.visited.filterMap (Look.job? setup) ∧
          ∀ look ∈ session.revisited ++ session.visited, ∀ job,
            look.job? setup = some job ↔
              (job = .challenge (Posting.of look.block.number look.commitment) ∧
                setup.takes .challenge = true ∧ look.input = .error .pendingChallenge) ∨
              ∃ input, job = .resolve ⟨Posting.of look.block.number look.commitment, input⟩ ∧
                setup.takes .resolve = true ∧ look.input = .ok input ∧ look.status = .active) := by
  obtain ⟨origin, rest, rfl, refused, worked⟩ := course_covers run uncancelled
  refine ⟨origin, rest, rfl, refused, fun followed => ?_⟩
  obtain ⟨session, covers, rfl⟩ := worked followed
  refine ⟨session, ((books.at origin).due head.number).1, covers, rfl, covers.revisited, ?_, ?_,
    covers.offered, ?_⟩
  · exact FollowUps.due_sorted
  · exact fun followUp => FollowUps.mem_due
  · exact fun look _ job => Look.job?_eq_some_iff

/-- A commitment of block 100 is due again at block 104, which posts another one. -/
def Sample.waiting : Books :=
  { Books.new 4 with
    followUps := (FollowUps.new 4).track 100 (Sample.block 100) (Sample.commitment 7) 110 }

def Sample.retry : Turn × Books :=
  perform (Sample.setup fun kind => kind != .unlock) Sample.waiting (Sample.block 104)
    (Sample.respond [Sample.commitment 8] (.error .pendingChallenge) .queued)

theorem offers_exact_at_retry :
    Uncancelled Sample.retry.1.trace ∧
      Sample.retry.1.trace.filterMap offered? =
        [.challenge (Posting.of 100 (Sample.commitment 7)), .withdraw 104,
          .challenge (Posting.of 104 (Sample.commitment 8))] ∧
      ∃ session : Session,
        session.Covers (Sample.setup fun kind => kind != .unlock) (Sample.block 104)
          Sample.waiting ∧
        session.revisited.map Look.toSubject =
          [⟨Sample.block 100, Sample.commitment 7, some 110⟩] := by
  have uncancelled : Uncancelled Sample.retry.1.trace :=
    uncancelled_perform fun job => by simp [Sample.respond]
  obtain ⟨origin, rest, split, _, worked⟩ := offers_exact (yields_perform _ _ _ _) uncancelled
  have followed : origin = .ok () := perform_answers _ (split ▸ List.mem_cons_self)
  subst followed
  obtain ⟨session, _, covers, _⟩ := worked (.inl rfl)
  exact ⟨uncancelled, rfl, session, covers, covers.revisited⟩

end ChallengeGame.Coordinator
