import ChallengeGame.Proofs.Batch
import ChallengeGame.Proofs.Program

/-!
# Reading entry by entry

A reader loads at its first call, and again at each one as long as loading fails. From then on
nothing is fetched. What the calls give after the errors of failed loads is what their consumer
takes of the entries, be it entry by entry or commitment by commitment.
-/

namespace ChallengeGame.Batch.Reader

abbrev Reply : Type := Except SourceError (Option Bytes)

def nexts : Nat → Reader → Reading (List Reply × Reader)
  | 0, reader => pure ([], reader)
  | count + 1, reader => do
    let (first, reader) ← reader.next
    let (others, reader) ← nexts count reader
    pure (first :: others, reader)

/-- What so many readings give once there are entries. -/
def replies (count : Nat) (entries : List Bytes) : List Reply :=
  (List.range count).map fun place => .ok entries[place]?

/-- Readings where loads go like this, with the entries that are left once there are some. -/
inductive Reads (Loads : List Exchange → Except SourceError (List Bytes) → Prop) :
    Nat → List Exchange → List Reply → Option (List Bytes) → Prop
  | none : Reads Loads 0 [] [] none
  | failed {trace later : List Exchange} {error : SourceError} {count : Nat} {others : List Reply}
    {left : Option (List Bytes)} (load : Loads trace (.error error))
    (again : Reads Loads count later others left) :
    Reads Loads (count + 1) (trace ++ later) (.error error :: others) left
  | loaded {trace : List Exchange} {entries : List Bytes} {count : Nat}
    (load : Loads trace (.ok entries)) :
    Reads Loads (count + 1) trace (replies (count + 1) entries) (some (entries.drop (count + 1)))

/-- Calls where loads go like this: the errors of the loads that failed, and the entries once there
are some. -/
inductive Fetches (Loads : List Exchange → Except SourceError (List Bytes) → Prop) :
    Nat → List Exchange → List SourceError → Option (List Bytes) → Prop
  | uncalled : Fetches Loads 0 [] [] none
  | failed {trace later : List Exchange} {error : SourceError} {count : Nat}
    {errors : List SourceError} {entries? : Option (List Bytes)} (load : Loads trace (.error error))
    (again : Fetches Loads count later errors entries?) :
    Fetches Loads (count + 1) (trace ++ later) (error :: errors) entries?
  | loaded {trace : List Exchange} {entries : List Bytes} {count : Nat}
    (load : Loads trace (.ok entries)) :
    Fetches Loads (count + 1) trace [] (some entries)

section
variable {α β : Type}

/-- Calls of a consumer on what is handed over. -/
def takeAll (take : List β → Except SourceError α × List β) :
    Nat → List β → List (Except SourceError α) × List β
  | 0, items => ([], items)
  | count + 1, items =>
    let (first, items) := take items
    let (others, items) := takeAll take count items
    (first :: others, items)

/-- Calls of a consumer on a reader, as `next` and `nextCommitment` are. -/
def consumeAll (take : List Bytes → Except SourceError α × List Bytes) :
    Nat → Reader → Reading (List (Except SourceError α) × Reader)
  | 0, reader => pure ([], reader)
  | count + 1, reader => do
    let (first, reader) ← reader.consume take
    let (others, reader) ← consumeAll take count reader
    pure (first :: others, reader)

end

section
variable {α : Type} {take : List Bytes → Except SourceError α × List Bytes} {source : Source}
  {count : Nat} {trace : List Exchange} {results : List (Except SourceError α)} {reader : Reader}
  {Loads Goes : List Exchange → Except SourceError (List Bytes) → Prop} {errors : List SourceError}
  {entries? : Option (List Bytes)}

/-! ## Loads -/

theorem Fetches.length_le (fetches : Fetches Loads count trace errors entries?) :
    errors.length ≤ count := by
  induction fetches with
  | uncalled => simp
  | failed _ _ ih => simpa using ih
  | loaded _ => simp

theorem Fetches.imp (fetches : Fetches Loads count trace errors entries?)
    (goes : ∀ part loaded, Loads part loaded → Goes part loaded) :
    Fetches Goes count trace errors entries? := by
  induction fetches with
  | uncalled => exact .uncalled
  | failed load _ ih => exact .failed (goes _ _ load) ih
  | loaded load => exact .loaded (goes _ _ load)

/-! ## Consumers -/

/-- With its entries at hand a reader asks for nothing. -/
theorem consumeAll_loaded (source : Source) (entries : List Bytes) :
    consumeAll take count ⟨source, some entries⟩ =
      pure ((takeAll take count entries).1, ⟨source, some (takeAll take count entries).2⟩) := by
  induction count generalizing entries with
  | zero => rfl
  | succ count ih => simp [consumeAll, consume, pending, takeAll, ih]

theorem yields_consume_of {result : Except SourceError α × Reader} :
    Program.Yields ((Reader.of source).consume take) trace result ↔
      (∃ error, Program.Yields source.load trace (.error error) ∧
        result = (.error error, .of source)) ∨
      ∃ entries, Program.Yields source.load trace (.ok entries) ∧
        result = ((take entries).1, ⟨source, some (take entries).2⟩) := by
  constructor
  · intro run
    -- a call of a fresh reader is a load, and then the consumer's on what was loaded
    obtain ⟨loaded, before, after, rfl, load, rest⟩ := Program.yields_bind.1 run
    cases loaded with
    | error error =>
      obtain ⟨rfl, rfl⟩ := Program.yields_done.1 rest
      exact .inl ⟨error, by rwa [List.append_nil], rfl⟩
    | ok entries =>
      obtain ⟨rfl, rfl⟩ := Program.yields_done.1 rest
      exact .inr ⟨entries, by rwa [List.append_nil], rfl⟩
  · rintro (⟨error, load, rfl⟩ | ⟨entries, load, rfl⟩)
    · exact Program.yields_bind.2 ⟨_, trace, [], (List.append_nil _).symm, load, .done _⟩
    · exact Program.yields_bind.2 ⟨_, trace, [], (List.append_nil _).symm, load, .done _⟩

theorem yields_consumeAll_iff :
    Program.Yields (consumeAll take count (.of source)) trace (results, reader) ↔
      reader.source = source ∧
        ∃ errors entries?, Fetches (Program.Yields source.load) count trace errors entries? ∧
          results = errors.map .error ++
            (takeAll take (count - errors.length) (entries?.getD [])).1 ∧
          reader.entries? = entries?.map fun entries =>
            (takeAll take (count - errors.length) entries).2 := by
  constructor
  · intro run
    -- the induction stops at the first load that succeeds; a failed one leaves a fresh reader
    induction count generalizing trace results with
    | zero =>
      obtain ⟨rfl, same⟩ := Program.yields_done.1 run
      cases same
      exact ⟨rfl, [], none, .uncalled, rfl, rfl⟩
    | succ count ih =>
      obtain ⟨⟨first, middle⟩, before, after, rfl, begun, run⟩ := Program.yields_bind.1 run
      obtain ⟨⟨others, last⟩, before', after', rfl, went, done⟩ := Program.yields_bind.1 run
      obtain ⟨rfl, same⟩ := Program.yields_done.1 done
      cases same
      rw [List.append_nil]
      rcases yields_consume_of.1 begun with ⟨error, load, same⟩ | ⟨entries, load, same⟩
      · cases same
        obtain ⟨kept, errors, entries?, fetches, rfl, left⟩ := ih went
        exact ⟨kept, error :: errors, entries?, .failed load fetches, by simp, by simpa using left⟩
      · -- this call loads, and the ones after it ask for nothing
        cases same
        rw [consumeAll_loaded] at went
        obtain ⟨rfl, same⟩ := Program.yields_done.1 went
        cases same
        rw [List.append_nil]
        exact ⟨rfl, [], some entries, .loaded load, rfl, rfl⟩
  · obtain ⟨source', left⟩ := reader
    rintro ⟨rfl, errors, entries?, fetches, rfl, rfl⟩
    induction fetches with
    | uncalled => exact .done _
    | @failed trace later error count errors entries? load _ ih =>
      refine Program.yields_bind.2
        ⟨_, trace, later, rfl, yields_consume_of.2 (.inl ⟨error, load, rfl⟩), ?_⟩
      refine Program.yields_bind.2 ⟨_, later, [], (List.append_nil _).symm, ih, ?_⟩
      simpa using Program.Yields.done _
    | @loaded trace entries count load =>
      refine Program.yields_bind.2 ⟨_, trace, [], (List.append_nil _).symm,
        yields_consume_of.2 (.inr ⟨entries, load, rfl⟩), ?_⟩
      dsimp only
      rw [consumeAll_loaded]
      exact .done _

end

/-! ## Readings -/

section
variable {source : Source} {entries : List Bytes} {count : Nat} {trace : List Exchange}
  {results : List Reply} {reader : Reader} {left : Option (List Bytes)}

theorem replies_succ (count : Nat) (entries : List Bytes) :
    replies (count + 1) entries = .ok entries[0]? :: replies count entries.tail := by
  simp only [replies, List.range_succ_eq_map, List.map_cons, List.map_map, Function.comp_def,
    List.getElem?_tail]

theorem nexts_eq (count : Nat) (reader : Reader) :
    nexts count reader = consumeAll first count reader := by
  induction count generalizing reader with
  | zero => rfl
  | succ count ih => simp [nexts, consumeAll, next, ih]

theorem takeAll_first (count : Nat) (entries : List Bytes) :
    takeAll first count entries = (replies count entries, entries.drop count) := by
  induction count generalizing entries with
  | zero => rfl
  | succ count ih => cases entries <;> simp [takeAll, first, ih, replies_succ]

theorem yields_nexts_fetches_iff :
    Program.Yields (nexts count (.of source)) trace (results, reader) ↔
      reader.source = source ∧
        ∃ errors entries?, Fetches (Program.Yields source.load) count trace errors entries? ∧
          results = errors.map .error ++ replies (count - errors.length) (entries?.getD []) ∧
          reader.entries? = entries?.map (List.drop (count - errors.length)) := by
  rw [nexts_eq, yields_consumeAll_iff]
  simp only [takeAll_first]

theorem reads_iff {Loads : List Exchange → Except SourceError (List Bytes) → Prop} :
    Reads Loads count trace results left ↔
      ∃ errors entries?, Fetches Loads count trace errors entries? ∧
        results = errors.map .error ++ replies (count - errors.length) (entries?.getD []) ∧
        left = entries?.map (List.drop (count - errors.length)) := by
  constructor
  · intro reads
    induction reads with
    | none => exact ⟨[], none, .uncalled, rfl, rfl⟩
    | @failed trace later error count others left load _ ih =>
      obtain ⟨errors, entries?, fetches, rfl, rfl⟩ := ih
      exact ⟨error :: errors, entries?, .failed load fetches, by simp, by simp⟩
    | loaded load => exact ⟨[], some _, .loaded load, rfl, rfl⟩
  · rintro ⟨errors, entries?, fetches, rfl, rfl⟩
    induction fetches with
    | uncalled => exact .none
    | failed load _ ih => simpa using Reads.failed load ih
    | loaded load => exact .loaded load

theorem yields_nexts_iff :
    Program.Yields (nexts count (.of source)) trace (results, reader) ↔
      reader.source = source ∧ Reads (Program.Yields source.load) count trace results reader.entries? := by
  rw [yields_nexts_fetches_iff, reads_iff]

theorem Reads.imp {Loads Goes : List Exchange → Except SourceError (List Bytes) → Prop}
    (reads : Reads Loads count trace results left)
    (goes : ∀ part loaded, (∀ exchange ∈ part, exchange ∈ trace) → Loads part loaded →
      Goes part loaded) :
    Reads Goes count trace results left := by
  induction reads with
  | none => exact .none
  | failed load _ ih =>
    refine .failed (goes _ _ (fun _ mem => List.mem_append_left _ mem) load) (ih ?_)
    exact fun part loaded inside => goes part loaded fun _ mem => List.mem_append_right _ (inside _ mem)
  | loaded load => exact .loaded (goes _ _ (fun _ mem => mem) load)

end

end ChallengeGame.Batch.Reader
