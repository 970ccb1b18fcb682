import ChallengeGame.Proofs.Identity
import ChallengeGame.Proofs.Reader

/-!
# The commitments of a source

Whatever a source hands over, entries and errors in any order, its commitments are the entries that
are a version byte and the byte form of a commitment. Every error stays in its place, an empty entry
is an error of its own, and everything else is passed over.
-/

namespace ChallengeGame.Batch

/-- What a source hands over where an entry is asked for. -/
abbrev Delivery : Type := Except SourceError Bytes

variable {entry : Bytes} {commitment : Commitment} {deliveries : List Delivery} {count : Nat}
  {told other : List (Except SourceError Commitment)} {errors : List SourceError} {source : Source}
  {trace : List Exchange} {results : List (Except SourceError (Option Commitment))}

/-! ## Entries -/

theorem ofBytes_eq_commitment_iff :
    Entry.ofBytes entry = .commitment commitment ↔ entry = 1 :: commitment.encode := by
  cases entry with
  | nil => simp [Entry.ofBytes]
  | cons version encoded =>
    by_cases same : version = 1
    · subst same
      cases decoded : Commitment.decode encoded with
      | ok found =>
        obtain rfl := Commitment.decode_eq_ok_iff.1 decoded
        simp only [Entry.ofBytes, commitmentVersion, if_pos, decoded, Entry.commitment.injEq,
          List.cons.injEq, true_and]
        exact ⟨fun equal => equal ▸ rfl, Commitment.encode_injective⟩
      | error _ =>
        simp only [Entry.ofBytes, commitmentVersion, if_pos, decoded, reduceCtorEq, List.cons.injEq,
          true_and, false_iff]
        rintro rfl
        simp at decoded
    · simp [Entry.ofBytes, commitmentVersion, same]

theorem ofBytes_eq_empty_iff : Entry.ofBytes entry = .empty ↔ entry = [] := by
  cases entry with
  | nil => simp [Entry.ofBytes]
  | cons version encoded =>
    simp only [Entry.ofBytes, reduceCtorEq, iff_false]
    split
    · split <;> simp
    · simp

theorem ofBytes_eq_irrelevant_iff :
    Entry.ofBytes entry = .irrelevant ↔
      entry ≠ [] ∧ ∀ commitment : Commitment, entry ≠ 1 :: commitment.encode := by
  simp only [ne_eq, ← ofBytes_eq_commitment_iff, ← ofBytes_eq_empty_iff]
  cases Entry.ofBytes entry <;> simp

/-! ## What a source tells -/

/-- What a source tells of its commitments, in the order of what it hands over. -/
inductive Streams : List Delivery → List (Except SourceError Commitment) → Prop
  | nil : Streams [] []
  | failed {deliveries : List Delivery} {told : List (Except SourceError Commitment)}
    (error : SourceError) (rest : Streams deliveries told) :
    Streams (.error error :: deliveries) (.error error :: told)
  | empty {deliveries : List Delivery} {told : List (Except SourceError Commitment)}
    (rest : Streams deliveries told) :
    Streams (.ok [] :: deliveries) (.error .notEnoughData :: told)
  | commitment {deliveries : List Delivery} {told : List (Except SourceError Commitment)}
    (commitment : Commitment) (rest : Streams deliveries told) :
    Streams (.ok (1 :: commitment.encode) :: deliveries) (.ok commitment :: told)
  | irrelevant {deliveries : List Delivery} {told : List (Except SourceError Commitment)}
    {entry : Bytes} (some : entry ≠ [])
    (other : ∀ commitment : Commitment, entry ≠ 1 :: commitment.encode)
    (rest : Streams deliveries told) : Streams (.ok entry :: deliveries) told

theorem exists_streams (deliveries : List Delivery) : ∃ told, Streams deliveries told := by
  induction deliveries with
  | nil => exact ⟨[], .nil⟩
  | cons delivery deliveries ih =>
    obtain ⟨told, rest⟩ := ih
    cases delivery with
    | error error => exact ⟨_, .failed error rest⟩
    | ok entry =>
      cases sort : Entry.ofBytes entry with
      | commitment commitment =>
        obtain rfl := ofBytes_eq_commitment_iff.1 sort
        exact ⟨_, .commitment commitment rest⟩
      | irrelevant =>
        obtain ⟨some, other⟩ := ofBytes_eq_irrelevant_iff.1 sort
        exact ⟨told, .irrelevant some other rest⟩
      | empty =>
        obtain rfl := ofBytes_eq_empty_iff.1 sort
        exact ⟨_, .empty rest⟩

theorem Streams.append_errors (streams : Streams deliveries told) (errors : List SourceError) :
    Streams (errors.map .error ++ deliveries) (errors.map .error ++ told) := by
  induction errors with
  | nil => exact streams
  | cons error _ ih => exact .failed error ih

/-- What a call answers where this is told next. -/
def answer : Option (Except SourceError Commitment) → Except SourceError (Option Commitment)
  | none => .ok none
  | some told => told.map some

theorem answer_injective : Function.Injective answer := by
  rintro (_ | _ | _) (_ | _ | _) same <;> simp_all [answer, Except.map]

/-- What so many calls answer: all that is told, one after the other, and then nothing more. -/
def answers (count : Nat) (told : List (Except SourceError Commitment)) :
    List (Except SourceError (Option Commitment)) :=
  (List.range count).map fun place => answer told[place]?

theorem answers_succ (count : Nat) (told : List (Except SourceError Commitment)) :
    answers (count + 1) told = answer told.head? :: answers count told.tail := by
  simp [answers, List.range_succ_eq_map, Function.comp_def, List.head?_eq_getElem?]

theorem answers_append_errors (count : Nat) :
    answers (errors.length + count) (errors.map .error ++ told) =
      errors.map .error ++ answers count told := by
  induction errors with
  | nil => simp
  | cons error errors ih =>
    rw [List.length_cons, Nat.add_right_comm, answers_succ]
    simpa [answer, Except.map] using ih

/-! ## Calls -/

/-- A call answers what is told next, and leaves what is told after it. -/
theorem Streams.firstCommitment (streams : Streams deliveries told) :
    (firstCommitment id deliveries).1 = answer told.head? ∧
      Streams (firstCommitment id deliveries).2 told.tail := by
  induction streams with
  | nil => exact ⟨rfl, .nil⟩
  | failed error rest _ => exact ⟨rfl, rest⟩
  | empty rest _ => exact ⟨rfl, rest⟩
  | commitment commitment rest _ =>
    have sort := ofBytes_eq_commitment_iff.2 (rfl : 1 :: commitment.encode = _)
    simpa [Batch.firstCommitment, Except.map, sort, answer] using rest
  | irrelevant some other _ ih =>
    -- the call goes on with what comes after
    have sort := ofBytes_eq_irrelevant_iff.2 ⟨some, other⟩
    simpa [Batch.firstCommitment, Except.map, sort] using ih

theorem Streams.takeAll (streams : Streams deliveries told) (count : Nat) :
    (Reader.takeAll (Batch.firstCommitment id) count deliveries).1 = answers count told := by
  induction count generalizing deliveries told with
  | zero => rfl
  | succ count ih =>
    obtain ⟨first, rest⟩ := streams.firstCommitment
    simp [Reader.takeAll, answers_succ, first, ih rest]

theorem Streams.unique (streams : Streams deliveries told) (others : Streams deliveries other) :
    told = other := by
  have same (count : Nat) : answers count told = answers count other := by
    rw [← streams.takeAll, others.takeAll]
  refine List.ext_getElem? fun place => ?_
  have here := congrArg (·[place]?) (same (place + 1))
  simp only [answers, List.getElem?_map, List.getElem?_range (Nat.lt_succ_self place),
    Option.map_some, Option.some.injEq] at here
  exact answer_injective here

theorem firstCommitment_map (entries : List Bytes) :
    firstCommitment id (entries.map .ok) =
      ((firstCommitment .ok entries).1, (firstCommitment .ok entries).2.map .ok) := by
  induction entries with
  | nil => rfl
  | cons entry rest ih =>
    simp only [List.map_cons, firstCommitment, Except.map, id]
    cases Entry.ofBytes entry <;> simp [ih]

theorem takeAll_map (count : Nat) (entries : List Bytes) :
    (Reader.takeAll (firstCommitment id) count (entries.map .ok)).1 =
      (Reader.takeAll (firstCommitment .ok) count entries).1 := by
  induction count generalizing entries with
  | zero => rfl
  | succ count ih => simp [Reader.takeAll, firstCommitment_map, ih]

theorem takeAll_eq_answers {entries : List Bytes} (streams : Streams (entries.map .ok) told)
    (bound : errors.length ≤ count) :
    errors.map .error ++ (Reader.takeAll (firstCommitment .ok) (count - errors.length) entries).1 =
      answers count (errors.map .error ++ told) := by
  rw [← takeAll_map, streams.takeAll, ← answers_append_errors, Nat.add_sub_cancel' bound]

/-! ## The whole stream -/

def Reader.nextCommitments :
    Nat → Reader → Reading (List (Except SourceError (Option Commitment)) × Reader)
  | 0, reader => pure ([], reader)
  | count + 1, reader => do
    let (first, reader) ← reader.nextCommitment
    let (others, reader) ← nextCommitments count reader
    pure (first :: others, reader)

theorem nextCommitments_eq (count : Nat) (reader : Reader) :
    reader.nextCommitments count = reader.consumeAll (firstCommitment .ok) count := by
  induction count generalizing reader with
  | zero => rfl
  | succ count ih =>
    simp only [Reader.nextCommitments, Reader.consumeAll, Reader.nextCommitment, ih]

/-- The commitments that calls answer, however often they are made: for whatever a source hands
over, and for the sources of blocks, which hand over the errors of failed loads and then entries. -/
theorem commitments_streamed (source : Source) (deliveries : List Delivery) :
    (∃ told, Streams deliveries told ∧ (∀ other, Streams deliveries other → other = told) ∧
      ∀ count, (Reader.takeAll (firstCommitment id) count deliveries).1 = answers count told) ∧
    ∀ count trace results,
      (∃ reader, Program.Yields ((Reader.of source).nextCommitments count) trace
          (results, reader)) ↔
        ∃ errors entries? told,
          Reader.Fetches (Program.Yields source.load) count trace errors entries? ∧
            Streams (errors.map .error ++ (entries?.getD []).map .ok) told ∧
            results = answers count told := by
  constructor
  · obtain ⟨told, streams⟩ := exists_streams deliveries
    exact ⟨told, streams, fun other others => others.unique streams, streams.takeAll⟩
  · intro count trace results
    rw [nextCommitments_eq]
    constructor
    · rintro ⟨reader, run⟩
      obtain ⟨-, errors, entries?, fetches, rfl, -⟩ := Reader.yields_consumeAll_iff.1 run
      obtain ⟨told, streams⟩ := exists_streams ((entries?.getD []).map .ok)
      exact ⟨errors, entries?, errors.map .error ++ told, fetches, streams.append_errors errors,
        takeAll_eq_answers streams fetches.length_le⟩
    · rintro ⟨errors, entries?, told, fetches, streams, rfl⟩
      obtain ⟨own, ofEntries⟩ := exists_streams ((entries?.getD []).map .ok)
      obtain rfl := streams.unique (ofEntries.append_errors errors)
      exact ⟨⟨source, _⟩, Reader.yields_consumeAll_iff.2 ⟨rfl, errors, entries?, fetches,
        (takeAll_eq_answers ofEntries fetches.length_le).symm, rfl⟩⟩

/-- A load fails before the entries are there: another batch, a commitment, an empty entry and bytes
that are no commitment. -/
theorem commitments_streamed_mixed :
    let address : Address := ⟨List.replicate 20 2, rfl⟩
    let hash : Hash := ⟨List.replicate 32 0, rfl⟩
    let source : Source := ⟨⟨address, [address], none⟩, ⟨hash, 7, hash, 0⟩, false⟩
    let posted : Commitment := .generic [7]
    let timeout : Failure := ⟨"timeout", []⟩
    let batch (input : Bytes) : L1Transaction := ⟨hash, address, some address, input, []⟩
    (∃ reader, Program.Yields ((Reader.of source).nextCommitments 5)
      [⟨.transactions hash, .error (.other timeout)⟩,
        ⟨.transactions hash,
          .ok [batch [5, 6], batch (1 :: posted.encode), batch [], batch [1, 2]]⟩]
      ([.error (.temporary timeout), .ok (some posted), .error .notEnoughData, .ok none, .ok none],
        reader)) ∧
    Streams [.ok [5, 6], .error (.temporary timeout), .ok (1 :: posted.encode)]
      [.error (.temporary timeout), .ok posted] ∧
    (Reader.takeAll (firstCommitment id) 3
        [.ok [5, 6], .error (.temporary timeout), .ok (1 :: posted.encode)]).1 =
      [.error (.temporary timeout), .ok (some posted), .ok none] := by
  intro address hash source posted timeout batch
  obtain ⟨⟨told, _, unique, calls⟩, reads⟩ := commitments_streamed source
    [.ok [5, 6], .error (.temporary timeout), .ok (1 :: posted.encode)]
  have foreign (commitment : Commitment) : [5, 6] ≠ 1 :: commitment.encode := by simp
  have malformed (commitment : Commitment) : [1, 2] ≠ 1 :: commitment.encode := by
    cases commitment <;> simp [Commitment.encode, Commitment.type, CommitmentType.byte]
  have streams : Streams [.ok [5, 6], .error (.temporary timeout), .ok (1 :: posted.encode)]
      [.error (.temporary timeout), .ok posted] :=
    .irrelevant (by simp) foreign (.failed _ (.commitment posted .nil))
  obtain rfl := unique _ streams
  have entries : Streams
      [.error (.temporary timeout), .ok [5, 6], .ok (1 :: posted.encode), .ok [], .ok [1, 2]]
      [.error (.temporary timeout), .ok posted, .error .notEnoughData] :=
    .failed _ (.irrelevant (by simp) foreign (.commitment posted (.empty
      (.irrelevant (by simp) malformed .nil))))
  have failed : Program.Yields source.load [⟨.transactions hash, .error (.other timeout)⟩]
      (.error (.temporary timeout)) := .ask (.done _)
  have loaded : Program.Yields source.load
      [⟨.transactions hash, .ok [batch [5, 6], batch (1 :: posted.encode), batch [], batch [1, 2]]⟩]
      (.ok [[5, 6], 1 :: posted.encode, [], [1, 2]]) := .ask (.done _)
  exact ⟨(reads 5 _ _).2 ⟨_, _, _, .failed failed (.loaded loaded), entries, rfl⟩, streams,
    calls 3⟩

end ChallengeGame.Batch
