import ChallengeGame.Proofs.HeadWatch.Forwarding

/-!
# What the replies of a node do to a watch

A reply to the question for the finalized block gives the head it shows or a failure, and the watch
goes on polling after either. A block whose time has more than 64 bits gives neither: it ends the
reader and the watch with it. So a watch keeps polling whatever the node replies exactly as long as
no reply shows such a time.
-/

namespace ChallengeGame

namespace Node

/-- What a node shows of a finalized block. -/
structure Shown where
  hash : Hash
  number : UInt64
  parent : Hash
  time : Word

/-- The reply is a block with a hash and a number. A parent or a time that it leaves out is zero. -/
def Reply.Shows (reply : Reply) (shown : Shown) : Prop :=
  ∃ document, reply.read (block? (isFixed 32)) = .ok (some document) ∧
    (document.field? "hash").bind (Document.fixed? 32) = some shown.hash ∧
    (document.field? "number").bind number? = some shown.number ∧
    fixedField 32 document "parentHash" = shown.parent ∧
    ((document.field? "timestamp").bind Document.word?).getD 0 = shown.time

/-- The head has the fields that are shown. -/
structure Shown.Gives (shown : Shown) (head : BlockRef) : Prop where
  hash : head.hash = shown.hash
  number : head.number = shown.number
  parent : head.parent = shown.parent
  time : head.time.toNat = shown.time.toNat

/-- The reading is the block that the reply shows, or a failure if there is none that can be told. -/
inductive Answers (reply : Reply) : HeadReading → Prop
  | head {shown : Shown} {head : BlockRef} :
      reply.Shows shown → shown.Gives head → Answers reply (.head head)
  | failed {failure : Failure} :
      (∀ shown, reply.Shows shown → UInt64.size ≤ shown.time.toNat) → Answers reply (.failed failure)

section
variable {reply : Reply} {shown : Shown}

theorem finalized_of_shows (shows : reply.Shows shown) :
    finalized reply =
      if shown.time.toNat < UInt64.size then
        .head ⟨shown.hash, shown.number, shown.parent, UInt64.ofNat shown.time.toNat⟩
      else .aborted := by
  obtain ⟨document, read, hash, number, parent, time⟩ := shows
  simp only [finalized, read, hash, number, parent, time]

theorem finalized_of_not_shows (nothing : ∀ shown, ¬ reply.Shows shown) :
    ∃ failure, finalized reply = .failed failure := by
  unfold finalized
  split
  · exact ⟨_, rfl⟩
  · exact ⟨_, rfl⟩
  · rename_i document read
    split
    · exact ⟨_, rfl⟩
    · rename_i hash hashed
      split
      · exact ⟨_, rfl⟩
      · rename_i number numbered
        exact absurd ⟨document, read, hashed, numbered, rfl, rfl⟩ (nothing ⟨hash, number, _, _⟩)

theorem answers_iff :
    Answers reply (finalized reply) ↔
      ∀ shown, reply.Shows shown → shown.time.toNat < UInt64.size := by
  constructor
  · intro answers shown shows
    by_contra long
    rw [finalized_of_shows shows, if_neg long] at answers
    cases answers
  · intro short
    by_cases some : ∃ shown, reply.Shows shown
    · obtain ⟨shown, shows⟩ := some
      rw [finalized_of_shows shows, if_pos (short shown shows)]
      exact .head shows ⟨rfl, rfl, rfl, UInt64.toNat_ofNat_of_lt' (short shown shows)⟩
    · obtain ⟨failure, failed⟩ := finalized_of_not_shows (not_exists.1 some)
      rw [failed]
      exact .failed fun shown shows => absurd ⟨shown, shows⟩ some

theorem finalized_ne_aborted (short : ∀ shown, reply.Shows shown → shown.time.toNat < UInt64.size) :
    finalized reply ≠ .aborted := by
  have answers := answers_iff.2 short
  intro aborted
  rw [aborted] at answers
  cases answers

end

end Node

namespace HeadWatch

open Node (HeadReading Reply)

def reading? : Action → Option HeadReading
  | .answer reading => some reading
  | _ => none

def readings (actions : List Action) : List HeadReading := actions.filterMap reading?

def Poll.reading? : Poll → Option HeadReading
  | .head block => some (.head block)
  | .failed failure => some (.failed failure)
  | .timedOut => none

/-- Every reply is answered, and a watch that reads these replies stops for a shutdown or a refused
head only. As long as it does not stop it can go on to the last of them, and be waiting for the
next tick then. -/
structure KeepsPolling (period now : Nat) (replies : List Reply) : Prop where
  answers : ∀ reply ∈ replies, Node.Answers reply (Node.finalized reply)
  stops : ∀ actions last shown, run? period (new now) actions = some (last, shown) →
    readings actions <+: replies.map Node.finalized → last.phase = .stopped →
    last.cancelled = true ∨ .deliver false ∈ actions
  goesOn : ∀ actions watch shown, run? period (new now) actions = some (watch, shown) →
    readings actions <+: replies.map Node.finalized → watch.phase ≠ .stopped →
    ∃ more last later, run? period watch more = some (last, later) ∧
      readings (actions ++ more) = replies.map Node.finalized ∧ last.phase = .waiting

section
variable {period now : Nat} {watch last middle : HeadWatch} {action : Action}
  {actions : List Action} {shown : List Event}

/-! ## Shutdowns -/

theorem Move.stays_cancelled (move : Move period watch action middle shown)
    (told : watch.cancelled = true) : middle.cancelled = true := by
  cases move with
  | cancelled => rfl
  | _ => exact told

theorem run_cancelled (run : run? period watch actions = some (last, shown))
    (told : watch.cancelled = true) : last.cancelled = true := by
  induction actions generalizing watch shown with
  | nil => cases run; exact told
  | cons action rest ih =>
    obtain ⟨middle, own, later, move, onward, rfl⟩ := run?_cons.1 run
    exact ih onward (move.stays_cancelled told)

theorem cancelled_of_stop (run : run? period watch actions = some (last, shown))
    (mem : .stop ∈ actions) : last.cancelled = true := by
  obtain ⟨before, after, rfl⟩ := List.append_of_mem mem
  obtain ⟨middle, _, _, _, rest, _⟩ := run?_append.1 run
  obtain ⟨next, _, _, move, onward, _⟩ := run?_cons.1 rest
  refine run_cancelled onward ?_
  cases move with
  | stopped told _ | interrupted told _ => exact told

/-! ## Answers and polls -/

theorem readings_eq (intact : .answer .aborted ∉ actions) :
    readings actions = (polls actions).filterMap Poll.reading? := by
  rw [polls, List.filterMap_filterMap, readings]
  refine List.filterMap_congr fun action mem => ?_
  cases action with
  | answer reading =>
    cases reading with
    | aborted => exact absurd mem intact
    | _ => rfl
  | _ => rfl

theorem exists_polls_of_readings {wanted : List HeadReading} (intact : .aborted ∉ wanted) :
    ∃ asked : List Poll, asked.filterMap Poll.reading? = wanted := by
  induction wanted with
  | nil => exact ⟨[], rfl⟩
  | cons reading rest ih =>
    obtain ⟨asked, rfl⟩ := ih fun mem => intact (List.mem_cons_of_mem _ mem)
    cases reading with
    | head block => exact ⟨.head block :: asked, rfl⟩
    | failed failure => exact ⟨.failed failure :: asked, rfl⟩
    | aborted => exact absurd List.mem_cons_self intact

theorem intact_of_waiting (running : watch.phase ≠ .stopped)
    (run : run? period watch actions = some (last, shown)) (waiting : last.phase = .waiting) :
    .answer .aborted ∉ actions := by
  intro mem
  have stopped := (stopped_iff running run).2 ⟨_, mem, .aborted⟩
  rw [waiting] at stopped
  cases stopped

/-- A watch that has not stopped can come to its next question without another answer. -/
theorem exists_waiting (running : watch.phase ≠ .stopped) :
    ∃ actions last shown, run? period watch actions = some (last, shown) ∧
      readings actions = [] ∧ last.phase = .waiting := by
  have stays (watch : HeadWatch) : run? period watch [] = some (watch, []) := rfl
  cases phase : watch.phase with
  | waiting => exact ⟨[], watch, [], stays _, rfl, phase⟩
  | asking since => exact ⟨_, _, _, Move.run (.gaveUp phase (Nat.le_refl _)) (stays _), rfl, rfl⟩
  | delivering head => exact ⟨_, _, _, Move.run (.delivered phase) (stays _), rfl, rfl⟩
  | stopped => exact absurd phase running

theorem exists_readings (running : watch.phase ≠ .stopped) {wanted : List HeadReading}
    (intact : .aborted ∉ wanted) :
    ∃ actions last shown, run? period watch actions = some (last, shown) ∧
      readings actions = wanted ∧ last.phase = .waiting := by
  obtain ⟨first, middle, seen, rest, none, waiting⟩ := @exists_waiting period _ running
  obtain ⟨asked, rfl⟩ := exists_polls_of_readings intact
  obtain ⟨actions, last, later, run, rfl, still⟩ := @exists_polls period _ waiting asked
  refine ⟨first ++ actions, last, seen ++ later, ?_, ?_, still⟩
  · exact run?_append.2 ⟨middle, seen, later, rest, run, rfl⟩
  · have intact := intact_of_waiting (by simp [waiting]) run still
    rw [readings, List.filterMap_append, ← readings_eq intact]
    exact congrArg (· ++ readings actions) none

end

/-- A watch keeps polling exactly if no reply shows a block whose time has more than 64 bits. -/
theorem keeps_polling_iff (period now : Nat) (replies : List Reply) :
    KeepsPolling period now replies ↔
      ∀ reply ∈ replies, ∀ shown, reply.Shows shown → shown.time.toNat < UInt64.size := by
  constructor
  · intro keeps reply mem
    exact Node.answers_iff.1 (keeps.answers reply mem)
  · intro short
    have intact : .aborted ∉ replies.map Node.finalized := by
      intro mem
      obtain ⟨reply, among, aborted⟩ := List.mem_map.1 mem
      exact Node.finalized_ne_aborted (short reply among) aborted
    have running : (new now).phase ≠ .stopped := by simp [new]
    refine ⟨fun reply mem => Node.answers_iff.2 (short reply mem), ?_, ?_⟩
    · -- of the three reasons to stop an aborted reader is none, as no reply aborts it
      intro actions last shown run among stopped
      obtain ⟨action, mem, ends⟩ := (stopped_iff running run).1 stopped
      cases ends with
      | aborted =>
        have read : .aborted ∈ readings actions := List.mem_filterMap.2 ⟨_, mem, rfl⟩
        exact absurd (among.subset read) intact
      | refused => exact .inr mem
      | shutdown => exact .inl (cancelled_of_stop run mem)
    · -- the replies that are left are read one after the other
      rintro actions watch shown run ⟨left, split⟩ going
      have others : .aborted ∉ left := fun mem =>
        intact (split ▸ List.mem_append_right (readings actions) mem)
      obtain ⟨more, last, later, onward, rfl, waiting⟩ := exists_readings going others
      refine ⟨more, last, later, onward, ?_, waiting⟩
      rw [← split, readings, List.filterMap_append]
      rfl

namespace Sample

def distant : Reply :=
  .result (.record [("hash", .bytes (hash 100).bytes), ("number", .text "0x64"),
    ("timestamp", .text "0x10000000000000000")])

end Sample

/-- Nobody has cancelled the watch or refused a head, and it stops. -/
theorem stopped_by_a_reply :
    ¬ KeepsPolling 1000 0 [Sample.distant] ∧
      ∃ last shown,
        run? 1000 (new 0) [.tick 0, .answer (Node.finalized Sample.distant)] = some (last, shown) ∧
        last.phase = .stopped ∧ last.cancelled = false := by
  have shows : Sample.distant.Shows
      ⟨Sample.hash 100, 100, FixedBytes.zero 32, 0x10000000000000000⟩ :=
    ⟨_, rfl, rfl, rfl, rfl, rfl⟩
  have aborts : Node.finalized Sample.distant = .aborted := by
    rw [Node.finalized_of_shows shows]
    exact if_neg (by decide)
  constructor
  · intro keeps
    have answers := keeps.answers _ List.mem_cons_self
    rw [aborts] at answers
    cases answers
  · rw [aborts]
    exact ⟨_, _, rfl, rfl, rfl⟩

end HeadWatch

end ChallengeGame
