import ChallengeGame.Proofs.Bonding.Account
import ChallengeGame.Proofs.Bonding.Care

/-!
# What workers know is so

The knowledge by which a challenge is sent agrees with what has happened on the chain: the read
is in the history, and a deposit that was seen landing was executed after it.
-/

namespace ChallengeGame.Bonding

open Contract (Call CallError)
open Node (Confirmation Outgoing)

/-! ## Knowledge and history -/

/-- A read of the challenging worker counts until it reads again, sends a challenge or takes up
another job. -/
def Event.outdates : Event → Bool
  | read .challenging _ => true
  | sent _ _ .challenge => true
  | worker .challenging (.took _) => true
  | _ => false

def Fresh (between : List Event) : Prop := ∀ event ∈ between, event.outdates = false

structure Awaits (chain : Chain) (between : List Event) (transaction : Hash) (value : Word) :
    Prop where
  known : transaction ∈ chain.known
  pool : ∀ effect, (transaction, effect) ∈ chain.pool → effect = .deposit value
  landed : transaction ∈ chain.landed → value.toNat ≤ total Event.deposited between

def Known (chain : Chain) (past : List Event) (knowledge : Knowledge) : Prop :=
  ∀ balance, knowledge.balance? = some balance →
    ∃ before between, past = before ++ .read .challenging balance :: between ∧ Fresh between ∧
      knowledge.deposited ≤ total Event.deposited between ∧
      ∀ transaction value, knowledge.awaited? = some (transaction, value) →
        Awaits chain between transaction value

/-- How a chain changes with what is seen of it: transactions land only if they were under way. -/
structure Evolves (chain after : Chain) (shown : List Event) : Prop where
  known : ∀ transaction ∈ chain.known, transaction ∈ after.known
  pool : ∀ transaction ∈ chain.known, ∀ effect, (transaction, effect) ∈ after.pool →
    (transaction, effect) ∈ chain.pool
  landed : ∀ transaction ∈ chain.known, transaction ∈ after.landed → transaction ∈ chain.landed ∨
    ∃ effect, (transaction, effect) ∈ chain.pool ∧
      ∀ value, effect = .deposit value → value.toNat ≤ total Event.deposited shown

section
variable {setup : Setup} {chain after : Chain} {past shown between : List Event}
  {knowledge : Knowledge} {transaction : Hash} {effect : Effect}

theorem Evolves.refl (chain : Chain) (shown : List Event) : Evolves chain chain shown :=
  ⟨fun _ mem => mem, fun _ _ _ mem => mem, fun _ _ mem => .inl mem⟩

theorem Evolves.takeUp (fresh : transaction ∉ chain.known) :
    Evolves chain (chain.takeUp transaction effect) shown := by
  refine ⟨fun other mem => List.mem_append_left _ mem, ?_, fun other _ mem => .inl mem⟩
  intro other known found mem
  rcases List.mem_append.1 mem with mem | new
  · exact mem
  · obtain ⟨rfl, rfl⟩ := Prod.mk.inj (List.mem_singleton.1 new)
    exact absurd known fresh

theorem Evolves.forget (chain : Chain) (transaction : Hash) (shown : List Event) :
    Evolves chain (chain.forget transaction) shown :=
  ⟨fun _ mem => mem, fun _ _ _ mem => (List.mem_filter.1 mem).1, fun _ _ mem => .inl mem⟩

theorem Executes.evolves {reverts : Bool} {execution : Execution}
    (executes : Executes setup.bondSize transaction reverts chain after execution) :
    Evolves chain after [.executed execution] := by
  cases executes with
  | @landed effect balance pending =>
    refine ⟨fun _ mem => mem, fun _ _ _ mem => (List.mem_filter.1 mem).1, ?_⟩
    intro other _ landed
    rcases List.mem_append.1 landed with landed | new
    · exact .inl landed
    · obtain rfl := List.mem_singleton.1 new
      refine .inr ⟨effect, Chain.mem_pool_of_pending? pending, ?_⟩
      rintro value rfl
      rw [total_singleton]
      exact Nat.le_refl _
  | reverted => exact .forget ..

theorem Awaits.evolve {value : Word} (awaits : Awaits chain between transaction value)
    (evolves : Evolves chain after shown) : Awaits after (between ++ shown) transaction value := by
  refine ⟨evolves.known _ awaits.known, ?_, ?_⟩
  · intro effect mem
    exact awaits.pool effect (evolves.pool _ awaits.known effect mem)
  · intro landed
    rw [total_append]
    -- what lands just now was under way, and that was the deposit
    rcases evolves.landed _ awaits.known landed with before | ⟨effect, mem, now⟩
    · exact Nat.le_add_right_of_le (awaits.landed before)
    · exact Nat.le_add_left_of_le (now value (awaits.pool effect mem))

theorem Known.evolve (known : Known chain past knowledge) (evolves : Evolves chain after shown)
    (calm : Fresh shown) : Known after (past ++ shown) knowledge := by
  intro balance read
  obtain ⟨before, between, rfl, fresh, deposited, awaited⟩ := known balance read
  refine ⟨before, between ++ shown, by simp, ?_, ?_, ?_⟩
  · intro event mem
    exact (List.mem_append.1 mem).elim (fresh event) (calm event)
  · rw [total_append]
    exact Nat.le_add_right_of_le deposited
  · intro transaction value waiting
    exact (awaited transaction value waiting).evolve evolves

theorem known_nothing : Known chain past .nothing := by
  intro balance read
  cases read

theorem fresh_seen {call : Call} {reply : Except CallError Bytes} {balance : Word} :
    Fresh (seen setup .withdrawing call reply balance) := by
  rcases seen_cases setup .withdrawing call reply balance with none | one
  · simp [none, Fresh]
  · simp [one, Fresh, Event.outdates]

theorem fresh_sent {side : Side} (harmless : effect ≠ .challenge) :
    Fresh [.sent side transaction effect] := by
  intro event mem
  obtain rfl := List.mem_singleton.1 mem
  cases effect with
  | challenge => exact absurd rfl harmless
  | _ => rfl

theorem Known.called {call : Call} {reply : Except CallError Bytes}
    (known : Known chain past knowledge) (fine : chain.mayReply setup call reply = true) :
    Known chain (past ++ seen setup .challenging call reply chain.balance)
      (knowledge.afterCall setup call reply) := by
  cases reply with
  | error error => simpa [seen, Knowledge.afterCall] using known
  | ok output =>
    cases asks : setup.asksBalance call with
    | false => simpa [seen, Knowledge.afterCall, asks] using known
    | true =>
      -- the call has told the balance of the chain
      have told : output = Abi.encode [.word chain.balance] := by
        have other := Setup.asksBondSize_of_asksBalance asks
        simpa [Chain.mayReply, Chain.output?, other, asks] using fine
      have balance : Word.ofBytes output = chain.balance := by
        rw [told, Abi.encode_word, Word.ofBytes_toBytes]
      simp only [seen, Knowledge.afterCall, asks, balance]
      rintro _ ⟨⟩
      refine ⟨past, [], rfl, ?_, Nat.le_refl _, ?_⟩
      · intro _ mem; cases mem
      · intro _ _ awaited; cases awaited

theorem Known.sent {failure? : Option Failure} (known : Known chain past knowledge)
    (fresh : transaction ∉ chain.known) (pool : ∀ entry ∈ chain.pool, entry.1 ∈ chain.known)
    (landed : ∀ other ∈ chain.landed, other ∈ chain.known) :
    Known (chain.takeUp transaction effect) (past ++ [.sent .challenging transaction effect])
      (knowledge.afterSend effect (sendReply transaction failure?)) := by
  have evolves : Evolves chain (chain.takeUp transaction effect)
      [.sent .challenging transaction effect] := .takeUp fresh
  cases effect with
  | challenge => exact known_nothing
  | deposit value =>
    cases failure? with
    | some failure => exact known.evolve evolves (fresh_sent nofun)
    | none =>
      intro balance read
      obtain ⟨before, between, split, calm, deposited, _⟩ :=
        known.evolve evolves (fresh_sent nofun) balance read
      refine ⟨before, between, split, calm, deposited, ?_⟩
      rintro _ _ ⟨⟩
      refine ⟨List.mem_append_right _ List.mem_cons_self, ?_, ?_⟩
      · intro found mem
        rcases List.mem_append.1 mem with mem | new
        · exact absurd (pool _ mem) fresh
        · exact (Prod.mk.inj (List.mem_singleton.1 new)).2
      · intro already
        exact absurd (landed _ already) fresh
  | withdraw => exact known.evolve evolves (fresh_sent nofun)
  | other => exact known.evolve evolves (fresh_sent nofun)

theorem Known.refused {failure : Failure} (known : Known chain past knowledge) :
    Known chain past (knowledge.afterSend effect (.error failure)) := by
  cases effect with
  | challenge => exact known_nothing
  | _ => exact known

theorem Known.confirmed {confirmation : Confirmation} (known : Known chain past knowledge)
    (fine : chain.mayConfirm transaction confirmation = true) :
    Known chain past (knowledge.afterConfirm transaction confirmation) := by
  unfold Knowledge.afterConfirm
  split
  · rename_i awaited value receipt waiting
    split
    · rename_i succeeded
      obtain ⟨status, rfl⟩ := succeeded
      have landed : transaction ∈ chain.landed := by
        simpa [Chain.mayConfirm, status] using fine
      intro balance read
      obtain ⟨before, between, split, fresh, _, awaited⟩ := known balance read
      exact ⟨before, between, split, fresh, (awaited _ _ waiting).landed landed, nofun⟩
    · exact known
  · exact known

end

/-! ## Workers at work -/

structure OwnJobs (side : Side) (worker : Worker) : Prop where
  slot : ∀ job, worker.slot? = some job → job.kind = side.kind
  waiting : ∀ call ∈ worker.waiting, call.2.kind = side.kind

/-- Every worker that is executing a job does it with care, and the challenging one goes by what
is so. -/
def Mindful (setup : Setup) (system : System) (past : List Event) : Prop :=
  ∀ side job rest, (system.worker side).worker = .executing job rest →
    ∃ knowledge, Careful setup side (fun _ _ => True) rest knowledge ∧
      (side = .challenging → Known system.chain past knowledge)

section
variable {setup : Setup} {system after : System} {chain : Chain} {side : Side}
  {past shown : List Event} {query : Query} {answer : query.Answer}

theorem OwnJobs.move {member : Scheduler.Setup Job Query Query.Answer} {worker later : Worker}
    {action : Scheduler.Action Job Query Query.Answer} {own : List (Scheduler.Event Job)}
    (jobs : OwnJobs side worker) (admitted : side.admits action = true)
    (move : Scheduler.Move member worker action later own) : OwnJobs side later := by
  obtain ⟨slot, waiting⟩ := jobs
  cases move with
  | admitted => exact ⟨by rintro _ ⟨⟩; simpa [Side.admits] using admitted, waiting⟩
  | queuedUp =>
    refine ⟨slot, ?_⟩
    intro call mem
    rcases List.mem_append.1 mem with mem | new
    · exact waiting call mem
    · obtain rfl := List.mem_singleton.1 new
      simpa [Side.admits] using admitted
  | givenUp => exact ⟨slot, fun call mem => waiting call (List.mem_filter.1 mem).1⟩
  | letIn _ _ first =>
    rw [first] at waiting
    refine ⟨?_, fun call mem => waiting call (List.mem_cons_of_mem _ mem)⟩
    rintro _ ⟨⟩
    exact waiting _ List.mem_cons_self
  | refused _ first =>
    rw [first] at waiting
    exact ⟨slot, fun call mem => waiting call (List.mem_cons_of_mem _ mem)⟩
  | took => exact ⟨nofun, waiting⟩
  | closedIdle => exact ⟨nofun, waiting⟩
  | died => exact ⟨nofun, waiting⟩
  | stopped => exact ⟨nofun, waiting⟩
  | interrupted => exact ⟨nofun, waiting⟩
  | _ => exact ⟨slot, waiting⟩

theorem executing_of_move {member : Scheduler.Setup Job Query Query.Answer} {worker later : Worker}
    {action : Scheduler.Action Job Query Query.Answer} {own : List (Scheduler.Event Job)}
    {job : Job} {rest : Working Scheduler.Ending} (admitted : side.admits action = true)
    (move : Scheduler.Move member worker action later own)
    (executing : later.worker = .executing job rest) :
    worker.worker = .executing job rest ∨ worker.slot? = some job ∧ rest = member.execute job := by
  cases move with
  | took _ slot =>
    cases executing
    exact .inr ⟨slot, rfl⟩
  | progressed => cases admitted
  | started => cases executing
  | closedIdle => cases executing
  | ended => cases executing
  | died => cases executing
  | stopped => cases executing
  | interrupted => cases executing
  | _ => exact .inl executing

theorem listening_of_took {member : Scheduler.Setup Job Query Query.Answer} {worker later : Worker}
    {action : Scheduler.Action Job Query Query.Answer} {own : List (Scheduler.Event Job)}
    {job : Job} (move : Scheduler.Move member worker action later own) (took : .took job ∈ own) :
    worker.worker = .listening := by
  cases move with
  | took listening => exact listening
  | closedIdle | died | stopped | interrupted => simp [Scheduler.discarded] at took
  | _ => simp at took

theorem fresh_of_move {member : Scheduler.Setup Job Query Query.Answer} {worker later : Worker}
    {action : Scheduler.Action Job Query Query.Answer} {own : List (Scheduler.Event Job)}
    (move : Scheduler.Move member worker action later own)
    (busy : side = .challenging → worker.worker ≠ .listening) :
    Fresh (own.map (.worker side)) := by
  intro event mem
  obtain ⟨event, shown, rfl⟩ := List.mem_map.1 mem
  cases side with
  | withdrawing => rfl
  | challenging =>
    cases event with
    | took => exact absurd (listening_of_took move shown) (busy rfl)
    | _ => rfl

theorem Mindful.worked (mindful : Mindful setup system past)
    {action : Scheduler.Action Job Query Query.Answer} {worker : Worker}
    {own : List (Scheduler.Event Job)} (jobs : OwnJobs side (system.worker side))
    (admitted : side.admits action = true)
    (move : Scheduler.Move (setup.crew side) (system.worker side) action worker own) :
    Mindful setup (system.put side worker) (past ++ own.map (.worker side)) := by
  intro other job rest executing
  -- it was at this before, or has just taken the job up and knows nothing
  have before : (∃ job, (system.worker other).worker = .executing job rest) ∨
      job.kind = other.kind ∧ rest = (setup.crew other).execute job := by
    by_cases same : other = side
    · subst same
      rw [System.worker_put] at executing
      rcases executing_of_move admitted move executing with before | ⟨slot, new⟩
      · exact .inl ⟨job, before⟩
      · exact .inr ⟨jobs.slot job slot, new⟩
    · rw [System.worker_put_of_ne same] at executing
      exact .inl ⟨job, executing⟩
  rcases before with ⟨job, before⟩ | ⟨kind, rfl⟩
  · obtain ⟨knowledge, careful, known⟩ := mindful other job rest before
    refine ⟨knowledge, careful, ?_⟩
    rintro rfl
    rw [System.chain_put]
    have calm : Fresh (own.map (.worker side)) := by
      refine fresh_of_move move ?_
      rintro rfl
      rw [before]
      nofun
    exact (known rfl).evolve (.refl ..) calm
  · exact ⟨.nothing, careful_execute kind, fun _ => known_nothing⟩

theorem Mindful.answered (mindful : Mindful setup system past)
    (answered : Answered system side query answer after) (possible : Possible setup query answer)
    (evolves : Evolves system.chain chain shown) (calm : side = .withdrawing → Fresh shown)
    (learns : side = .challenging → ∀ knowledge, Known system.chain past knowledge →
      Known chain (past ++ shown) (knowledge.after setup query answer)) :
    Mindful setup { after with chain } (past ++ shown) := by
  obtain ⟨asked⟩ := answered
  intro other job rest executing
  rw [System.worker_with_chain] at executing
  by_cases same : other = side
  · subst same
    rw [System.worker_put] at executing
    cases executing
    obtain ⟨knowledge, careful, known⟩ := mindful other _ _ asked
    refine ⟨knowledge.after setup query answer, careful.2 answer possible, ?_⟩
    intro challenging
    exact learns challenging knowledge (known challenging)
  · rw [System.worker_put_of_ne same] at executing
    obtain ⟨knowledge, careful, known⟩ := mindful other job rest executing
    refine ⟨knowledge, careful, ?_⟩
    rintro rfl
    have withdrawing : side = .withdrawing := by
      cases side with
      | challenging => exact absurd rfl same
      | withdrawing => rfl
    exact (known rfl).evolve evolves (calm withdrawing)

theorem Mindful.learns (mindful : Mindful setup system past)
    (answered : Answered system side query answer after) (possible : Possible setup query answer)
    (calm : side = .withdrawing → Fresh shown)
    (learns : side = .challenging → ∀ knowledge, Known system.chain past knowledge →
      Known system.chain (past ++ shown) (knowledge.after setup query answer)) :
    Mindful setup after (past ++ shown) := by
  have learnt := mindful.answered answered possible (.refl ..) calm learns
  rwa [← answered.chain_eq] at learnt

theorem Mindful.evolve (mindful : Mindful setup system past)
    (evolves : Evolves system.chain chain shown) (calm : Fresh shown) :
    Mindful setup { system with chain } (past ++ shown) := by
  intro side job rest executing
  rw [System.worker_with_chain] at executing
  obtain ⟨knowledge, careful, known⟩ := mindful side job rest executing
  exact ⟨knowledge, careful, fun challenging => (known challenging).evolve evolves calm⟩

def Backed (setup : Setup) (past : List Event) (transaction : Hash) : Prop :=
  ∃ before balance between later,
    past = before ++ .read .challenging balance ::
      (between ++ .sent .challenging transaction .challenge :: later) ∧
    Fresh between ∧ setup.bondSize.toNat ≤ balance.toNat + total Event.deposited between

theorem Backed.append {transaction : Hash} (backed : Backed setup past transaction) :
    Backed setup (past ++ shown) transaction := by
  obtain ⟨before, balance, between, later, rfl, covered⟩ := backed
  exact ⟨before, balance, between, later ++ shown, by simp, covered⟩

theorem Mindful.backed {outgoing : Outgoing} {sent : Except Failure Hash}
    (mindful : Mindful setup system past) (transaction : Hash)
    (answered : Answered system side (.submission (.send outgoing)) sent after)
    (locks : setup.effect outgoing = .challenge) :
    side = .challenging ∧
      Backed setup (past ++ [.sent side transaction (setup.effect outgoing)]) transaction := by
  obtain ⟨asked⟩ := answered
  obtain ⟨knowledge, careful, known⟩ := mindful side _ _ asked
  obtain ⟨rfl, balance, read, covers⟩ := careful.1 locks
  obtain ⟨before, between, rfl, fresh, deposited, _⟩ := known rfl balance read
  refine ⟨rfl, before, balance, between, [], by simp [locks], fresh, ?_⟩
  exact Nat.le_trans covers (Nat.add_le_add_left deposited _)

end

end ChallengeGame.Bonding
