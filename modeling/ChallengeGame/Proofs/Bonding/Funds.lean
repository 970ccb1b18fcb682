import ChallengeGame.Proofs.Bonding.Knowledge

/-!
# What a challenge finds

By its care a challenge goes by a read and a deposit that suffice for its bond, and the account
tells what has become of them by the time it is executed: only a withdrawal or another challenge
can have left it short. Either can.
-/

namespace ChallengeGame.Bonding

open Contract (Call CallError)
open Node (Confirmation Outgoing)

/-! ## Transactions and where they come from -/

def Sent (past : List Event) (transaction : Hash) (effect : Effect) : Prop :=
  ∃ side, .sent side transaction effect ∈ past ∧ (effect = .challenge → side = .challenging)

/-- Whatever is under way or was executed was sent, and it is executed only once. -/
structure Booked (setup : Setup) (chain : Chain) (past : List Event) : Prop where
  known : ∀ entry ∈ chain.pool, entry.1 ∈ chain.known
  landed : ∀ transaction ∈ chain.landed, transaction ∈ chain.known
  sent : ∀ entry ∈ chain.pool, Sent past entry.1 entry.2
  backed : ∀ transaction, (transaction, Effect.challenge) ∈ chain.pool →
    Backed setup past transaction
  executed : ∀ execution, .executed execution ∈ past →
    execution.transaction ∈ chain.known ∧ (∀ entry ∈ chain.pool, entry.1 ≠ execution.transaction) ∧
      Sent past execution.transaction execution.effect

section
variable {setup : Setup} {chain after : Chain} {past shown : List Event} {transaction : Hash}
  {effect : Effect} {side : Side}

theorem Sent.append (sent : Sent past transaction effect) :
    Sent (past ++ shown) transaction effect := by
  obtain ⟨side, mem, challenging⟩ := sent
  exact ⟨side, List.mem_append_left _ mem, challenging⟩

theorem booked_start (balance : Word) : Booked setup (.start balance) [] :=
  ⟨nofun, nofun, nofun, nofun, nofun⟩

theorem Booked.quiet (booked : Booked setup chain past)
    (unexecuted : ∀ execution, Event.executed execution ∉ shown) :
    Booked setup chain (past ++ shown) := by
  refine ⟨booked.known, booked.landed, fun entry mem => (booked.sent entry mem).append,
    fun transaction mem => (booked.backed transaction mem).append, ?_⟩
  intro execution mem
  rcases List.mem_append.1 mem with mem | new
  · obtain ⟨known, gone, sent⟩ := booked.executed execution mem
    exact ⟨known, gone, sent.append⟩
  · exact absurd new (unexecuted execution)

theorem Booked.forget (booked : Booked setup chain past) (transaction : Hash) :
    Booked setup (chain.forget transaction) past := by
  have kept : ∀ entry ∈ (chain.forget transaction).pool, entry ∈ chain.pool :=
    fun entry mem => (List.mem_filter.1 mem).1
  refine ⟨fun entry mem => booked.known entry (kept entry mem), booked.landed,
    fun entry mem => booked.sent entry (kept entry mem),
    fun other mem => booked.backed other (kept _ mem), ?_⟩
  intro execution mem
  obtain ⟨known, gone, sent⟩ := booked.executed execution mem
  exact ⟨known, fun entry mem => gone entry (kept entry mem), sent⟩

theorem Booked.takeUp (booked : Booked setup chain past) (fresh : transaction ∉ chain.known)
    (own : effect = .challenge → side = .challenging ∧
      Backed setup (past ++ [.sent side transaction effect]) transaction) :
    Booked setup (chain.takeUp transaction effect) (past ++ [.sent side transaction effect]) := by
  have later : Booked setup chain (past ++ [.sent side transaction effect]) :=
    booked.quiet (by simp)
  obtain ⟨known, landed, sent, backed, executed⟩ := later
  refine ⟨?_, fun other mem => List.mem_append_left _ (landed other mem), ?_, ?_, ?_⟩
  · intro entry mem
    rcases List.mem_append.1 mem with mem | new
    · exact List.mem_append_left _ (known entry mem)
    · obtain rfl := List.mem_singleton.1 new
      exact List.mem_append_right _ List.mem_cons_self
  · intro entry mem
    rcases List.mem_append.1 mem with mem | new
    · exact sent entry mem
    · obtain rfl := List.mem_singleton.1 new
      exact ⟨side, List.mem_append_right _ List.mem_cons_self, fun locks => (own locks).1⟩
  · intro other mem
    rcases List.mem_append.1 mem with mem | new
    · exact backed other mem
    · obtain ⟨rfl, locks⟩ := Prod.mk.inj (List.mem_singleton.1 new)
      exact (own locks.symm).2
  · intro execution mem
    obtain ⟨known, gone, sent⟩ := executed execution mem
    refine ⟨List.mem_append_left _ known, ?_, sent⟩
    intro entry mem
    rcases List.mem_append.1 mem with mem | new
    · exact gone entry mem
    · obtain rfl := List.mem_singleton.1 new
      rintro rfl
      exact fresh known

theorem Executes.transaction_eq {reverts : Bool} {execution : Execution}
    (executes : Executes setup.bondSize transaction reverts chain after execution) :
    execution.transaction = transaction ∧ execution.found = chain.balance ∧
      (transaction, execution.effect) ∈ chain.pool := by
  cases executes with
  | landed pending => exact ⟨rfl, rfl, Chain.mem_pool_of_pending? pending⟩
  | reverted pending => exact ⟨rfl, rfl, Chain.mem_pool_of_pending? pending⟩

theorem Executes.leaves {reverts : Bool} {execution : Execution}
    (executes : Executes setup.bondSize transaction reverts chain after execution) :
    after.known = chain.known ∧ after.pool = (chain.forget transaction).pool ∧
      ∀ other ∈ after.landed, other ∈ chain.landed ∨ other = transaction := by
  cases executes with
  | landed =>
    refine ⟨rfl, rfl, ?_⟩
    intro other mem
    exact (List.mem_append.1 mem).imp_right List.mem_singleton.1
  | reverted => exact ⟨rfl, rfl, fun other mem => .inl mem⟩

theorem Booked.executes {reverts : Bool} {execution : Execution}
    (booked : Booked setup chain past)
    (executes : Executes setup.bondSize transaction reverts chain after execution) :
    Booked setup after (past ++ [.executed execution]) := by
  obtain ⟨rfl, _, mem⟩ := executes.transaction_eq
  obtain ⟨known_eq, pool_eq, landed⟩ := executes.leaves
  have known := booked.known _ mem
  have sent := booked.sent _ mem
  have forgotten := booked.forget execution.transaction
  -- nothing that is under way now bears the hash that was executed
  refine ⟨?_, ?_, ?_, ?_, ?_⟩ <;> (try rw [pool_eq]) <;> (try rw [known_eq])
  · exact forgotten.known
  · intro other mem
    rcases landed other mem with mem | rfl
    · exact booked.landed other mem
    · exact known
  · exact fun entry mem => (forgotten.sent entry mem).append
  · exact fun other mem => (forgotten.backed other mem).append
  · intro other mem
    rcases List.mem_append.1 mem with mem | new
    · obtain ⟨known, gone, sent⟩ := forgotten.executed other mem
      exact ⟨known, gone, sent.append⟩
    · obtain ⟨rfl⟩ := List.mem_singleton.1 new
      refine ⟨known, ?_, sent.append⟩
      intro entry mem
      simpa [Chain.forget] using (List.mem_filter.1 mem).2

end

/-! ## Runs -/

structure Sound (setup : Setup) (system : System) (past : List Event) : Prop where
  jobs : ∀ side, OwnJobs side (system.worker side)
  mindful : Mindful setup system past
  account : Accounted setup system.chain.balance past
  booked : Booked setup system.chain past

section
variable {setup : Setup} {system last : System} {balance : Word} {past shown : List Event}
  {action : Action} {actions : List Action} {side : Side}

theorem sound_start (balance : Word) : Sound setup (.start balance) [] := by
  refine ⟨?_, ?_, ?_, booked_start balance⟩
  · intro side
    cases side <;> exact ⟨nofun, nofun⟩
  · intro side job rest executing
    cases side <;> cases executing
  · intro before side value since none
    simp at none

theorem possible_of_mayReply {call : Call} {reply : Except CallError Bytes}
    (fine : system.chain.mayReply setup call reply = true) : Possible setup (.call call) reply := by
  rintro output rfl
  constructor
  · intro asks
    simpa [Chain.mayReply, Chain.output?, asks] using fine
  · intro asks
    refine ⟨system.chain.balance, ?_⟩
    simpa [Chain.mayReply, Chain.output?, Setup.asksBondSize_of_asksBalance asks, asks] using fine

theorem Answered.jobs {query : Query} {answer : query.Answer} {after : System}
    (answered : Answered system side query answer after)
    (jobs : ∀ side, OwnJobs side (system.worker side)) (other : Side) :
    OwnJobs other (after.worker other) := by
  obtain ⟨_⟩ := answered
  by_cases same : other = side
  · subst same
    rw [System.worker_put]
    exact ⟨(jobs other).slot, (jobs other).waiting⟩
  · rw [System.worker_put_of_ne same]
    exact jobs other

theorem Move.sound (sound : Sound setup system past) (move : Move setup system action last shown) :
    Sound setup last (past ++ shown) := by
  obtain ⟨jobs, mindful, account, booked⟩ := sound
  cases move with
  | @worked side action worker own admitted move =>
    refine ⟨?_, mindful.worked (jobs side) admitted move, ?_, ?_⟩
    · intro other
      by_cases same : other = side
      · subst same
        rw [System.worker_put]
        exact (jobs other).move admitted move
      · rw [System.worker_put_of_ne same]
        exact jobs other
    · rw [System.chain_put]
      exact account.quiet (by simp [Event.counts])
    · rw [System.chain_put]
      exact booked.quiet (by simp)
  | @called side call reply after fine answered =>
    refine ⟨answered.jobs jobs, ?_, ?_, ?_⟩
    · refine mindful.learns answered (possible_of_mayReply fine) ?_ ?_
      · rintro rfl
        exact fresh_seen
      · rintro rfl knowledge known
        exact known.called fine
    · rw [answered.chain_eq]
      exact account.seen
    · rw [answered.chain_eq]
      rcases seen_cases setup side call reply system.chain.balance with none | one
      · exact booked.quiet (by simp [none])
      · exact booked.quiet (by simp [one])
  | @taken side outgoing transaction failure? after fresh answered =>
    refine ⟨?_, ?_, account.quiet (by simp [Event.counts]), ?_⟩
    · intro other
      rw [System.worker_with_chain]
      exact answered.jobs jobs other
    · refine mindful.answered answered trivial (.takeUp fresh) ?_ ?_
      -- the withdrawing worker sends no challenge
      · rintro rfl
        refine fresh_sent fun locks => ?_
        cases (mindful.backed transaction answered locks).1
      · rintro rfl knowledge known
        exact known.sent fresh booked.known booked.landed
    · exact booked.takeUp fresh fun locks => mindful.backed transaction answered locks
  | @refused side outgoing failure after answered =>
    rw [← answered.chain_eq] at account booked
    refine ⟨answered.jobs jobs, ?_, account.quiet nofun, booked.quiet nofun⟩
    refine mindful.learns answered trivial (fun _ => nofun) ?_
    rintro rfl knowledge known
    rw [List.append_nil]
    exact known.refused
  | @confirmed side transaction confirmation after fine answered =>
    rw [← answered.chain_eq] at account booked
    refine ⟨answered.jobs jobs, ?_, account.quiet nofun, booked.quiet nofun⟩
    refine mindful.learns answered trivial (fun _ => nofun) ?_
    rintro rfl knowledge known
    rw [List.append_nil]
    exact known.confirmed fine
  | @executed transaction reverts chain execution executes =>
    refine ⟨?_, ?_, ?_, booked.executes executes⟩
    · intro side
      rw [System.worker_with_chain]
      exact jobs side
    · exact mindful.evolve executes.evolves (by simp [Fresh, Event.outdates])
    · refine account.append (by simp) ?_
      rw [total_singleton, total_singleton, total_singleton]
      exact executes.balance
  | @lost transaction effect pending =>
    refine ⟨?_, ?_, account.quiet (by simp [Event.counts]), (booked.forget _).quiet (by simp)⟩
    · intro side
      rw [System.worker_with_chain]
      exact jobs side
    · exact mindful.evolve (.forget ..) (by simp [Fresh, Event.outdates])

theorem run_sound (sound : Sound setup system [])
    (run : run? setup system actions = some (last, past)) :
    Sound setup last past := by
  rw [run?_eq] at run
  refine Steps.run_induction (fun _ last past => Sound setup last past) sound ?_ run
  intro _ middle past action last shown _ sound stepped
  exact (step?_eq_some_iff.1 stepped).sound sound

/-! ## The result -/

/-- What is behind a challenge by the time it is executed, if its worker has read the balance and
the challenge was sent and executed after `between` and `later`. -/
structure Funded (setup : Setup) (execution : Execution) (before : List Event) (read : Word)
    (between later : List Event) : Prop where
  /-- in between, the worker has not read again nor gone on to another job, and no challenge was
  sent -/
  fresh : Fresh between
  enough : setup.bondSize.toNat ≤ read.toNat + total Event.deposited between
  account : execution.found.toNat + total Event.paidOut (between ++ later) +
      total (Event.taken setup.bondSize) (between ++ later) =
    read.toNat + total Event.deposited (between ++ later)
  /-- other challenges that were executed since belong to other executions -/
  others : ∀ other, .executed other ∈ between ++ later → other.effect = .challenge →
    other.transaction ≠ execution.transaction ∧
      .sent .challenging other.transaction .challenge ∈ before ++ later
  untouched : total Event.paidOut (between ++ later) = 0 →
    total (Event.taken setup.bondSize) (between ++ later) = 0 → setup.bondSize ≤ execution.found

/-- Every challenge that is executed was sent by the challenging worker after a read of the
balance and a deposit of what was missing. It finds its bond unless a withdrawal has paid out or
another challenge has taken a bond since that read. -/
theorem challenge_funded {rest : List Event} {execution : Execution}
    (run : run? setup (.start balance) actions = some (last, past ++ .executed execution :: rest))
    (challenges : execution.effect = .challenge) :
    ∃ before read between later,
      past = before ++ .read .challenging read ::
        (between ++ .sent .challenging execution.transaction .challenge :: later) ∧
      Funded setup execution before read between later := by
  rw [run?_eq] at run
  obtain ⟨earlier, action, _, middle, next, past, own, others, rfl, led, stepped, rfl⟩ :=
    Steps.run?_at run
  rw [← run?_eq] at led
  have sound := run_sound (sound_start balance) led
  obtain ⟨rfl, transaction, reverts, chain, executes⟩ := (step?_eq_some_iff.1 stepped).executes
  obtain ⟨rfl, found, mem⟩ := executes.transaction_eq
  rw [challenges] at mem
  obtain ⟨before, read, between, later, split, fresh, enough⟩ := sound.booked.backed _ mem
  -- what was seen so far ends with the sending, so the account of the read runs up to now
  have account : execution.found.toNat + total Event.paidOut (between ++ later) +
      total (Event.taken setup.bondSize) (between ++ later) =
        read.toNat + total Event.deposited (between ++ later) := by
    have sofar := sound.account before .challenging read _ split
    rw [total_skip rfl, total_skip rfl, total_skip rfl] at sofar
    rwa [found]
  refine ⟨before, read, between, later, by rw [List.append_nil, split], fresh, enough, account,
    ?_, ?_⟩
  · intro other executed locks
    have seen : .executed other ∈ past := by
      rw [split]
      rcases List.mem_append.1 executed with mem | mem <;> simp [mem]
    obtain ⟨_, gone, side, sent, challenging⟩ := sound.booked.executed other seen
    have different : other.transaction ≠ execution.transaction := Ne.symm (gone _ mem)
    refine ⟨different, ?_⟩
    rw [locks] at sent
    obtain rfl := challenging locks
    rw [split] at sent
    simp only [List.mem_append, List.mem_cons, reduceCtorEq, false_or, Event.sent.injEq,
      different, false_and, and_false] at sent
    -- nothing was sent between the read and the challenge
    rcases sent with mem | mem | mem
    · exact List.mem_append_left _ mem
    · cases fresh _ mem
    · exact List.mem_append_right _ mem
  · intro unpaid untaken
    have more : total Event.deposited between ≤ total Event.deposited (between ++ later) := by
      rw [total_append]
      exact Nat.le_add_right _ _
    rw [BitVec.le_def]
    omega

end

/-! ## Runs -/

section
variable {setup : Setup} {system middle : System} {side : Side} {action : Action}
  {actions : List Action} {own later shown : List Event} {job : Job}

def Shows (setup : Setup) (system : System) (actions : List Action) (shown : List Event) : Prop :=
  ∃ last, run? setup system actions = some (last, shown)

theorem Shows.step (stepped : step? setup system action = some (middle, own))
    (onward : Shows setup middle actions later) (same : own ++ later = shown) :
    Shows setup system (action :: actions) shown := by
  obtain ⟨last, onward⟩ := onward
  subst same
  exact ⟨last, by simp [run?, stepped, onward]⟩

theorem step?_bondSize {next : Except CallError Bytes → Working Scheduler.Ending}
    (asked : (system.worker side).worker = .executing job (.ask (.call setup.bondSizeCall) next)) :
    step? setup system
        (.call side setup.bondSizeCall (.ok (Abi.encode [.word setup.bondSize]))) =
      some (system.put side { system.worker side with
        worker := .executing job (next (.ok (Abi.encode [.word setup.bondSize]))) }, []) := by
  have fine : system.chain.mayReply setup setup.bondSizeCall
      (.ok (Abi.encode [.word setup.bondSize])) = true := by simp [Chain.mayReply, Chain.output?]
  have stepped := step?_eq_some_iff.2 (.called fine (.intro asked))
  simpa [seen] using stepped

theorem step?_balance {next : Except CallError Bytes → Working Scheduler.Ending}
    (asked : (system.worker side).worker = .executing job (.ask (.call setup.balanceCall) next)) :
    step? setup system
        (.call side setup.balanceCall (.ok (Abi.encode [.word system.chain.balance]))) =
      some (system.put side { system.worker side with
        worker := .executing job (next (.ok (Abi.encode [.word system.chain.balance]))) },
        [.read side system.chain.balance]) := by
  have asks : setup.asksBalance setup.balanceCall = true := Setup.asksBalance_balanceCall
  have other := Setup.asksBondSize_of_asksBalance asks
  have fine : system.chain.mayReply setup setup.balanceCall
      (.ok (Abi.encode [.word system.chain.balance])) = true := by
    simp [Chain.mayReply, Chain.output?, other, asks]
  have stepped := step?_eq_some_iff.2 (.called fine (.intro asked))
  simpa [seen] using stepped

theorem step?_send {outgoing : Outgoing} {transaction : Hash} {effect : Effect}
    {next : Except Failure Hash → Working Scheduler.Ending} (same : setup.effect outgoing = effect)
    (fresh : transaction ∉ system.chain.known)
    (asked : (system.worker side).worker =
      .executing job (.ask (.submission (.send outgoing)) next)) :
    step? setup system (.send side outgoing transaction none) =
      some ({ system.put side { system.worker side with
          worker := .executing job (next (.ok transaction)) } with
          chain := system.chain.takeUp transaction effect },
        [.sent side transaction effect]) := by
  subst same
  exact step?_eq_some_iff.2 (.taken fresh (.intro asked))

end

namespace Sample

def setup : Setup := ⟨⟨.splat 20 0xdc, some (.splat 20 1)⟩, .splat 20 1, 100⟩

def posting : Posting := ⟨100, []⟩

def hash (n : UInt8) : Hash := .splat 32 n

def deposit (value : Word) : Outgoing :=
  Node.outgoing setup.account (setup.binding.candidate .deposit [] value)

def challenge : Outgoing :=
  Node.outgoing setup.account
    (setup.binding.candidate .challenge (Contract.postingArguments posting) 0)

def withdraw : Outgoing := Node.outgoing setup.account (setup.binding.candidate .withdraw [] 0)

def landed : Confirmation := .landed ⟨some 1, 101⟩

def begins (side : Side) (job : Job) : List Action :=
  [.worker side (.start false), .worker side (.schedule 0 job), .worker side .take]

def began (side : Side) (job : Job) : List Event :=
  [.worker side (.returned 0 job .queued), .worker side (.took job)]

def reads (balance : Word) : List Action :=
  [.call .challenging setup.bondSizeCall (.ok (Abi.encode [.word 100])),
    .call .challenging setup.balanceCall (.ok (Abi.encode [.word balance]))]

def topUp : List Action :=
  begins .challenging (.challenge posting) ++ reads 40 ++
    [.send .challenging (deposit 60) (hash 1) none, .execute (hash 1) false,
      .confirm .challenging (hash 1) landed, .send .challenging challenge (hash 2) none,
      .execute (hash 2) false]

def toppedUp : List Event :=
  began .challenging (.challenge posting) ++
    [.read .challenging 40, .sent .challenging (hash 1) (.deposit 60),
      .executed ⟨hash 1, .deposit 60, 40, false⟩, .sent .challenging (hash 2) .challenge]

/-- A withdrawal is executed between the read and the deposit. -/
def race : List Action :=
  begins .challenging (.challenge posting) ++ begins .withdrawing (.withdraw 101) ++ reads 40 ++
    [.call .withdrawing setup.balanceCall (.ok (Abi.encode [.word 40])),
      .send .withdrawing withdraw (hash 1) none, .execute (hash 1) false,
      .send .challenging (deposit 60) (hash 2) none, .execute (hash 2) false,
      .confirm .challenging (hash 2) landed, .send .challenging challenge (hash 3) none,
      .execute (hash 3) false]

def raced : List Event :=
  began .challenging (.challenge posting) ++ began .withdrawing (.withdraw 101) ++
    [.read .challenging 40, .read .withdrawing 40, .sent .withdrawing (hash 1) .withdraw,
      .executed ⟨hash 1, .withdraw, 40, false⟩, .sent .challenging (hash 2) (.deposit 60),
      .executed ⟨hash 2, .deposit 60, 0, false⟩, .sent .challenging (hash 3) .challenge]

/-- A challenge that nobody waits for any more is executed after the read of the next one. -/
def relay : List Action :=
  begins .challenging (.challenge posting) ++ reads 100 ++
    [.send .challenging challenge (hash 1) none,
      .confirm .challenging (hash 1) (.failed ⟨"timeout", []⟩), .worker .challenging .finish,
      .worker .challenging (.schedule 1 (.challenge posting)), .worker .challenging .take] ++
    reads 100 ++
    [.send .challenging challenge (hash 2) none, .execute (hash 1) false, .execute (hash 2) false]

def relayed : List Event :=
  began .challenging (.challenge posting) ++
    [.read .challenging 100, .sent .challenging (hash 1) .challenge,
      .worker .challenging (.ended (.challenge posting) .failed),
      .worker .challenging (.returned 1 (.challenge posting) .queued),
      .worker .challenging (.took (.challenge posting)), .read .challenging 100,
      .sent .challenging (hash 2) .challenge, .executed ⟨hash 1, .challenge, 100, false⟩]

theorem shows_topUp :
    Shows setup (.start 40) topUp
      (toppedUp ++ [.executed ⟨hash 2, .challenge, 100, false⟩]) := by
  refine .step rfl ?_ rfl
  refine .step rfl ?_ rfl
  refine .step rfl ?_ rfl
  refine .step (step?_bondSize rfl) ?_ rfl
  refine .step (step?_balance rfl) ?_ rfl
  refine .step (step?_send (Setup.effect_deposit _) (by decide) rfl) ?_ rfl
  refine .step rfl ?_ rfl
  refine .step (step?_eq_some_iff.2 (.confirmed rfl (.intro rfl))) ?_ rfl
  refine .step (step?_send (Setup.effect_challenge _) (by decide) rfl) ?_ rfl
  refine .step rfl ?_ rfl
  exact ⟨_, rfl⟩

theorem shows_race :
    Shows setup (.start 40) race (raced ++ [.executed ⟨hash 3, .challenge, 60, true⟩]) := by
  refine .step rfl ?_ rfl
  refine .step rfl ?_ rfl
  refine .step rfl ?_ rfl
  refine .step rfl ?_ rfl
  refine .step rfl ?_ rfl
  refine .step rfl ?_ rfl
  refine .step (step?_bondSize rfl) ?_ rfl
  refine .step (step?_balance rfl) ?_ rfl
  refine .step (step?_balance rfl) ?_ rfl
  refine .step (step?_send Setup.effect_withdraw (by decide) rfl) ?_ rfl
  refine .step rfl ?_ rfl
  refine .step (step?_send (Setup.effect_deposit _) (by decide) rfl) ?_ rfl
  refine .step rfl ?_ rfl
  refine .step (step?_eq_some_iff.2 (.confirmed rfl (.intro rfl))) ?_ rfl
  refine .step (step?_send (Setup.effect_challenge _) (by decide) rfl) ?_ rfl
  refine .step rfl ?_ rfl
  exact ⟨_, rfl⟩

theorem shows_relay :
    Shows setup (.start 100) relay (relayed ++ [.executed ⟨hash 2, .challenge, 0, true⟩]) := by
  refine .step rfl ?_ rfl
  refine .step rfl ?_ rfl
  refine .step rfl ?_ rfl
  refine .step (step?_bondSize rfl) ?_ rfl
  refine .step (step?_balance rfl) ?_ rfl
  refine .step (step?_send (Setup.effect_challenge _) (by decide) rfl) ?_ rfl
  refine .step (step?_eq_some_iff.2 (.confirmed rfl (.intro rfl))) ?_ rfl
  refine .step rfl ?_ rfl
  refine .step rfl ?_ rfl
  refine .step rfl ?_ rfl
  refine .step (step?_bondSize rfl) ?_ rfl
  refine .step (step?_balance rfl) ?_ rfl
  refine .step (step?_send (Setup.effect_challenge _) (by decide) rfl) ?_ rfl
  refine .step rfl ?_ rfl
  refine .step rfl ?_ rfl
  exact ⟨_, rfl⟩

end Sample

theorem challenge_funded_sample :
    ∃ last before read between later,
      run? Sample.setup (.start 40) Sample.topUp =
        some (last, Sample.toppedUp ++ [.executed ⟨Sample.hash 2, .challenge, 100, false⟩]) ∧
      Sample.toppedUp = before ++ .read .challenging read ::
        (between ++ .sent .challenging (Sample.hash 2) .challenge :: later) ∧
      Funded Sample.setup ⟨Sample.hash 2, .challenge, 100, false⟩ before read between later := by
  obtain ⟨last, run⟩ := Sample.shows_topUp
  obtain ⟨before, read, between, later, split, funded⟩ := challenge_funded run rfl
  exact ⟨last, before, read, between, later, run, split, funded⟩

/-- Neither of the two can be left out. -/
theorem challenge_left_short :
    ¬ (∀ (setup : Setup) (balance : Word) (actions : List Action) (last : System)
        (past rest : List Event) (execution : Execution),
        run? setup (.start balance) actions = some (last, past ++ .executed execution :: rest) →
        execution.effect = .challenge → total (Event.taken setup.bondSize) past = 0 →
        setup.bondSize ≤ execution.found) ∧
    ¬ (∀ (setup : Setup) (balance : Word) (actions : List Action) (last : System)
        (past rest : List Event) (execution : Execution),
        run? setup (.start balance) actions = some (last, past ++ .executed execution :: rest) →
        execution.effect = .challenge → total Event.paidOut past = 0 →
        setup.bondSize ≤ execution.found) := by
  constructor
  · intro claim
    obtain ⟨last, run⟩ := Sample.shows_race
    exact absurd (claim _ _ _ last _ [] _ run rfl rfl) (by decide)
  · intro claim
    obtain ⟨last, run⟩ := Sample.shows_relay
    exact absurd (claim _ _ _ last _ [] _ run rfl rfl) (by decide)

end ChallengeGame.Bonding
