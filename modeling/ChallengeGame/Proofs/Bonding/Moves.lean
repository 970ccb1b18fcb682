import ChallengeGame.Bonding
import ChallengeGame.Proofs.Scheduler.Moves
import ChallengeGame.Proofs.Steps

/-!
# What can happen to a bond

`Move` lists what an action can do to the two workers and the chain, with what has to hold before
and what is seen of it; `step?_eq_some_iff` says that the list is exact.
-/

namespace ChallengeGame.Bonding

open Contract (CallError)
open Node (Confirmation Outgoing)

variable {setup : Setup} {system last : System} {side other : Side} {action : Action}
  {shown : List Event}

/-! ## Workers -/

@[simp] theorem System.worker_put {worker : Worker} :
    (system.put side worker).worker side = worker := by
  cases side <;> rfl

theorem System.worker_put_of_ne {worker : Worker} (different : other ≠ side) :
    (system.put side worker).worker other = system.worker other := by
  cases side <;> cases other <;> first | rfl | exact absurd rfl different

@[simp] theorem System.chain_put {worker : Worker} :
    (system.put side worker).chain = system.chain := by
  cases side <;> rfl

@[simp] theorem System.worker_with_chain {chain : Chain} :
    ({ system with chain } : System).worker side = system.worker side := by
  cases side <;> rfl

/-- A worker goes on with the answer to the query that it has asked. -/
inductive Answered (system : System) (side : Side) (query : Query) (answer : query.Answer) :
    System → Prop where
  | intro {job : Job} {next : query.Answer → Working Scheduler.Ending} :
      (system.worker side).worker = .executing job (.ask query next) →
      Answered system side query answer
        (system.put side { system.worker side with worker := .executing job (next answer) })

theorem answer?_eq_some_iff {query : Query} {answer : query.Answer} :
    system.answer? setup side query answer = some last ↔
      Answered system side query answer last := by
  constructor
  · intro answered
    simp only [System.answer?, System.act?, Option.bind_eq_bind, Option.bind_eq_some_iff,
      Option.some.injEq] at answered
    obtain ⟨_, ⟨⟨worker, own⟩, stepped, rfl⟩, rfl⟩ := answered
    cases Scheduler.Move.of_step? stepped with
    | progressed executing => exact .intro executing
  · rintro ⟨executing⟩
    have move : Scheduler.Move (setup.crew side) (system.worker side) (.progress ⟨query, answer⟩)
      { system.worker side with worker := .executing _ (_) } [] := .progressed executing
    simp [System.answer?, System.act?, Scheduler.step?_eq_some_iff.2 move]

theorem Answered.chain_eq {query : Query} {answer : query.Answer}
    (answered : Answered system side query answer last) : last.chain = system.chain := by
  obtain ⟨_⟩ := answered
  exact System.chain_put

/-! ## The chain -/

inductive Executes (bondSize : Word) (transaction : Hash) (reverts : Bool) (chain : Chain) :
    Chain → Execution → Prop where
  | landed {effect : Effect} {balance : Word} :
      chain.pending? transaction = some effect → reverts = false →
      effect.leaves? bondSize chain.balance = some balance →
      Executes bondSize transaction reverts chain
        { chain.forget transaction with balance, landed := chain.landed ++ [transaction] }
        ⟨transaction, effect, chain.balance, false⟩
  | reverted {effect : Effect} :
      chain.pending? transaction = some effect →
      (reverts = false → effect.leaves? bondSize chain.balance = none) →
      Executes bondSize transaction reverts chain (chain.forget transaction)
        ⟨transaction, effect, chain.balance, true⟩

theorem execute?_eq_some_iff {bondSize : Word} {transaction : Hash} {reverts : Bool}
    {chain after : Chain} {execution : Execution} :
    chain.execute? bondSize transaction reverts = some (after, execution) ↔
      Executes bondSize transaction reverts chain after execution := by
  constructor
  · intro executed
    simp only [Chain.execute?, Option.bind_eq_bind, Option.bind_eq_some_iff] at executed
    obtain ⟨effect, pending, executed⟩ := executed
    split at executed
    · rename_i leaves
      cases executed
      exact .landed pending rfl leaves
    · rename_i fails
      cases executed
      refine .reverted pending ?_
      rintro rfl
      exact Option.eq_none_iff_forall_ne_some.2 fun balance leaves => fails balance rfl leaves
  · intro executes
    cases executes with
    | landed pending kept leaves => simp [Chain.execute?, pending, kept, leaves]
    | reverted pending fails =>
      cases reverts with
      | true => simp [Chain.execute?, pending]
      | false => simp [Chain.execute?, pending, fails rfl]

theorem Chain.mem_pool_of_pending? {transaction : Hash} {effect : Effect} {chain : Chain}
    (pending : chain.pending? transaction = some effect) : (transaction, effect) ∈ chain.pool := by
  obtain ⟨⟨found, _⟩, first, rfl⟩ := Option.map_eq_some_iff.1 pending
  have same : found = transaction := by simpa using List.find?_some first
  rw [← same]
  exact List.mem_of_find?_eq_some first

/-! ## Moves -/

inductive Move (setup : Setup) (system : System) : Action → System → List Event → Prop where
  | worked {side : Side} {action : Scheduler.Action Job Query Query.Answer} {worker : Worker}
      {own : List (Scheduler.Event Job)} :
      side.admits action = true →
      Scheduler.Move (setup.crew side) (system.worker side) action worker own →
      Move setup system (.worker side action) (system.put side worker) (own.map (.worker side))
  | called {side : Side} {call : Contract.Call} {reply : Except CallError Bytes} {after : System} :
      system.chain.mayReply setup call reply = true →
      Answered system side (.call call) reply after →
      Move setup system (.call side call reply) after
        (seen setup side call reply system.chain.balance)
  | taken {side : Side} {outgoing : Outgoing} {transaction : Hash} {failure? : Option Failure}
      {after : System} :
      transaction ∉ system.chain.known →
      Answered system side (.submission (.send outgoing)) (sendReply transaction failure?) after →
      Move setup system (.send side outgoing transaction failure?)
        { after with chain := system.chain.takeUp transaction (setup.effect outgoing) }
        [.sent side transaction (setup.effect outgoing)]
  | refused {side : Side} {outgoing : Outgoing} {failure : Failure} {after : System} :
      Answered system side (.submission (.send outgoing)) (.error failure : Except Failure Hash)
        after →
      Move setup system (.refuse side outgoing failure) after []
  | confirmed {side : Side} {transaction : Hash} {confirmation : Confirmation} {after : System} :
      system.chain.mayConfirm transaction confirmation = true →
      Answered system side (.submission (.confirm transaction)) confirmation after →
      Move setup system (.confirm side transaction confirmation) after []
  | executed {transaction : Hash} {reverts : Bool} {chain : Chain} {execution : Execution} :
      Executes setup.bondSize transaction reverts system.chain chain execution →
      Move setup system (.execute transaction reverts) { system with chain } [.executed execution]
  | lost {transaction : Hash} {effect : Effect} :
      system.chain.pending? transaction = some effect →
      Move setup system (.lose transaction)
        { system with chain := system.chain.forget transaction } [.lost transaction]

theorem Move.of_step? (stepped : step? setup system action = some (last, shown)) :
    Move setup system action last shown := by
  cases action with
  | worker side action =>
    simp only [step?] at stepped
    split at stepped
    · rename_i admitted
      simp only [System.act?, Option.bind_eq_bind, Option.bind_eq_some_iff, Option.some.injEq,
        Prod.mk.injEq] at stepped
      obtain ⟨⟨worker, own⟩, stepped, rfl, rfl⟩ := stepped
      exact .worked admitted (Scheduler.Move.of_step? stepped)
    · cases stepped
  | call side call reply =>
    simp only [step?] at stepped
    split at stepped
    · rename_i fine
      simp only [Option.bind_eq_bind, Option.bind_eq_some_iff, Option.some.injEq,
        Prod.mk.injEq] at stepped
      obtain ⟨after, answered, rfl, rfl⟩ := stepped
      exact .called fine (answer?_eq_some_iff.1 answered)
    · cases stepped
  | send side outgoing transaction failure? =>
    simp only [step?] at stepped
    split at stepped
    · cases stepped
    · rename_i fresh
      simp only [Option.bind_eq_bind, Option.bind_eq_some_iff, Option.some.injEq,
        Prod.mk.injEq] at stepped
      obtain ⟨after, answered, rfl, rfl⟩ := stepped
      have answered := answer?_eq_some_iff.1 answered
      rw [answered.chain_eq]
      exact .taken fresh answered
  | refuse side outgoing failure =>
    simp only [step?, Option.bind_eq_bind, Option.bind_eq_some_iff, Option.some.injEq,
      Prod.mk.injEq] at stepped
    obtain ⟨after, answered, rfl, rfl⟩ := stepped
    exact .refused (answer?_eq_some_iff.1 answered)
  | confirm side transaction confirmation =>
    simp only [step?] at stepped
    split at stepped
    · rename_i fine
      simp only [Option.bind_eq_bind, Option.bind_eq_some_iff, Option.some.injEq,
        Prod.mk.injEq] at stepped
      obtain ⟨after, answered, rfl, rfl⟩ := stepped
      exact .confirmed fine (answer?_eq_some_iff.1 answered)
    · cases stepped
  | execute transaction reverts =>
    simp only [step?, Option.bind_eq_bind, Option.bind_eq_some_iff, Option.some.injEq,
      Prod.mk.injEq] at stepped
    obtain ⟨⟨chain, execution⟩, executed, rfl, rfl⟩ := stepped
    exact .executed (execute?_eq_some_iff.1 executed)
  | lose transaction =>
    simp only [step?, Option.bind_eq_bind, Option.bind_eq_some_iff, Option.some.injEq,
      Prod.mk.injEq] at stepped
    obtain ⟨_, pending, rfl, rfl⟩ := stepped
    exact .lost pending

theorem step?_eq_some_iff :
    step? setup system action = some (last, shown) ↔ Move setup system action last shown := by
  refine ⟨Move.of_step?, fun move => ?_⟩
  cases move with
  | worked admitted move =>
    simp [step?, admitted, System.act?, Scheduler.step?_eq_some_iff.2 move]
  | called fine answered => simp [step?, fine, answer?_eq_some_iff.2 answered]
  | taken fresh answered =>
    simp [step?, fresh, answer?_eq_some_iff.2 answered, answered.chain_eq]
  | refused answered => simp [step?, answer?_eq_some_iff.2 answered]
  | confirmed fine answered => simp [step?, fine, answer?_eq_some_iff.2 answered]
  | executed executes => simp [step?, execute?_eq_some_iff.2 executes]
  | lost pending => simp [step?, pending]

theorem seen_cases (setup : Setup) (side : Side) (call : Contract.Call)
    (reply : Except CallError Bytes) (balance : Word) :
    seen setup side call reply balance = [] ∨
      seen setup side call reply balance = [.read side balance] := by
  unfold seen
  split
  · split
    · exact .inr rfl
    · exact .inl rfl
  · exact .inl rfl

theorem Move.executes {before after : List Event} {execution : Execution}
    (move : Move setup system action last (before ++ .executed execution :: after)) :
    before = [] ∧ ∃ transaction reverts chain,
      Executes setup.bondSize transaction reverts system.chain chain execution := by
  generalize same : before ++ .executed execution :: after = shown at move
  have mem : Event.executed execution ∈ shown := by simp [← same]
  cases move with
  | worked => simp at mem
  | @called side call reply =>
    rcases seen_cases setup side call reply system.chain.balance with none | one
    · simp [none] at mem
    · simp [one] at mem
  | taken => simp at mem
  | refused => cases mem
  | confirmed => cases mem
  | executed executes =>
    cases before with
    | nil =>
      obtain ⟨rfl, _⟩ : _ ∧ after = [] := by simpa using same
      exact ⟨rfl, _, _, _, executes⟩
    | cons first before => simp at same
  | lost => simp at mem

theorem run?_eq (setup : Setup) (system : System) (actions : List Action) :
    run? setup system actions = Steps.run? (step? setup) system actions := by
  induction actions generalizing system with
  | nil => rfl
  | cons action rest ih => simp only [run?, Steps.run?, ih]

end ChallengeGame.Bonding
