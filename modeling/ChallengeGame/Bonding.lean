import ChallengeGame.Contract.Binding
import ChallengeGame.Crew
import ChallengeGame.Node.Submission

/-!
# Bonds on the chain

The member of a crew that challenges and the one that withdraws send their transactions from
one account, and the contract keeps one balance for it. They know this balance only from
calls, so it may have changed before a transaction is executed. A transaction that a node has
taken up is executed at any later time or lost; nothing is said about the order, and a worker
may go on without it once the wait for it has failed.

The contract credits a deposit, takes the bond of a challenge out of the balance, and pays
the whole balance out to a withdrawal. Anything may revert for reasons of its own.
-/

namespace ChallengeGame.Bonding

open Contract (Binding Call CallError Method callData)
open Node (Confirmation Outgoing SubmissionQuery)

/-! ## Two workers of one account -/

structure Setup where
  binding : Binding
  account : Address
  bondSize : Word

inductive Query where
  | call (call : Call)
  | submission (query : SubmissionQuery)
deriving DecidableEq

abbrev Query.Answer : Query → Type
  | call request => request.Reply
  | submission query => query.Answer

abbrev Working := Program Query Query.Answer

abbrev Worker := Scheduler Job Query Query.Answer

inductive Side where
  | challenging
  | withdrawing
deriving DecidableEq

def Side.kind : Side → ActionKind
  | challenging => .challenge
  | withdrawing => .withdraw

namespace Setup

def carryOut (setup : Setup) : (query : ExecutionQuery) → Working query.Answer
  | .contract request =>
    (setup.binding.respond request).handle fun call => Program.query (Query.call call)
  | .submit purpose candidates =>
    (Node.submit setup.account purpose candidates).handle fun query =>
      Program.query (Query.submission query)

def crew (setup : Setup) (side : Side) : Scheduler.Setup Job Query Query.Answer :=
  let member := Crew.setup setup.account side.kind
  { kind := member.kind
    policy := member.policy
    execute := fun job => (member.execute job).handle setup.carryOut }

end Setup

/-! ## The contract -/

inductive Effect where
  | deposit (value : Word)
  | challenge
  | withdraw
  | other
deriving DecidableEq

namespace Effect

/-- The balance after a transaction that does not revert. -/
def leaves? (bondSize balance : Word) : Effect → Option Word
  | deposit value =>
    if balance.toNat + value.toNat < Word.size then some (balance + value) else none
  | challenge => if bondSize ≤ balance then some (balance - bondSize) else none
  | withdraw => some 0
  | other => some balance

end Effect

namespace Setup

/-- The effect of a transaction, told by the method that its call data names. -/
def effect (setup : Setup) (outgoing : Outgoing) : Effect :=
  let method := outgoing.data.take 4
  -- what others do is about balances of their own
  if outgoing.sender ≠ setup.account ∨ outgoing.to? ≠ some setup.binding.address then .other
  else if method = Method.selector .deposit then .deposit outgoing.value
  else if method = Method.selector .challenge then .challenge
  else if method = Method.selector .withdraw then .withdraw
  else .other

def asksBondSize (setup : Setup) (call : Call) : Bool :=
  call.target = setup.binding.address && call.data = callData .bondSize []

def asksBalance (setup : Setup) (call : Call) : Bool :=
  call.target = setup.binding.address && call.data = callData .balances [.address setup.account]

end Setup

/-! ## The chain -/

structure Chain where
  balance : Word
  /-- transactions that are under way -/
  pool : List (Hash × Effect)
  /-- all transactions that were ever taken up -/
  known : List Hash
  /-- transactions that were executed and did not revert -/
  landed : List Hash

structure Execution where
  transaction : Hash
  effect : Effect
  /-- the balance before it -/
  found : Word
  reverted : Bool
deriving DecidableEq

namespace Chain

def start (balance : Word) : Chain := ⟨balance, [], [], []⟩

/-- The output of the calls about bonds. The other calls are left open. -/
def output? (setup : Setup) (call : Call) (chain : Chain) : Option Bytes :=
  if setup.asksBondSize call then some (Abi.encode [.word setup.bondSize])
  else if setup.asksBalance call then some (Abi.encode [.word chain.balance])
  else none

/-- A call may fail, and otherwise tells the truth. -/
def mayReply (setup : Setup) (call : Call) (reply : Except CallError Bytes) (chain : Chain) :
    Bool :=
  match reply, chain.output? setup call with
  | .ok output, some expected => output = expected
  | _, _ => true

/-- A wait may fail, and otherwise the transaction has landed. -/
def mayConfirm (transaction : Hash) (confirmation : Confirmation) (chain : Chain) : Bool :=
  match confirmation with
  | .landed receipt => receipt.status? ≠ some 1 || chain.landed.contains transaction
  | _ => true

def takeUp (transaction : Hash) (effect : Effect) (chain : Chain) : Chain :=
  { chain with
    pool := chain.pool ++ [(transaction, effect)]
    known := chain.known ++ [transaction] }

def forget (transaction : Hash) (chain : Chain) : Chain :=
  { chain with pool := chain.pool.filter (·.1 ≠ transaction) }

def pending? (transaction : Hash) (chain : Chain) : Option Effect :=
  (chain.pool.find? (·.1 = transaction)).map (·.2)

def execute? (bondSize : Word) (transaction : Hash) (reverts : Bool) (chain : Chain) :
    Option (Chain × Execution) := do
  let effect ← chain.pending? transaction
  let rest := chain.forget transaction
  match reverts, effect.leaves? bondSize chain.balance with
  | false, some balance =>
    some ({ rest with balance, landed := chain.landed ++ [transaction] },
      ⟨transaction, effect, chain.balance, false⟩)
  | _, _ => some (rest, ⟨transaction, effect, chain.balance, true⟩)

end Chain

/-! ## Steps -/

inductive Event where
  | worker (side : Side) (event : Scheduler.Event Job)
  /-- a worker has learnt the balance -/
  | read (side : Side) (balance : Word)
  | sent (side : Side) (transaction : Hash) (effect : Effect)
  | executed (execution : Execution)
  | lost (transaction : Hash)
deriving DecidableEq

inductive Action where
  /-- anything about a worker except what its node answers -/
  | worker (side : Side) (action : Scheduler.Action Job Query Query.Answer)
  | call (side : Side) (call : Call) (reply : Except CallError Bytes)
  /-- the node takes a transaction up, though the worker may not learn about it -/
  | send (side : Side) (outgoing : Outgoing) (transaction : Hash) (failure? : Option Failure)
  | refuse (side : Side) (outgoing : Outgoing) (failure : Failure)
  | confirm (side : Side) (transaction : Hash) (confirmation : Confirmation)
  | execute (transaction : Hash) (reverts : Bool)
  | lose (transaction : Hash)

structure System where
  challenging : Worker
  withdrawing : Worker
  chain : Chain

abbrev Stepped := System × List Event

/-- A worker gets jobs of its own kind, and answers from its node only. -/
def Side.admits (side : Side) : Scheduler.Action Job Query Query.Answer → Bool
  | .schedule _ job => job.kind = side.kind
  | .progress _ => false
  | _ => true

def sendReply (transaction : Hash) : Option Failure → Except Failure Hash
  | none => .ok transaction
  | some failure => .error failure

/-- What is seen of a call: the balance, if it was asked for. -/
def seen (setup : Setup) (side : Side) (call : Call) (reply : Except CallError Bytes)
    (balance : Word) : List Event :=
  match reply with
  | .ok _ => if setup.asksBalance call then [.read side balance] else []
  | .error _ => []

namespace System

def start (balance : Word) : System := ⟨Scheduler.new, Scheduler.new, Chain.start balance⟩

def worker (side : Side) (system : System) : Worker :=
  match side with
  | .challenging => system.challenging
  | .withdrawing => system.withdrawing

def put (side : Side) (worker : Worker) (system : System) : System :=
  match side with
  | .challenging => { system with challenging := worker }
  | .withdrawing => { system with withdrawing := worker }

def act? (setup : Setup) (side : Side) (action : Scheduler.Action Job Query Query.Answer)
    (system : System) : Option Stepped := do
  let (worker, shown) ← (system.worker side).step? (setup.crew side) action
  some (system.put side worker, shown.map (.worker side))

def answer? (setup : Setup) (side : Side) (query : Query) (answer : query.Answer)
    (system : System) : Option System := do
  let (system, _) ← system.act? setup side (.progress ⟨query, answer⟩)
  some system

end System

def step? (setup : Setup) (system : System) : Action → Option Stepped
  | .worker side action => if side.admits action then system.act? setup side action else none
  | .call side call reply =>
    if system.chain.mayReply setup call reply then do
      let after ← system.answer? setup side (.call call) reply
      some (after, seen setup side call reply system.chain.balance)
    else none
  -- a hash is never used twice
  | .send side outgoing transaction failure? =>
    if transaction ∈ system.chain.known then none
    else do
      let after ← system.answer? setup side (.submission (.send outgoing))
        (sendReply transaction failure?)
      let effect := setup.effect outgoing
      some ({ after with chain := after.chain.takeUp transaction effect },
        [.sent side transaction effect])
  | .refuse side outgoing failure => do
    let after ← system.answer? setup side (.submission (.send outgoing))
      (.error failure : Except Failure Hash)
    some (after, [])
  | .confirm side transaction confirmation =>
    if system.chain.mayConfirm transaction confirmation then do
      let after ← system.answer? setup side (.submission (.confirm transaction)) confirmation
      some (after, [])
    else none
  | .execute transaction reverts => do
    let (chain, execution) ← system.chain.execute? setup.bondSize transaction reverts
    some ({ system with chain }, [.executed execution])
  | .lose transaction => do
    let _ ← system.chain.pending? transaction
    some ({ system with chain := system.chain.forget transaction }, [.lost transaction])

def run? (setup : Setup) : System → List Action → Option Stepped
  | system, [] => some (system, [])
  | system, action :: rest => do
    let (system, shown) ← step? setup system action
    let (system, later) ← run? setup system rest
    some (system, shown ++ later)

end ChallengeGame.Bonding
