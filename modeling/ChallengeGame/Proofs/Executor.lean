import ChallengeGame.Executor
import ChallengeGame.Proofs.Requests
import ChallengeGame.Proofs.Trace

/-!
# Executions are all or nothing

An execution puts questions to the contract until one of them fails or leaves nothing to do. Only
if none does is anything handed to the sender: everything that the contract has made for it, at
once and as the last step. `all_or_nothing` says so of every job and of whatever the contract and
the sender answer.
-/

namespace ChallengeGame.Executor

open Contract (Request)

abbrev Exchange := Program.Exchange ExecutionQuery ExecutionQuery.Answer

abbrev asked (request : Request) (reply : request.Reply) : Exchange := ⟨.contract request, reply⟩

abbrev handed (purpose : String) (candidates : List Candidate) (reply : Except Failure Unit) :
    Exchange :=
  ⟨.submit purpose candidates, reply⟩

def afterSending (context : String) : Except Failure Unit → Except Failure Outcome
  | .ok _ => .ok .submitted
  | .error failure => .error (failure.under context)

/-! ## Steps of an execution -/

section
variable {α β : Type} {context : String} {trace : List Exchange}

theorem run_require (context : String) (request : Request) :
    (require context request).run =
      (ask request >>= fun reply => .done (reply.mapError fun error => error.failure.under context)) := by
  unfold require
  refine congrArg (Program.ask _) (funext fun reply => ?_)
  cases reply <;> rfl

theorem run_submit (context : String) (kind : ActionKind) (candidates : List Candidate) :
    (submit context kind candidates).run =
      (hand kind.purpose candidates >>= fun reply => .done (afterSending context reply)) := by
  refine congrArg (Program.ask _) (funext fun reply => ?_)
  cases reply <;> rfl

theorem yields_pure {value : α} {result : Except Failure α} :
    Program.Yields (pure value : Attempt α).run trace result ↔ trace = [] ∧ result = .ok value :=
  Program.yields_done

theorem yields_require {request : Request} {next : request.Answer → Attempt β}
    {result : Except Failure β} :
    Program.Yields (require context request >>= next).run trace result ↔
      (∃ error, trace = [asked request (.error error)] ∧
        result = .error (error.failure.under context)) ∨
      ∃ answer rest, trace = asked request (.ok answer) :: rest ∧
        Program.Yields (next answer).run rest result := by
  rw [ExceptT.run_bind, run_require]
  refine Program.yields_ask.trans ?_
  constructor
  · rintro ⟨reply, rest, rfl, run⟩
    cases reply with
    | error error =>
      obtain ⟨rfl, rfl⟩ := Program.yields_done.1 run
      exact .inl ⟨error, rfl, rfl⟩
    | ok answer => exact .inr ⟨answer, rest, rfl, run⟩
  · rintro (⟨error, rfl, rfl⟩ | ⟨answer, rest, rfl, run⟩)
    · exact ⟨.error error, [], rfl, .done _⟩
    · exact ⟨.ok answer, rest, rfl, run⟩

theorem yields_submit {kind : ActionKind} {candidates : List Candidate}
    {result : Except Failure Outcome} :
    Program.Yields (submit context kind candidates).run trace result ↔
      ∃ reply, trace = [handed kind.purpose candidates reply] ∧
        result = afterSending context reply := by
  rw [run_submit]
  refine Program.yields_ask.trans ?_
  constructor
  · rintro ⟨reply, rest, rfl, run⟩
    obtain ⟨rfl, rfl⟩ := Program.yields_done.1 run
    exact ⟨reply, rfl, rfl⟩
  · rintro ⟨reply, rfl, rfl⟩
    exact ⟨reply, [], rfl, .done _⟩

end

theorem run_unlock (posting : Posting) : (unlock posting).run =
    (ask (.unlockBond posting) >>= fun reply =>
      match reply with
      | .ok candidate => (submit "failed to unlock bond" .unlock [candidate]).run
      | .error (.simulationFailed _ _) => .done (.ok .skipped)
      | .error error =>
        .done (.error (error.failure.under "failed to create candidate unlock bond tx"))) := by
  unfold unlock
  refine congrArg (Program.ask _) (funext fun reply => ?_)
  cases reply with
  | ok candidate => rfl
  | error error => cases error <;> rfl

/-! ## Executions in terms of other programs -/

section
variable {Lower : Type} {LowerAnswer : Lower → Type}
  {handler : (query : ExecutionQuery) → Program Lower LowerAnswer query.Answer}

theorem handle_ask (request : Request) :
    (ask request).handle handler = handler (.contract request) := Program.handle_query _

theorem handle_hand (purpose : String) (candidates : List Candidate) :
    (hand purpose candidates).handle handler = handler (.submit purpose candidates) :=
  Program.handle_query _

/-- A request that needs no question of its own leaves nothing behind but its answer. -/
theorem carries_made_iff {request : Request} {answer made : request.Answer}
    {inner : List Exchange} {trace : List (Program.Exchange Lower LowerAnswer)}
    (responds : handler (.contract request) = .done (.ok made)) :
    Program.Carries handler (asked request (.ok answer) :: inner) trace ↔
      answer = made ∧ Program.Carries handler inner trace := by
  refine Program.carries_cons_iff.trans ?_
  rw [responds]
  constructor
  · rintro ⟨own, rest, rfl, run, carries⟩
    obtain ⟨rfl, same⟩ := Program.yields_done.1 run
    cases same
    exact ⟨rfl, carries⟩
  · rintro ⟨rfl, carries⟩
    exact ⟨[], trace, rfl, .done _, carries⟩

end

/-! ## What is missing to a bond -/

theorem missing_eq_none_iff {bondSize balance : Word} :
    missing bondSize balance = none ↔ bondSize.toNat ≤ balance.toNat := by
  simp [missing, BitVec.lt_def]

/-- The guard keeps the difference of the words that of their numbers. -/
theorem missing_eq_some_iff {bondSize balance value : Word} :
    missing bondSize balance = some value ↔
      0 < value.toNat ∧ balance.toNat + value.toNat = bondSize.toNat := by
  unfold missing
  split
  · rename_i short
    have less : balance.toNat < bondSize.toNat := short
    have difference : (bondSize - balance).toNat = bondSize.toNat - balance.toNat :=
      BitVec.toNat_sub_of_le (Nat.le_of_lt less)
    rw [Option.some.injEq, ← BitVec.toNat_inj, difference]
    omega
  · rename_i enough
    have most : bondSize.toNat ≤ balance.toNat := Nat.le_of_not_lt enough
    exact iff_of_false nofun (by omega)

/-! ## What a job asks for -/

/-- The bond is still locked, or there is nothing to withdraw. -/
inductive Idle (account : Address) : Job → Exchange → Prop
  | locked {posting : Posting} {method : Contract.Method} {reason : String} :
    Idle account (.unlock posting)
      (asked (.unlockBond posting) (.error (.simulationFailed method reason)))
  | empty {height : BlockNumber} :
    Idle account (.withdraw height) (asked (.balance account) (.ok (0 : Word)))

/-- The requests of an execution that is carried through. A challenge may need a deposit. -/
inductive Plan (account : Address) : Job → List Request → Prop
  | challenge (posting : Posting) (deposit? : Option Word) :
    Plan account (.challenge posting)
      ([.bondSize, .balance account] ++ (deposit?.map .deposit).toList ++ [.challenge posting])
  | resolve (resolution : Resolution) : Plan account (.resolve resolution) [.resolve resolution]
  | unlock (posting : Posting) : Plan account (.unlock posting) [.unlockBond posting]
  | withdraw (height : BlockNumber) : Plan account (.withdraw height) [.balance account, .withdraw]

/-- The requests are those of a plan, as far as it was followed. -/
def Planned (account : Address) (job : Job) (requests : List Request) : Prop :=
  ∃ plan, Plan account job plan ∧ requests <+: plan

def request? : Exchange → Option Request
  | ⟨.contract request, _⟩ => some request
  | ⟨.submit _ _, _⟩ => none

def requests (trace : List Exchange) : List Request := trace.filterMap request?

def candidate? : Exchange → Option Candidate
  | ⟨.contract request, reply⟩ => request.candidate? reply
  | ⟨.submit _ _, _⟩ => none

@[simp] theorem requests_nil : requests [] = [] := rfl

@[simp] theorem requests_asked (request : Request) (reply : request.Reply)
    (trace : List Exchange) : requests (asked request reply :: trace) = request :: requests trace :=
  rfl

@[simp] theorem requests_handed (purpose : String) (candidates : List Candidate)
    (reply : Except Failure Unit) (trace : List Exchange) :
    requests (handed purpose candidates reply :: trace) = requests trace := rfl

@[simp] theorem requests_append (first second : List Exchange) :
    requests (first ++ second) = requests first ++ requests second := List.filterMap_append

def made (trace : List Exchange) : List Candidate := trace.filterMap candidate?

def isHandover : Exchange → Bool
  | ⟨.contract _, _⟩ => false
  | ⟨.submit _ _, _⟩ => true

inductive Fails : Exchange → Failure → Prop
  | contract (request : Request) (error : ContractError) :
    Fails (asked request (.error error)) error.failure
  | sender (purpose : String) (candidates : List Candidate) (failure : Failure) :
    Fails (handed purpose candidates (.error failure)) failure

/-! ## How an execution ends -/

section
variable {account : Address} {job : Job} {before trace : List Exchange} {last : Exchange}
  {result : Except Failure Outcome} {request : Request} {context : String}

def Answered (account : Address) (job : Job) (exchange : Exchange) : Prop :=
  ∃ request answer, exchange = asked request (.ok answer) ∧ ¬ Idle account job exchange

/-- The last exchange of an execution, after others. -/
inductive Ending (account : Address) (job : Job) (before : List Exchange) :
    Exchange → Except Failure Outcome → Prop
  | idle {last : Exchange} :
    Idle account job last → Planned account job (requests (before ++ [last])) →
    Ending account job before last (.ok .skipped)
  | failed {request : Request} {error : ContractError} {context : String} :
    ¬ Idle account job (asked request (.error error)) →
    Planned account job (requests (before ++ [asked request (.error error)])) →
    Ending account job before (asked request (.error error)) (.error (error.failure.under context))
  | sent {reply : Except Failure Unit} {context : String} :
    Plan account job (requests before) →
    Ending account job before (handed job.kind.purpose (made before) reply)
      (afterSending context reply)

/-- The rest of an execution: answers, and then its end. -/
def Concludes (account : Address) (job : Job) (before trace : List Exchange)
    (result : Except Failure Outcome) : Prop :=
  ∃ answered last, trace = answered ++ [last] ∧
    (∀ exchange ∈ answered, Answered account job exchange) ∧
    Ending account job (before ++ answered) last result

theorem Ending.concludes (ending : Ending account job before last result) :
    Concludes account job before [last] result :=
  ⟨[], last, rfl, by simp, by simpa using ending⟩

theorem Concludes.cons {exchange : Exchange} (answered : Answered account job exchange)
    (rest : Concludes account job (before ++ [exchange]) trace result) :
    Concludes account job before (exchange :: trace) result := by
  obtain ⟨others, last, rfl, fine, ending⟩ := rest
  exact ⟨exchange :: others, last, rfl, by simpa [answered] using fine, by simpa using ending⟩

/-- Whatever is answered, the execution goes on like this. -/
def Orderly (account : Address) (job : Job) (before : List Exchange) (attempt : Attempt Outcome) :
    Prop :=
  ∀ trace result, Program.Yields attempt.run trace result →
    Concludes account job before trace result

theorem Orderly.require {next : request.Answer → Attempt Outcome}
    (needed : ∀ error, ¬ Idle account job (asked request (.error error)))
    (planned : Planned account job (requests before ++ [request]))
    (onward : ∀ answer,
      Idle account job (asked request (.ok answer)) ∧ next answer = pure .skipped ∨
        ¬ Idle account job (asked request (.ok answer)) ∧
          Orderly account job (before ++ [asked request (.ok answer)]) (next answer)) :
    Orderly account job before (Executor.require context request >>= next) := by
  intro trace result run
  have planned (reply : request.Reply) :
      Planned account job (requests (before ++ [asked request reply])) := by
    simpa using planned
  rcases yields_require.1 run with ⟨error, rfl, rfl⟩ | ⟨answer, rest, rfl, tail⟩
  · exact (Ending.failed (needed error) (planned _)).concludes
  · rcases onward answer with ⟨idle, skips⟩ | ⟨busy, orderly⟩
    · rw [skips] at tail
      obtain ⟨rfl, rfl⟩ := yields_pure.1 tail
      exact (Ending.idle idle (planned _)).concludes
    · exact (orderly rest result tail).cons ⟨request, answer, rfl, busy⟩

theorem Orderly.submit (plan : Plan account job (requests before)) :
    Orderly account job before (Executor.submit context job.kind (made before)) := by
  intro trace result run
  obtain ⟨reply, rfl, rfl⟩ := yields_submit.1 run
  exact (Ending.sent plan).concludes

end

/-! ## The four kinds of jobs -/

section
variable {account : Address} {posting : Posting} {trace : List Exchange}
  {result : Except Failure Outcome}

theorem orderly_challenge :
    Orderly account (.challenge posting) [] (challenge account posting) := by
  have busy (exchange : Exchange) : ¬ Idle account (.challenge posting) exchange := nofun
  have planned (deposit? : Option Word) {requests : List Request}
      (followed : requests <+: [.bondSize, .balance account] ++
        (deposit?.map .deposit).toList ++ [.challenge posting]) :
      Planned account (.challenge posting) requests :=
    ⟨_, .challenge posting deposit?, followed⟩
  unfold challenge
  refine Orderly.require (fun _ => busy _) (planned none ⟨_, rfl⟩) fun bondSize => .inr ⟨busy _, ?_⟩
  refine Orderly.require (fun _ => busy _) (planned none ⟨_, rfl⟩) fun balance => .inr ⟨busy _, ?_⟩
  -- what is missing is asked for before the challenge
  cases missing bondSize balance with
  | none =>
    refine Orderly.require (fun _ => busy _) (planned none ⟨_, rfl⟩) fun candidate =>
      .inr ⟨busy _, ?_⟩
    exact .submit (.challenge posting none)
  | some value =>
    refine Orderly.require (fun _ => busy _) (planned (some value) ⟨_, rfl⟩) fun deposit =>
      .inr ⟨busy _, ?_⟩
    refine Orderly.require (fun _ => busy _) (planned (some value) ⟨_, rfl⟩) fun candidate =>
      .inr ⟨busy _, ?_⟩
    exact .submit (.challenge posting (some value))

theorem orderly_resolve {resolution : Resolution} :
    Orderly account (.resolve resolution) [] (resolve resolution) := by
  unfold resolve
  refine Orderly.require nofun ⟨_, .resolve resolution, ⟨_, rfl⟩⟩ fun candidate => .inr ⟨nofun, ?_⟩
  exact .submit (.resolve resolution)

theorem orderly_unlock : Orderly account (.unlock posting) [] (unlock posting) := by
  have planned (reply : Request.Reply (.unlockBond posting)) :
      Planned account (.unlock posting) (requests ([] ++ [asked (.unlockBond posting) reply])) :=
    ⟨_, .unlock posting, ⟨_, rfl⟩⟩
  intro trace result run
  rw [run_unlock] at run
  obtain ⟨reply, rest, rfl, tail⟩ := Program.yields_ask.1 run
  cases reply with
  | ok candidate =>
    have orderly : Orderly account (.unlock posting) [asked (.unlockBond posting) (.ok candidate)]
        (submit "failed to unlock bond" .unlock [candidate]) := .submit (.unlock posting)
    exact (orderly rest result tail).cons ⟨.unlockBond posting, candidate, rfl, nofun⟩
  | error error =>
    cases error with
    | simulationFailed method reason =>
      obtain ⟨rfl, rfl⟩ := Program.yields_done.1 tail
      exact (Ending.idle .locked (planned _)).concludes
    | unsupportedVersion _ | decode _ _ | encode _ _ | call _ _ =>
      obtain ⟨rfl, rfl⟩ := Program.yields_done.1 tail
      exact (Ending.failed (by rintro ⟨⟩) (planned _)).concludes

theorem orderly_withdraw {height : BlockNumber} :
    Orderly account (.withdraw height) [] (withdraw account) := by
  unfold withdraw
  refine Orderly.require nofun ⟨_, .withdraw height, ⟨_, rfl⟩⟩ fun (balance : Word) => ?_
  by_cases empty : balance = 0
  · subst empty
    exact .inl ⟨.empty, if_pos rfl⟩
  · refine .inr ⟨?_, ?_⟩
    · rintro ⟨⟩; exact empty rfl
    · rw [if_neg empty]
      refine Orderly.require nofun ⟨_, .withdraw height, ⟨_, rfl⟩⟩ fun candidate => .inr ⟨nofun, ?_⟩
      exact .submit (.withdraw height)

theorem execute_concludes {job : Job} (run : Program.Yields (execute account job) trace result) :
    Concludes account job [] trace result := by
  cases job with
  | challenge posting => exact orderly_challenge trace result run
  | resolve resolution => exact orderly_resolve trace result run
  | unlock posting => exact orderly_unlock trace result run
  | withdraw height => exact orderly_withdraw trace result run

end

/-! ## All or nothing -/

/-- What was handed to the sender, and what came of it. -/
structure AllOrNothing (account : Address) (job : Job) (trace : List Exchange)
    (result : Except Failure Outcome) : Prop where
  once : trace.countP isHandover ≤ 1
  unfailing : ∀ exchange ∈ trace, isHandover exchange = true →
    ∀ request error, asked request (.error error) ∉ trace
  unskipped : result = .ok .skipped → ∀ exchange ∈ trace, isHandover exchange = false
  submitted_iff : result = .ok .submitted ↔
    ∃ purpose candidates, handed purpose candidates (.ok ()) ∈ trace
  skipped_iff : result = .ok .skipped ↔ ∃ exchange ∈ trace, Idle account job exchange
  /-- The causes of an error end in those of the contract or of the sender. -/
  told : ∀ failure, result = .error failure → ∃ exchange ∈ trace, ∃ cause context,
    Fails exchange cause ∧ failure.chain = context :: cause.chain
  halted : ∀ before request error after,
    trace = before ++ asked request (.error error) :: after → after = []
  planned : Planned account job (requests trace)
  /-- All that the contract has made is handed over at once. -/
  batch : ∀ purpose candidates reply, handed purpose candidates reply ∈ trace →
    purpose = job.kind.purpose ∧ candidates = made trace ∧ Plan account job (requests trace)
  resolution : ∀ resolution, job = .resolve resolution → requests trace = [.resolve resolution]

section
variable {account : Address} {job : Job} {before answered : List Exchange} {last : Exchange}
  {result : Except Failure Outcome} {context : String} {reply : Except Failure Unit}

theorem afterSending_eq_submitted : afterSending context reply = .ok .submitted ↔ reply = .ok () := by
  cases reply <;> simp [afterSending]

theorem afterSending_ne_skipped : afterSending context reply ≠ .ok .skipped := by
  cases reply <;> simp [afterSending]

theorem Answered.isHandover_eq_false {exchange : Exchange} (fine : Answered account job exchange) :
    isHandover exchange = false := by
  obtain ⟨request, answer, rfl, -⟩ := fine
  rfl

theorem Answered.ne_error {request : Request} {error : ContractError} :
    ¬ Answered account job (asked request (.error error)) := by
  rintro ⟨_, answer, same, -⟩
  cases same

theorem Idle.isHandover_eq_false {exchange : Exchange} (idle : Idle account job exchange) :
    isHandover exchange = false := by
  cases idle <;> rfl

theorem Ending.eq_skipped_iff (ending : Ending account job before last result) :
    result = .ok .skipped ↔ Idle account job last := by
  cases ending with
  | idle idle planned => exact iff_of_true rfl idle
  | failed busy planned => exact iff_of_false nofun busy
  | sent plan => exact iff_of_false afterSending_ne_skipped (by rintro ⟨⟩)

theorem Ending.eq_submitted_iff (ending : Ending account job before last result) :
    result = .ok .submitted ↔ ∃ purpose candidates, last = handed purpose candidates (.ok ()) := by
  cases ending with
  | idle idle planned =>
    refine iff_of_false nofun ?_
    rintro ⟨purpose, candidates, rfl⟩
    cases idle
  | failed busy planned => exact iff_of_false nofun (by rintro ⟨_, _, ⟨⟩⟩)
  | sent plan =>
    rw [afterSending_eq_submitted]
    constructor
    · rintro rfl; exact ⟨_, _, rfl⟩
    · rintro ⟨purpose, candidates, same⟩; cases same; rfl

theorem Ending.told {failure : Failure} (ending : Ending account job before last (.error failure)) :
    ∃ cause context, Fails last cause ∧ failure.chain = context :: cause.chain := by
  generalize same : Except.error failure = result at ending
  cases ending with
  | idle idle planned => cases same
  | @failed request error context busy planned =>
    cases same
    exact ⟨error.failure, context, .contract request error, rfl⟩
  | @sent reply context plan =>
    cases reply with
    | ok _ => cases same
    | error cause =>
      cases same
      exact ⟨cause, context, .sender _ _ cause, rfl⟩

theorem Ending.handover {purpose : String} {candidates : List Candidate}
    (ending : Ending account job before (handed purpose candidates reply) result) :
    purpose = job.kind.purpose ∧ candidates = made before ∧ Plan account job (requests before) := by
  generalize same : handed purpose candidates reply = last at ending
  cases ending with
  | idle idle planned => subst same; cases idle
  | failed busy planned => cases same
  | sent plan => cases same; exact ⟨rfl, rfl, plan⟩

theorem Ending.planned (ending : Ending account job before last result) :
    Planned account job (requests (before ++ [last])) := by
  cases ending with
  | idle idle planned => exact planned
  | failed busy planned => exact planned
  | sent plan => exact ⟨_, plan, by simp⟩

theorem planned_of_yields {trace : List Exchange}
    (run : Program.Yields (execute account job) trace result) :
    Planned account job (requests trace) := by
  obtain ⟨answered, last, rfl, -, ending⟩ := execute_concludes run
  exact ending.planned

theorem Plan.ne_nil {plan : List Request} (planned : Plan account job plan) : plan ≠ [] := by
  cases planned <;> simp

theorem Ending.requests_ne_nil (ending : Ending account job before last result) :
    requests (before ++ [last]) ≠ [] := by
  cases ending with
  | idle idle planned => cases idle <;> simp
  | failed busy planned => simp
  | sent plan => simpa using plan.ne_nil

theorem Planned.eq_resolution {resolution : Resolution} {requests : List Request}
    (planned : Planned account (.resolve resolution) requests) (started : requests ≠ []) :
    requests = [.resolve resolution] := by
  obtain ⟨_, ⟨⟩, followed⟩ := planned
  exact followed.eq_of_length_le (List.length_pos_iff.2 started)

theorem not_answered_of_isHandover {exchange : Exchange} (handover : isHandover exchange = true) :
    ¬ Answered account job exchange := by
  intro fine
  rw [fine.isHandover_eq_false] at handover
  cases handover

theorem Idle.not_answered {exchange : Exchange} (idle : Idle account job exchange) :
    ¬ Answered account job exchange := by
  rintro ⟨_, _, _, busy⟩
  exact busy idle

/-- Only the last exchange of an execution can be anything but an answer. -/
theorem eq_last {exchange : Exchange} (fine : ∀ exchange ∈ answered, Answered account job exchange)
    (mem : exchange ∈ answered ++ [last]) (other : ¬ Answered account job exchange) :
    exchange = last := by
  rcases List.mem_append.1 mem with mem | mem
  · exact absurd (fine exchange mem) other
  · exact List.mem_singleton.1 mem

theorem after_eq_nil {exchange : Exchange} {after : List Exchange}
    (fine : ∀ exchange ∈ answered, Answered account job exchange)
    (split : answered ++ [last] = before ++ exchange :: after)
    (other : ¬ Answered account job exchange) : after = [] := by
  rcases append_at.1 split with ⟨rest, rfl, -⟩ | ⟨own, -, split⟩
  · exact absurd (fine exchange (by simp)) other
  · rcases own with _ | ⟨_, _ | _⟩ <;> simp_all

theorem not_failed_of_isHandover {trace : List Exchange} {exchange : Exchange} {request : Request}
    {error : ContractError} (run : Program.Yields (execute account job) trace result)
    (mem : exchange ∈ trace) (handover : isHandover exchange = true) :
    asked request (.error error) ∉ trace := by
  obtain ⟨answered, last, rfl, fine, -⟩ := execute_concludes run
  intro failed
  obtain rfl := eq_last fine failed Answered.ne_error
  obtain rfl := eq_last fine mem (not_answered_of_isHandover handover)
  cases handover

end

theorem allOrNothing_of_yields {account : Address} {job : Job} {trace : List Exchange}
    {result : Except Failure Outcome} (run : Program.Yields (execute account job) trace result) :
    AllOrNothing account job trace result := by
  obtain ⟨answered, last, rfl, fine, ending⟩ := execute_concludes run
  rw [List.nil_append] at ending
  have last_mem : last ∈ answered ++ [last] := by simp
  constructor
  case once =>
    have none : answered.countP isHandover = 0 :=
      List.countP_eq_zero.2 fun exchange mem => by simp [(fine exchange mem).isHandover_eq_false]
    rw [List.countP_append, none, Nat.zero_add]
    exact List.countP_le_length
  case unfailing =>
    intro exchange mem handover request error
    exact not_failed_of_isHandover run mem handover
  case unskipped =>
    intro skipped exchange mem
    by_contra handover
    rw [Bool.not_eq_false] at handover
    obtain rfl := eq_last fine mem (not_answered_of_isHandover handover)
    rw [(ending.eq_skipped_iff.1 skipped).isHandover_eq_false] at handover
    cases handover
  case submitted_iff =>
    rw [ending.eq_submitted_iff]
    constructor
    · rintro ⟨purpose, candidates, rfl⟩
      exact ⟨purpose, candidates, last_mem⟩
    · rintro ⟨purpose, candidates, mem⟩
      exact ⟨purpose, candidates, (eq_last fine mem (not_answered_of_isHandover rfl)).symm⟩
  case skipped_iff =>
    rw [ending.eq_skipped_iff]
    constructor
    · exact fun idle => ⟨last, last_mem, idle⟩
    · rintro ⟨exchange, mem, idle⟩
      exact eq_last fine mem idle.not_answered ▸ idle
  case told =>
    rintro failure rfl
    exact ⟨last, last_mem, ending.told⟩
  case halted =>
    intro before request error after split
    exact after_eq_nil fine split Answered.ne_error
  case planned => exact planned_of_yields run
  case batch =>
    intro purpose candidates reply mem
    obtain rfl := eq_last fine mem (not_answered_of_isHandover rfl)
    obtain ⟨purposed, rfl, plan⟩ := ending.handover
    exact ⟨purposed, by simp [made, candidate?], by simpa using plan⟩
  case resolution =>
    rintro resolution rfl
    exact ending.planned.eq_resolution ending.requests_ne_nil

/-- Whatever is answered, an execution comes to its end, and it is all or nothing. -/
theorem all_or_nothing (account : Address) (job : Job) :
    (∀ script, ∃ trace result,
      Program.Yields (execute account job) trace result ∧ Program.Follows script trace) ∧
      ∀ trace result, Program.Yields (execute account job) trace result →
        AllOrNothing account job trace result := by
  refine ⟨?_, ?_⟩
  · intro script
    exact Program.exists_yields_follows script _
  · intro trace result run
    exact allOrNothing_of_yields run

namespace Sample

def account : Address := FixedBytes.splat 20 1

def posting : Posting := ⟨100, 0 :: List.replicate 32 3⟩

def deposit : Candidate := ⟨[1], some (FixedBytes.splat 20 2), 0, 60⟩

def challenge : Candidate := ⟨[2], some (FixedBytes.splat 20 2), 0, 0⟩

end Sample

/-- A deposit was made ready, but the challenge was not, so nothing is handed over. -/
theorem all_or_nothing_unfinished :
    let cause : Failure := ⟨"connection refused", []⟩
    let error : ContractError := .call .challenge cause
    let trace : List Exchange := [
      asked .bondSize (.ok (100 : Word)), asked (.balance Sample.account) (.ok (40 : Word)),
      asked (.deposit 60) (.ok Sample.deposit), asked (.challenge Sample.posting) (.error error)]
    let result : Except Failure Outcome :=
      .error ⟨"failed to create candidate challenge tx", ["call to challenge failed", "connection refused"]⟩
    Program.Yields (execute Sample.account (.challenge Sample.posting)) trace result ∧
      AllOrNothing Sample.account (.challenge Sample.posting) trace result := by
  intro cause error trace result
  have run : Program.Yields (execute Sample.account (.challenge Sample.posting)) trace result :=
    .ask (.ask (.ask (.ask (.done _))))
  exact ⟨run, (all_or_nothing Sample.account (.challenge Sample.posting)).2 trace result run⟩

end ChallengeGame.Executor
