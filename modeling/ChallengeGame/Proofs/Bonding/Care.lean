import ChallengeGame.Bonding
import ChallengeGame.Proofs.Executor
import ChallengeGame.Proofs.Submission

/-!
# Challenges are sent with care

What a worker knows about its bond is the balance it has read and the deposit it has seen
landing since. Both workers are careful: the only transactions that lock a bond come from the
challenging side, when what it knows covers the bond. The rules follow the way programs are put
together, so that each function of an executor has one of its own.
-/

namespace ChallengeGame.Bonding

open Contract (Call CallError Method callData)
open Node (Confirmation Outgoing SubmissionQuery)

/-! ## What the contract makes of candidates and calls -/

namespace Setup

variable {setup : Setup}

theorem effect_deposit (value : Word) :
    setup.effect (Node.outgoing setup.account (setup.binding.candidate .deposit [] value)) =
      .deposit value := by
  simp [effect, Node.outgoing, Contract.Binding.candidate]

theorem effect_challenge (posting : Posting) :
    setup.effect (Node.outgoing setup.account
      (setup.binding.candidate .challenge (Contract.postingArguments posting) 0)) = .challenge := by
  simp [effect, Node.outgoing, Contract.Binding.candidate]

theorem effect_withdraw :
    setup.effect (Node.outgoing setup.account (setup.binding.candidate .withdraw [] 0)) =
      .withdraw := by
  simp [effect, Node.outgoing, Contract.Binding.candidate]

def bondSizeCall (setup : Setup) : Call :=
  ⟨setup.binding.account?, setup.binding.address, callData .bondSize []⟩

def balanceCall (setup : Setup) : Call :=
  ⟨setup.binding.account?, setup.binding.address, callData .balances [.address setup.account]⟩

-- the two calls have different lengths
theorem asksBondSize_of_asksBalance {call : Call} (asks : setup.asksBalance call = true) :
    setup.asksBondSize call = false := by
  unfold asksBalance at asks
  unfold asksBondSize
  simp only [Bool.and_eq_true, decide_eq_true_eq] at asks
  have different : callData .balances [.address setup.account] ≠ callData .bondSize [] := by
    intro same
    have lengths := congrArg List.length same
    rw [Contract.length_callData, Contract.length_callData] at lengths
    simp [Abi.encode, Abi.heads, Abi.tails, Abi.Argument.address, Abi.Argument.head] at lengths
  simp [asks.2, different]

@[simp] theorem asksBondSize_bondSizeCall : setup.asksBondSize setup.bondSizeCall = true := by
  simp [asksBondSize, bondSizeCall]

@[simp] theorem asksBalance_balanceCall : setup.asksBalance setup.balanceCall = true := by
  simp [asksBalance, balanceCall]

@[simp] theorem asksBalance_bondSizeCall : setup.asksBalance setup.bondSizeCall = false := by
  rw [← Bool.not_eq_true]
  intro asks
  have other := asksBondSize_of_asksBalance asks
  simp at other

end Setup

/-! ## Knowledge -/

structure Knowledge where
  /-- the balance that was read since the last challenge -/
  balance? : Option Word
  /-- the deposit that was sent since then and may be under way -/
  awaited? : Option (Hash × Word)
  /-- a deposit since then that has landed -/
  deposited : Nat

namespace Knowledge

def nothing : Knowledge := ⟨none, none, 0⟩

def ofRead (balance : Word) : Knowledge := ⟨some balance, none, 0⟩

/-- A challenge is covered by what was there and what was put there. -/
def Covers (setup : Setup) (knowledge : Knowledge) : Prop :=
  ∃ balance, knowledge.balance? = some balance ∧
    setup.bondSize.toNat ≤ balance.toNat + knowledge.deposited

def afterCall (setup : Setup) (call : Call) (reply : Except CallError Bytes)
    (knowledge : Knowledge) : Knowledge :=
  match reply with
  | .ok output => if setup.asksBalance call then ofRead (Word.ofBytes output) else knowledge
  | .error _ => knowledge

def afterSend (effect : Effect) (sent : Except Failure Hash) (knowledge : Knowledge) : Knowledge :=
  match effect, sent with
  | .challenge, _ => nothing
  | .deposit value, .ok transaction => { knowledge with awaited? := some (transaction, value) }
  | _, _ => knowledge

def afterConfirm (transaction : Hash) (confirmation : Confirmation) (knowledge : Knowledge) :
    Knowledge :=
  match knowledge.awaited?, confirmation with
  | some (awaited, value), .landed receipt =>
    if receipt.status? = some 1 ∧ transaction = awaited then
      { knowledge with awaited? := none, deposited := value.toNat }
    else knowledge
  | _, _ => knowledge

def after (setup : Setup) : (query : Query) → query.Answer → Knowledge → Knowledge
  | .call call, reply => afterCall setup call reply
  | .submission (.send outgoing), sent => afterSend (setup.effect outgoing) sent
  | .submission (.confirm transaction), confirmation => afterConfirm transaction confirmation

end Knowledge

/-- Calls about bonds are answered by words, and the size of a bond is always the same. -/
def Truthful (setup : Setup) (call : Call) (reply : Except CallError Bytes) : Prop :=
  ∀ output, reply = .ok output →
    (setup.asksBondSize call = true → output = Abi.encode [.word setup.bondSize]) ∧
    (setup.asksBalance call = true → ∃ balance : Word, output = Abi.encode [.word balance])

def Possible (setup : Setup) : (query : Query) → query.Answer → Prop
  | .call call, reply => Truthful setup call reply
  | .submission _, _ => True

def Permits (setup : Setup) (side : Side) (knowledge : Knowledge) : Query → Prop
  | .submission (.send outgoing) =>
    setup.effect outgoing = .challenge → side = .challenging ∧ knowledge.Covers setup
  | _ => True

theorem Permits.of_ne {setup : Setup} {side : Side} {knowledge : Knowledge} {outgoing : Outgoing}
    (harmless : setup.effect outgoing ≠ .challenge) :
    Permits setup side knowledge (.submission (.send outgoing)) :=
  fun locks => absurd locks harmless

/-! ## Careful programs -/

section
variable {α β : Type}

/-- Whatever the node answers, no challenge is sent without care, and what is known at the end
and the result are as they should be. -/
def Careful (setup : Setup) (side : Side) (post : Knowledge → α → Prop) :
    Working α → Knowledge → Prop
  | .done value, knowledge => post knowledge value
  | .ask query next, knowledge =>
    Permits setup side knowledge query ∧
      ∀ answer, Possible setup query answer →
        Careful setup side post (next answer) (knowledge.after setup query answer)

variable {setup : Setup} {side : Side} {knowledge : Knowledge} {post : Knowledge → α → Prop}

theorem careful_done {value : α} :
    Careful setup side post (.done value) knowledge ↔ post knowledge value := Iff.rfl

theorem Careful.bind {program : Working α} {next : α → Working β} {last : Knowledge → β → Prop}
    (careful : Careful setup side post program knowledge)
    (onward : ∀ knowledge value, post knowledge value →
      Careful setup side last (next value) knowledge) :
    Careful setup side last (program >>= next) knowledge := by
  -- what is known differs from branch to branch
  induction program generalizing knowledge with
  | done value => exact onward _ _ careful
  | ask query branch ih =>
    refine ⟨careful.1, ?_⟩
    intro answer possible
    exact ih answer (careful.2 answer possible)

end

/-! ## Questions to the contract -/

/-- What is known if a result is there. A failure ends the work, so nothing is asked of it. -/
def OnSuccess {ε α : Type} (good : Knowledge → α → Prop) (knowledge : Knowledge)
    (result : Except ε α) : Prop :=
  ∀ value, result = .ok value → good knowledge value

section
variable {ε α : Type} {setup : Setup} {side : Side} {knowledge : Knowledge}
  {good : Knowledge → α → Prop}

@[simp] theorem onSuccess_ok {value : α} :
    OnSuccess good knowledge (.ok value : Except ε α) ↔ good knowledge value := by
  simp [OnSuccess]

@[simp] theorem onSuccess_error {error : ε} :
    OnSuccess good knowledge (.error error : Except ε α) := by
  simp [OnSuccess]

def wordOf (method : Method) : Except CallError Bytes → Except ContractError Word
  | .error error => .error (Contract.Binding.errorOf method error)
  | .ok output =>
    ((Abi.decode [.word] output).mapError fun error => .decode method error.message).map
      fun values => values.1

theorem wordOf_encode (method : Method) (word : Word) :
    wordOf method (.ok (Abi.encode [.word word])) = .ok word := by
  rw [wordOf, Abi.decode_word]
  rfl

theorem carryOut_bondSize :
    setup.carryOut (.contract .bondSize) =
      .ask (.call setup.bondSizeCall) fun reply => .done (wordOf .bondSize reply) := by
  refine congrArg (Program.ask _) (funext fun reply => ?_)
  cases reply with
  | error error => rfl
  | ok output => rfl

theorem carryOut_balance :
    setup.carryOut (.contract (.balance setup.account)) =
      .ask (.call setup.balanceCall) fun reply => .done (wordOf .balances reply) := by
  refine congrArg (Program.ask _) (funext fun reply => ?_)
  cases reply with
  | error error => rfl
  | ok output => rfl

theorem careful_bondSize :
    Careful setup side
      (OnSuccess fun after value => after = knowledge ∧ value = setup.bondSize)
      (setup.carryOut (.contract .bondSize)) knowledge := by
  rw [carryOut_bondSize]
  refine ⟨trivial, ?_⟩
  intro reply truthful
  cases reply with
  | error error => exact onSuccess_error
  | ok output =>
    have told : output = Abi.encode [.word setup.bondSize] :=
      (truthful output rfl).1 Setup.asksBondSize_bondSizeCall
    rw [told]
    refine careful_done.2 ?_
    rw [wordOf_encode, onSuccess_ok]
    exact ⟨by simp [Knowledge.after, Knowledge.afterCall], rfl⟩

theorem careful_balance :
    Careful setup side (OnSuccess fun after value => after = .ofRead value)
      (setup.carryOut (.contract (.balance setup.account))) knowledge := by
  rw [carryOut_balance]
  refine ⟨trivial, ?_⟩
  intro reply truthful
  cases reply with
  | error error => exact onSuccess_error
  | ok output =>
    have told : ∃ word : Word, output = Abi.encode [.word word] :=
      (truthful output rfl).2 Setup.asksBalance_balanceCall
    obtain ⟨word, told⟩ := told
    rw [told]
    refine careful_done.2 ?_
    rw [wordOf_encode, onSuccess_ok]
    simp [Knowledge.after, Knowledge.afterCall, Abi.encode_word]

/-! ## Submissions -/

/-- Every challenge among some candidates is covered when its turn comes. -/
def Fits (setup : Setup) (side : Side) : Knowledge → List Candidate → Prop
  | _, [] => True
  | knowledge, candidate :: rest =>
    let outgoing := Node.outgoing setup.account candidate
    Permits setup side knowledge (.submission (.send outgoing)) ∧
      ∀ transaction receipt, receipt.status? = some 1 →
        Fits setup side
          ((knowledge.afterSend (setup.effect outgoing) (.ok transaction)).afterConfirm transaction
            (.landed receipt)) rest

theorem carryOut_submit_cons {purpose : String} {candidate : Candidate} {rest : List Candidate} :
    setup.carryOut (.submit purpose (candidate :: rest)) =
      .ask (.submission (.send (Node.outgoing setup.account candidate))) fun sent =>
        match (sent : Except Failure Hash) with
        | .error failure =>
          .done (.error (failure.under ("failed to send " ++ purpose ++ " transaction")))
        | .ok transaction =>
          .ask (.submission (.confirm transaction)) fun confirmation =>
            match Node.confirmationFault? purpose transaction confirmation with
            | some failure => .done (.error failure)
            | none => setup.carryOut (.submit purpose rest) := by
  refine congrArg (Program.ask _) (funext fun sent => ?_)
  cases sent with
  | error failure => rfl
  | ok transaction =>
    refine congrArg (Program.ask _) (funext fun confirmation => ?_)
    -- `submit` decides by the fault, and each of its two ways is carried out the same
    show (match Node.confirmationFault? purpose transaction confirmation with
      | some failure => (.done (.error failure) : Node.Submitting (Except Failure Unit))
      | none => Node.submit setup.account purpose rest).handle _ = _
    cases Node.confirmationFault? purpose transaction confirmation with
    | some failure => rfl
    | none => rfl

theorem careful_submit {purpose : String} {candidates : List Candidate}
    (fits : Fits setup side knowledge candidates) :
    Careful setup side (fun _ _ => True) (setup.carryOut (.submit purpose candidates))
      knowledge := by
  induction candidates generalizing knowledge with
  | nil => trivial
  | cons candidate rest ih =>
    -- the rest is sent only if this one has landed
    rw [carryOut_submit_cons]
    refine ⟨fits.1, ?_⟩
    intro sent _
    cases sent with
    | error failure => trivial
    | ok transaction =>
      refine ⟨trivial, ?_⟩
      intro confirmation _
      cases fine : Node.confirmationFault? purpose transaction confirmation with
      | some failure => simp only [fine]; trivial
      | none =>
        obtain ⟨receipt, rfl, succeeded⟩ := Node.Submission.confirmationFault?_eq_none_iff.1 fine
        simp only [fine]
        exact ih (fits.2 transaction receipt succeeded)

end

/-! ## Executors -/

def Attempts (setup : Setup) (side : Side) {α : Type} (good : Knowledge → α → Prop)
    (attempt : Executor.Attempt α) (knowledge : Knowledge) : Prop :=
  Careful setup side (OnSuccess good) (attempt.run.handle setup.carryOut) knowledge

section
variable {α β : Type} {setup : Setup} {side : Side} {knowledge : Knowledge}
  {good : Knowledge → α → Prop}

theorem Attempts.pure {value : α} (known : good knowledge value) :
    Attempts setup side good (Pure.pure value) knowledge :=
  onSuccess_ok.2 known

theorem Attempts.bind {attempt : Executor.Attempt α} {next : α → Executor.Attempt β}
    {last : Knowledge → β → Prop} (careful : Attempts setup side good attempt knowledge)
    (onward : ∀ knowledge value, good knowledge value →
      Attempts setup side last (next value) knowledge) :
    Attempts setup side last (attempt >>= next) knowledge := by
  unfold Attempts
  rw [ExceptT.run_bind, Program.handle_bind]
  refine Careful.bind careful ?_
  intro knowledge result known
  cases result with
  | error failure => exact onSuccess_error
  | ok value => exact onward knowledge value (known value rfl)

theorem Attempts.require {context : String} {request : Contract.Request}
    {good : Knowledge → request.Answer → Prop}
    (careful : Careful setup side (OnSuccess good) (setup.carryOut (.contract request)) knowledge) :
    Attempts setup side good (Executor.require context request) knowledge := by
  unfold Attempts
  rw [Executor.run_require, Program.handle_bind, Executor.handle_ask]
  refine careful.bind ?_
  intro knowledge reply known
  cases reply with
  | error error => exact onSuccess_error
  | ok answer => exact onSuccess_ok.2 (known answer rfl)

theorem Attempts.submit {context : String} {kind : ActionKind} {candidates : List Candidate}
    (fits : Fits setup side knowledge candidates) :
    Attempts setup side (fun _ _ => True) (Executor.submit context kind candidates) knowledge := by
  unfold Attempts
  rw [Executor.run_submit, Program.handle_bind, Executor.handle_hand]
  refine (careful_submit fits).bind ?_
  intro knowledge reply _
  exact fun _ _ => trivial

theorem Attempts.make {context : String} {request : Contract.Request} {made : request.Answer}
    (responds : setup.binding.respond request = .done (.ok made)) :
    Attempts setup side (fun after value => after = knowledge ∧ value = made)
      (Executor.require context request) knowledge := by
  refine .require ?_
  show Careful _ _ _ ((setup.binding.respond request).handle _) _
  rw [responds]
  exact onSuccess_ok.2 ⟨rfl, rfl⟩

theorem fits_challenge {balance : Word} (enough : setup.bondSize.toNat ≤ balance.toNat)
    (posting : Posting) :
    Fits setup .challenging (.ofRead balance)
      [setup.binding.candidate .challenge (Contract.postingArguments posting) 0] :=
  ⟨fun _ => ⟨rfl, balance, rfl, enough⟩, fun _ _ _ => trivial⟩

theorem fits_deposit {balance value : Word}
    (rest : setup.bondSize.toNat = balance.toNat + value.toNat) (posting : Posting) :
    Fits setup .challenging (.ofRead balance)
      [setup.binding.candidate .deposit [] value,
        setup.binding.candidate .challenge (Contract.postingArguments posting) 0] := by
  refine ⟨.of_ne (by rw [Setup.effect_deposit]; nofun), ?_⟩
  intro transaction receipt succeeded
  rw [Setup.effect_deposit]
  -- the deposit has landed by the time that the challenge is sent
  have known :
      ((Knowledge.ofRead balance).afterSend (.deposit value) (.ok transaction)).afterConfirm
        transaction (.landed receipt) = ⟨some balance, none, value.toNat⟩ := by
    simp [Knowledge.ofRead, Knowledge.afterSend, Knowledge.afterConfirm, succeeded]
  rw [known]
  exact ⟨fun _ => ⟨rfl, balance, rfl, Nat.le_of_eq rest⟩, fun _ _ _ => trivial⟩

theorem attempts_challenge (posting : Posting) :
    Attempts setup .challenging (fun _ _ => True) (Executor.challenge setup.account posting)
      knowledge := by
  unfold Executor.challenge
  refine (Attempts.require careful_bondSize).bind ?_
  rintro _ _ ⟨rfl, rfl⟩
  refine (Attempts.require careful_balance).bind ?_
  rintro _ balance rfl
  -- either the balance was enough, or what is missing is deposited first
  cases short : Executor.missing setup.bondSize balance with
  | none =>
    refine (Attempts.make rfl).bind ?_
    rintro _ _ ⟨rfl, rfl⟩
    exact .submit (fits_challenge (Executor.missing_eq_none_iff.1 short) posting)
  | some value =>
    refine (Attempts.make rfl).bind ?_
    rintro _ _ ⟨rfl, rfl⟩
    refine (Attempts.make rfl).bind ?_
    rintro _ _ ⟨rfl, rfl⟩
    exact .submit (fits_deposit (Executor.missing_eq_some_iff.1 short).2.symm posting)

theorem attempts_withdraw :
    Attempts setup .withdrawing (fun _ _ => True) (Executor.withdraw setup.account) knowledge := by
  unfold Executor.withdraw
  refine (Attempts.require careful_balance).bind ?_
  intro _ balance _
  split
  · exact .pure trivial
  · refine (Attempts.make rfl).bind ?_
    rintro _ _ ⟨rfl, rfl⟩
    exact .submit ⟨.of_ne (by rw [Setup.effect_withdraw]; nofun), fun _ _ _ => trivial⟩

/-- Whatever was known before, both workers carry out their jobs with care. -/
theorem careful_execute {job : Job} (own : job.kind = side.kind) :
    Careful setup side (fun _ _ => True) ((setup.crew side).execute job) knowledge := by
  -- the crew only adds the ending to what the executor does
  show Careful setup side _
    ((Executor.execute setup.account job >>= fun result => .done (Crew.ending result)).handle _) _
  rw [Program.handle_bind]
  cases side with
  | challenging =>
    cases job with
    | challenge posting => exact Careful.bind (attempts_challenge posting) fun _ _ _ => trivial
    | _ => cases own
  | withdrawing =>
    cases job with
    | withdraw height => exact Careful.bind attempts_withdraw fun _ _ _ => trivial
    | _ => cases own

end

end ChallengeGame.Bonding
