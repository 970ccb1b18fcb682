import ChallengeGame.Proofs.Answers
import ChallengeGame.Proofs.Unlocking

/-!
# Bonds are topped up exactly

A challenge needs a bond. The executor asks for its size and for the balance of its own account, and
deposits what is missing, neither more nor less, in front of the challenge that needs it.
`topped_up_exactly` says so for whatever contract answers, and for the binding and its calls.
-/

namespace ChallengeGame.Executor

open Contract (Binding Method Request callData postingArguments)
open Unlocking (carryOut throughNode trial)

/-! ## Runs in which no call fails -/

def Unfailing (trace : List Exchange) : Prop :=
  ∀ request error, asked request (.error error) ∉ trace

/-- The runs of a challenge to which the contract gives all answers. -/
inductive ToppedUp (account : Address) (posting : Posting) :
    List Exchange → Except Failure Outcome → Prop
  | covered {bondSize balance : Word} {challenge : Candidate} (reply : Except Failure Unit) :
    bondSize.toNat ≤ balance.toNat →
    ToppedUp account posting
      [asked .bondSize (.ok bondSize), asked (.balance account) (.ok balance),
        asked (.challenge posting) (.ok challenge),
        handed "challenge da commitment" [challenge] reply]
      (afterSending "failed to challenge da commitment" reply)
  | short {bondSize balance value : Word} {deposit challenge : Candidate}
      (reply : Except Failure Unit) :
    0 < value.toNat → balance.toNat + value.toNat = bondSize.toNat →
    ToppedUp account posting
      [asked .bondSize (.ok bondSize), asked (.balance account) (.ok balance),
        asked (.deposit value) (.ok deposit), asked (.challenge posting) (.ok challenge),
        handed "challenge da commitment" [deposit, challenge] reply]
      (afterSending "failed to challenge da commitment" reply)

section
variable {account : Address} {posting : Posting} {trace rest : List Exchange} {context : String}
  {request : Request} {result : Except Failure Outcome}

theorem unfailing_cons_iff {answer : request.Answer} :
    Unfailing (asked request (.ok answer) :: rest) ↔ Unfailing rest := by
  simp only [Unfailing, List.mem_cons, not_or]
  refine forall₂_congr fun other error => and_iff_right ?_
  rintro ⟨⟩

theorem unfailing_handed {purpose : String} {candidates : List Candidate}
    {reply : Except Failure Unit} : Unfailing [handed purpose candidates reply] := by
  intro request error mem
  cases List.mem_singleton.1 mem

theorem unfailing_require_iff {next : request.Answer → Attempt Outcome} :
    Program.Yields (require context request >>= next).run trace result ∧ Unfailing trace ↔
      ∃ answer rest, trace = asked request (.ok answer) :: rest ∧
        Program.Yields (next answer).run rest result ∧ Unfailing rest := by
  rw [yields_require]
  constructor
  · rintro ⟨⟨error, rfl, -⟩ | ⟨answer, rest, rfl, run⟩, fine⟩
    · exact absurd (List.mem_singleton_self _) (fine request error)
    · exact ⟨answer, rest, rfl, run, unfailing_cons_iff.1 fine⟩
  · rintro ⟨answer, rest, rfl, run, fine⟩
    exact ⟨.inr ⟨answer, rest, rfl, run⟩, unfailing_cons_iff.2 fine⟩

theorem unfailing_challenge_iff :
    Program.Yields (execute account (.challenge posting)) trace result ∧ Unfailing trace ↔
      ToppedUp account posting trace result := by
  constructor
  · intro run
    obtain ⟨bondSize, _, rfl, afterSize⟩ := unfailing_require_iff.1 run
    obtain ⟨balance, _, rfl, afterBalance⟩ := unfailing_require_iff.1 afterSize
    -- all that is decided is whether something is missing
    cases short : missing bondSize balance with
    | none =>
      rw [short] at afterBalance
      obtain ⟨challenge, _, rfl, submission, -⟩ := unfailing_require_iff.1 afterBalance
      obtain ⟨reply, rfl, rfl⟩ := yields_submit.1 submission
      exact .covered reply (missing_eq_none_iff.1 short)
    | some value =>
      rw [short] at afterBalance
      obtain ⟨deposit, _, rfl, afterDeposit⟩ := unfailing_require_iff.1 afterBalance
      obtain ⟨challenge, _, rfl, submission, -⟩ := unfailing_require_iff.1 afterDeposit
      obtain ⟨reply, rfl, rfl⟩ := yields_submit.1 submission
      obtain ⟨positive, exactly⟩ := missing_eq_some_iff.1 short
      exact .short reply positive exactly
  · intro toppedUp
    cases toppedUp with
    | @covered bondSize balance challenge reply enough =>
      refine unfailing_require_iff.2 ⟨bondSize, _, rfl, ?_⟩
      refine unfailing_require_iff.2 ⟨balance, _, rfl, ?_⟩
      rw [missing_eq_none_iff.2 enough]
      refine unfailing_require_iff.2 ⟨challenge, _, rfl, ?_, unfailing_handed⟩
      exact yields_submit.2 ⟨reply, rfl, rfl⟩
    | @short bondSize balance value deposit challenge reply positive exactly =>
      refine unfailing_require_iff.2 ⟨bondSize, _, rfl, ?_⟩
      refine unfailing_require_iff.2 ⟨balance, _, rfl, ?_⟩
      rw [missing_eq_some_iff.2 ⟨positive, exactly⟩]
      refine unfailing_require_iff.2 ⟨deposit, _, rfl, ?_⟩
      refine unfailing_require_iff.2 ⟨challenge, _, rfl, ?_, unfailing_handed⟩
      exact yields_submit.2 ⟨reply, rfl, rfl⟩

/-- A deposit is asked for only if so much is missing, also where something fails later. -/
theorem missing_of_deposit {value : Word}
    (run : Program.Yields (execute account (.challenge posting)) trace result)
    (asks : .deposit value ∈ requests trace) :
    ∃ bondSize balance : Word,
      [asked .bondSize (.ok bondSize), asked (.balance account) (.ok balance)] <+: trace ∧
        0 < value.toNat ∧ balance.toNat + value.toNat = bondSize.toNat := by
  rcases yields_require.1 run with ⟨_, rfl, -⟩ | ⟨bondSize, _, rfl, afterSize⟩
  · simp at asks
  rcases yields_require.1 afterSize with ⟨_, rfl, -⟩ | ⟨balance, rest, rfl, afterBalance⟩
  · simp at asks
  have later : .deposit value ∈ requests rest := by simpa using asks
  refine ⟨bondSize, balance, ⟨rest, rfl⟩, missing_eq_some_iff.1 ?_⟩
  cases short : missing bondSize balance with
  | none =>
    rw [short] at afterBalance
    rcases yields_require.1 afterBalance with ⟨_, rfl, -⟩ | ⟨challenge, _, rfl, submission⟩
    · simp at later
    · obtain ⟨_, rfl, -⟩ := yields_submit.1 submission
      simp at later
  | some needed =>
    rw [short] at afterBalance
    rcases yields_require.1 afterBalance with ⟨_, rfl, -⟩ | ⟨deposit, _, rfl, afterDeposit⟩
    · simpa [eq_comm] using later
    rcases yields_require.1 afterDeposit with ⟨_, rfl, -⟩ | ⟨challenge, _, rfl, submission⟩
    · simpa [eq_comm] using later
    · obtain ⟨_, rfl, -⟩ := yields_submit.1 submission
      simpa [eq_comm] using later

end

/-! ## Through the binding -/

def Tells (reply : Node.Reply) (word : Word) : Prop :=
  ∃ document output, reply = .result document ∧ document.bytes? = some output ∧
    word.toBytes <+: output

/-- The runs of a challenge through a binding whose calls are answered by words. -/
inductive ToppedUpThrough (binding : Binding) (account : Address) (posting : Posting) :
    List Unlocking.Exchange → Except Failure Outcome → Prop
  | covered {first second : Node.Reply} {bondSize balance : Word} (reply : Except Failure Unit) :
    Tells first bondSize → Tells second balance → bondSize.toNat ≤ balance.toNat →
    ToppedUpThrough binding account posting
      [⟨.request (trial binding (callData .bondSize [])), first⟩,
        ⟨.request (trial binding (callData .balances [.address account])), second⟩,
        ⟨.submit "challenge da commitment"
          [⟨callData .challenge (postingArguments posting), some binding.address, 0, 0⟩], reply⟩]
      (afterSending "failed to challenge da commitment" reply)
  | short {first second : Node.Reply} {bondSize balance value : Word}
      (reply : Except Failure Unit) :
    Tells first bondSize → Tells second balance →
    0 < value.toNat → balance.toNat + value.toNat = bondSize.toNat →
    ToppedUpThrough binding account posting
      [⟨.request (trial binding (callData .bondSize [])), first⟩,
        ⟨.request (trial binding (callData .balances [.address account])), second⟩,
        ⟨.submit "challenge da commitment"
          [⟨callData .deposit [], some binding.address, 0, value⟩,
            ⟨callData .challenge (postingArguments posting), some binding.address, 0, 0⟩], reply⟩]
      (afterSending "failed to challenge da commitment" reply)

section
variable {binding : Binding} {account : Address} {posting : Posting} {method : Method}
  {arguments : List Abi.Argument} {trace own : List Unlocking.Exchange}
  {result : Except Failure Outcome}

theorem reads_word_iff {output : Bytes} {values : Abi.Values [.word]} :
    Abi.Reads output 0 [.word] values ↔ Word.toBytes values.1 <+: output := by
  refine (and_iff_left trivial).trans ?_
  rw [← Abi.at_zero_iff]
  constructor
  · rintro ⟨stands⟩; exact stands
  · exact .word

theorem yields_word_iff {answer : Except ContractError Word} :
    Program.Yields ((binding.readWord method arguments).handle throughNode) own answer ↔
      ∃ reply : Node.Reply, own = [⟨.request (trial binding (callData method arguments)), reply⟩] ∧
        answer = (Contract.heard method [.word] (Node.callReply reply)).map (·.1) := by
  rw [Binding.readWord, Contract.Binding.read_eq]
  refine Program.yields_ask.trans ?_
  constructor
  · rintro ⟨reply, _, rfl, run⟩
    obtain ⟨rfl, rfl⟩ := Program.yields_done.1 run
    exact ⟨reply, rfl, rfl⟩
  · rintro ⟨reply, rfl, rfl⟩
    exact ⟨reply, [], rfl, .done _⟩

theorem heard_eq_ok_iff {reply : Node.Reply} {word : Word} :
    (Contract.heard method [.word] (Node.callReply reply)).map (·.1) = .ok word ↔
      Tells reply word := by
  cases told : Node.callReply reply with
  | error error =>
    refine iff_of_false nofun ?_
    rintro ⟨document, output, rfl, held, -⟩
    rw [Node.callReply_eq_ok_iff.2 ⟨document, rfl, held⟩] at told
    cases told
  | ok output =>
    obtain ⟨document, rfl, held⟩ := Node.callReply_eq_ok_iff.1 told
    -- an output is decoded if it starts with a word, and then to this word
    constructor
    · intro heard
      cases read : Abi.decode [.word] output with
      | error error => rw [Contract.heard, read] at heard; cases heard
      | ok values =>
        rw [Contract.heard, read] at heard
        cases heard
        exact ⟨document, output, rfl, held, reads_word_iff.1 (Abi.decode_eq_ok_iff.1 read)⟩
    · rintro ⟨_, _, ⟨⟩, again, starts⟩
      cases held.symm.trans again
      have reads : Abi.Reads output 0 [.word] (word, ()) := reads_word_iff.2 starts
      rw [Contract.heard_of_reads reads]
      rfl

/-- Every call is answered by a word. -/
def Telling (trace : List Unlocking.Exchange) : Prop :=
  ∀ request (reply : Node.Reply), ⟨.request request, reply⟩ ∈ trace → ∃ word, Tells reply word

theorem exists_word_of_telling {answer : Except ContractError Word} (telling : Telling trace)
    (run : Program.Yields ((binding.readWord method arguments).handle throughNode) own answer)
    (within : own ⊆ trace) : ∃ word, answer = .ok word := by
  obtain ⟨reply, rfl, rfl⟩ := yields_word_iff.1 run
  obtain ⟨word, tells⟩ := telling _ reply (within List.mem_cons_self)
  exact ⟨word, heard_eq_ok_iff.2 tells⟩

theorem unfailing_of_telling {inner : List Exchange}
    (run : Program.Yields (execute account (.challenge posting)) inner result)
    (carries : Program.Carries (carryOut binding) inner trace) (telling : Telling trace) :
    Unfailing inner := by
  intro request error mem
  obtain ⟨own, asking, within⟩ := carries.mem mem
  -- words are told, candidates are made without a call, and nothing else is asked for
  have planned : request ∈ requests inner :=
    List.mem_filterMap.2 ⟨asked request (.error error), mem, rfl⟩
  obtain ⟨_, ⟨_, deposit?⟩, followed⟩ := planned_of_yields run
  have planned := followed.subset planned
  simp only [List.mem_append, List.mem_cons, List.not_mem_nil, or_false, Option.mem_toList,
    Option.map_eq_some_iff] at planned
  rcases planned with ((rfl | rfl) | ⟨value, -, rfl⟩) | rfl
  · obtain ⟨word, told⟩ := exists_word_of_telling telling asking within
    cases told
  · obtain ⟨word, told⟩ := exists_word_of_telling telling asking within
    cases told
  · obtain ⟨-, told⟩ := Program.yields_done.1 asking
    cases told
  · obtain ⟨-, told⟩ := Program.yields_done.1 asking
    cases told

theorem yields_tells_iff {word : Word} :
    Program.Yields ((binding.readWord method arguments).handle throughNode) own (.ok word) ↔
      ∃ reply : Node.Reply, Tells reply word ∧
        own = [⟨.request (trial binding (callData method arguments)), reply⟩] := by
  rw [yields_word_iff]
  constructor
  · rintro ⟨reply, rfl, told⟩; exact ⟨reply, heard_eq_ok_iff.1 told.symm, rfl⟩
  · rintro ⟨reply, tells, rfl⟩; exact ⟨reply, rfl, (heard_eq_ok_iff.2 tells).symm⟩

theorem carries_readings_iff {inner : List Exchange} {bondSize balance : Word} :
    Program.Carries (carryOut binding)
        (asked .bondSize (.ok bondSize) :: asked (.balance account) (.ok balance) :: inner) trace ↔
      ∃ first second : Node.Reply, ∃ rest, Tells first bondSize ∧ Tells second balance ∧
        trace = ⟨.request (trial binding (callData .bondSize [])), first⟩ ::
          ⟨.request (trial binding (callData .balances [.address account])), second⟩ :: rest ∧
        Program.Carries (carryOut binding) inner rest := by
  constructor
  · intro carries
    obtain ⟨_, _, rfl, sizing, others⟩ := Program.carries_cons_iff.1 carries
    obtain ⟨_, rest, rfl, balancing, after⟩ := Program.carries_cons_iff.1 others
    -- each question is one call, whose reply tells a word
    obtain ⟨first, tellsSize, rfl⟩ := yields_tells_iff.1 sizing
    obtain ⟨second, tellsBalance, rfl⟩ := yields_tells_iff.1 balancing
    exact ⟨first, second, rest, tellsSize, tellsBalance, rfl, after⟩
  · rintro ⟨first, second, rest, tellsSize, tellsBalance, rfl, carries⟩
    have sizing : Program.Yields (carryOut binding (.contract .bondSize))
        [⟨.request (trial binding (callData .bondSize [])), first⟩] (.ok bondSize) :=
      yields_tells_iff.2 ⟨first, tellsSize, rfl⟩
    have balancing : Program.Yields (carryOut binding (.contract (.balance account)))
        [⟨.request (trial binding (callData .balances [.address account])), second⟩] (.ok balance) :=
      yields_tells_iff.2 ⟨second, tellsBalance, rfl⟩
    exact .cons sizing (.cons balancing carries)

theorem carries_challenge_iff {challenge : Candidate} {purpose : String}
    {candidates : List Candidate} {reply : Except Failure Unit} :
    Program.Carries (carryOut binding)
        [asked (.challenge posting) (.ok challenge), handed purpose candidates reply] trace ↔
      challenge = ⟨callData .challenge (postingArguments posting), some binding.address, 0, 0⟩ ∧
        trace = [⟨.submit purpose candidates, reply⟩] := by
  refine (carries_made_iff rfl).trans (and_congr_right fun _ => ?_)
  constructor
  · intro carries
    obtain ⟨_, _, rfl, submission, nothing⟩ := Program.carries_cons_iff.1 carries
    rw [Program.yields_query.1 submission, Program.carries_nil_iff.1 nothing]
    rfl
  · rintro rfl
    have submission : Program.Yields (carryOut binding (.submit purpose candidates))
        [⟨.submit purpose candidates, reply⟩] reply := Program.yields_query.2 rfl
    exact .cons submission .nil

theorem carries_toppedUp_iff :
    (∃ inner, ToppedUp account posting inner result ∧
        Program.Carries (carryOut binding) inner trace) ↔
      ToppedUpThrough binding account posting trace result := by
  constructor
  · rintro ⟨_, ⟨reply, enough⟩ | ⟨reply, positive, exactly⟩, carries⟩
    · obtain ⟨first, second, _, tellsSize, tellsBalance, rfl, after⟩ :=
        carries_readings_iff.1 carries
      obtain ⟨rfl, rfl⟩ := carries_challenge_iff.1 after
      exact .covered reply tellsSize tellsBalance enough
    · obtain ⟨first, second, _, tellsSize, tellsBalance, rfl, after⟩ :=
        carries_readings_iff.1 carries
      obtain ⟨rfl, afterDeposit⟩ := (carries_made_iff rfl).1 after
      obtain ⟨rfl, rfl⟩ := carries_challenge_iff.1 afterDeposit
      exact .short reply tellsSize tellsBalance positive exactly
  · rintro (⟨reply, tellsSize, tellsBalance, enough⟩ |
      ⟨reply, tellsSize, tellsBalance, positive, exactly⟩)
    · exact ⟨_, .covered reply enough, carries_readings_iff.2 ⟨_, _, _, tellsSize, tellsBalance, rfl,
        carries_challenge_iff.2 ⟨rfl, rfl⟩⟩⟩
    · exact ⟨_, .short reply positive exactly, carries_readings_iff.2 ⟨_, _, _, tellsSize,
        tellsBalance, rfl, (carries_made_iff rfl).2 ⟨rfl, carries_challenge_iff.2 ⟨rfl, rfl⟩⟩⟩⟩

theorem telling_cons {request : Node.Request} {reply : Node.Reply} {word : Word}
    (tells : Tells reply word) (rest : Telling trace) :
    Telling (⟨.request request, reply⟩ :: trace) := by
  intro other answer mem
  cases mem with
  | head => exact ⟨word, tells⟩
  | tail _ mem => exact rest other answer mem

theorem telling_submit {purpose : String} {candidates : List Candidate}
    {reply : Except Failure Unit} : Telling [⟨.submit purpose candidates, reply⟩] := by
  intro request answer mem
  cases List.mem_singleton.1 mem

theorem ToppedUpThrough.telling (toppedUp : ToppedUpThrough binding account posting trace result) :
    Telling trace := by
  cases toppedUp with
  | covered reply tellsSize tellsBalance enough =>
    exact telling_cons tellsSize (telling_cons tellsBalance telling_submit)
  | short reply tellsSize tellsBalance positive exactly =>
    exact telling_cons tellsSize (telling_cons tellsBalance telling_submit)

theorem telling_challenge_iff :
    Program.Yields ((execute account (.challenge posting)).handle (carryOut binding)) trace result ∧
        Telling trace ↔
      ToppedUpThrough binding account posting trace result := by
  rw [Program.yields_handle_iff]
  constructor
  · rintro ⟨⟨inner, run, carries⟩, telling⟩
    have fine := unfailing_of_telling run carries telling
    exact carries_toppedUp_iff.1 ⟨inner, unfailing_challenge_iff.1 ⟨run, fine⟩, carries⟩
  · intro toppedUp
    obtain ⟨inner, inside, carries⟩ := carries_toppedUp_iff.2 toppedUp
    exact ⟨⟨inner, (unfailing_challenge_iff.2 inside).1, carries⟩, toppedUp.telling⟩

end

/-- The deposit is what is missing, for any contract and for the binding to the deployed one. -/
theorem topped_up_exactly (account : Address) (binding : Binding) (posting : Posting) :
    (∀ trace result,
      Program.Yields (execute account (.challenge posting)) trace result ∧ Unfailing trace ↔
        ToppedUp account posting trace result) ∧
      (∀ trace result value, Program.Yields (execute account (.challenge posting)) trace result →
        .deposit value ∈ requests trace →
        ∃ bondSize balance : Word,
          [asked .bondSize (.ok bondSize), asked (.balance account) (.ok balance)] <+: trace ∧
            0 < value.toNat ∧ balance.toNat + value.toNat = bondSize.toNat) ∧
      ∀ trace result,
        Program.Yields ((execute account (.challenge posting)).handle (carryOut binding)) trace
            result ∧ Telling trace ↔
          ToppedUpThrough binding account posting trace result := by
  refine ⟨?_, ?_, ?_⟩
  · intro trace result
    exact unfailing_challenge_iff
  · intro trace result value run asks
    exact missing_of_deposit run asks
  · intro trace result
    exact telling_challenge_iff

/-- The challenge cannot be made, but the deposit of 60 was asked for. -/
theorem topped_up_exactly_unfinished :
    let error : ContractError := .call .challenge ⟨"connection refused", []⟩
    let trace : List Exchange := [
      asked .bondSize (.ok (100 : Word)), asked (.balance Sample.account) (.ok (40 : Word)),
      asked (.deposit 60) (.ok Sample.deposit), asked (.challenge Sample.posting) (.error error)]
    ∃ result, Program.Yields (execute Sample.account (.challenge Sample.posting)) trace result ∧
      ∃ bondSize balance : Word,
        [asked .bondSize (.ok bondSize), asked (.balance Sample.account) (.ok balance)] <+: trace ∧
          0 < (60 : Word).toNat ∧ balance.toNat + (60 : Word).toNat = bondSize.toNat := by
  intro error trace
  have run : Program.Yields (execute Sample.account (.challenge Sample.posting)) trace _ :=
    .ask (.ask (.ask (.ask (.done _))))
  exact ⟨_, run, (topped_up_exactly Sample.account ⟨Sample.account, none⟩ Sample.posting).2.1 trace _
    60 run (by simp [trace])⟩

end ChallengeGame.Executor
