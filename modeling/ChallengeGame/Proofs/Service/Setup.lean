import ChallengeGame.Proofs.Coordinator.Balance
import ChallengeGame.Proofs.Program
import ChallengeGame.Proofs.Registry
import ChallengeGame.Service

/-!
# Setting up stage by stage

A preparation checks the configuration, has the contract bound that was registered last for the
configured pair, and reads the two windows. It ends at the first of these stages that fails and
asks for nothing that a later one needs. What it ends with is a service with the windows of the
contract and with a crew for what the configuration asks for.
-/

namespace ChallengeGame.Service

open Contract (Registry RegistryError)
open Contract.Registry (Names LastIs absence filled lookup_filled_eq_ok_iff
  lookup_filled_eq_error_iff)
open Program (Yields yields_done yields_attempts yields_lift_query)

variable {Binder Bound : Type} {registrations : List (Contract.Pair × Binder)} {account : Address}
  {hasBlobs : Bool} {config : Config}

abbrev Exchange (Binder Bound : Type) := Program.Exchange (Query Binder Bound) Query.Answer

/-- The pair that the contract is looked up by. -/
def pairOf (config : Config) : Contract.Pair := (config.commitmentType, config.commitmentKind)

/-- A sound configuration whose pair was registered with the binder last. -/
structure Chooses (registrations : List (Contract.Pair × Binder)) (config : Config)
    (binder : Binder) : Prop where
  sound : config.fault? = none
  registered : LastIs registrations (pairOf config) binder

/-- What a service runs with when these are the windows. -/
def outfit (account : Address) (hasBlobs : Bool) (config : Config)
    (challengeWindow resolveWindow : UInt64) : Setup × Coordinator.Books :=
  (⟨⟨{ challengeWindow, resolveWindow
       retryInterval := config.retryInterval
       rollup := config.rollup
       hasBlobs
       takes := takes config }, account⟩, config.pollInterval.toNat⟩,
    Coordinator.Books.new config.retryInterval)

def bound (config : Config) (binder : Binder) (answer : Except ContractError Bound) :
    Exchange Binder Bound := ⟨.bind ⟨binder, config.contract⟩, answer⟩

def readChallengeWindow (contract : Bound) (answer : Except ContractError Word) :
    Exchange Binder Bound := ⟨.challengeWindow contract, answer⟩

def readResolveWindow (contract : Bound) (answer : Except ContractError Word) :
    Exchange Binder Bound := ⟨.resolveWindow contract, answer⟩

/-- What comes of a window, from how it was answered. -/
inductive Fits (name : String) : Except ContractError Word → Except Error UInt64 → Prop
  | unread {error : ContractError} : Fits name (.error error) (.error (.contract error))
  | tooLong {blocks : Word} (long : UInt64.size ≤ blocks.toNat) :
    Fits name (.ok blocks) (.error (.windowOutOfRange name blocks))
  | fits {blocks : Word} {window : UInt64} (same : window.toNat = blocks.toNat) :
    Fits name (.ok blocks) (.ok window)

/-- The runs that read the two windows of a contract. -/
inductive Measures (contract : Bound) :
    List (Exchange Binder Bound) → Except Error (UInt64 × UInt64) → Prop
  | challengeUnfit {reply : Except ContractError Word} {error : Error}
    (unfit : Fits "challenge window" reply (.error error)) :
    Measures contract [readChallengeWindow contract reply] (.error error)
  | resolveUnfit {challengeReply resolveReply : Except ContractError Word}
    {challengeWindow : UInt64} {error : Error}
    (challengeFits : Fits "challenge window" challengeReply (.ok challengeWindow))
    (unfit : Fits "resolve window" resolveReply (.error error)) :
    Measures contract
      [readChallengeWindow contract challengeReply, readResolveWindow contract resolveReply]
      (.error error)
  | both {challengeReply resolveReply : Except ContractError Word}
    {challengeWindow resolveWindow : UInt64}
    (challengeFits : Fits "challenge window" challengeReply (.ok challengeWindow))
    (resolveFits : Fits "resolve window" resolveReply (.ok resolveWindow)) :
    Measures contract
      [readChallengeWindow contract challengeReply, readResolveWindow contract resolveReply]
      (.ok (challengeWindow, resolveWindow))

/-- The runs of a preparation, one rule for each stage that it can end at. -/
inductive Stages (registrations : List (Contract.Pair × Binder)) (account : Address)
    (hasBlobs : Bool) (config : Config) :
    List (Exchange Binder Bound) → Except Error (Setup × Coordinator.Books) → Prop
  | faulty {fault : ConfigError} (found : config.fault? = some fault) :
    Stages registrations account hasBlobs config [] (.error (.config fault))
  | unregistered (sound : config.fault? = none) (unnamed : ¬ Names registrations (pairOf config)) :
    Stages registrations account hasBlobs config []
      (.error (.registry (absence (pairOf config))))
  | unbound {binder : Binder} {error : ContractError} (chosen : Chooses registrations config binder) :
    Stages registrations account hasBlobs config [bound config binder (.error error)]
      (.error (.registry (.contract config.contract error)))
  | unfit {binder : Binder} {contract : Bound} {trace : List (Exchange Binder Bound)} {error : Error}
    (chosen : Chooses registrations config binder) (unfit : Measures contract trace (.error error)) :
    Stages registrations account hasBlobs config (bound config binder (.ok contract) :: trace)
      (.error error)
  | ready {binder : Binder} {contract : Bound} {trace : List (Exchange Binder Bound)}
    {challengeWindow resolveWindow : UInt64} (chosen : Chooses registrations config binder)
    (measured : Measures contract trace (.ok (challengeWindow, resolveWindow))) :
    Stages registrations account hasBlobs config (bound config binder (.ok contract) :: trace)
      (.ok (outfit account hasBlobs config challengeWindow resolveWindow))

/-! ## The stages -/

variable {trace : List (Exchange Binder Bound)}

theorem yields_check {result : Except Error Unit} :
    Yields (check config : Preparing Binder Bound Unit).run trace result ↔
      trace = [] ∧ ((∃ fault, config.fault? = some fault ∧ result = .error (.config fault)) ∨
        config.fault? = none ∧ result = .ok ()) := by
  unfold check
  cases config.fault? with
  | none => simpa using yields_done
  | some fault => simpa using yields_done

theorem run_connect_of_ok {registry : Registry Binder} {binder : Binder}
    (found : registry.lookup (pairOf config) = .ok binder) :
    (connect registry config : Preparing Binder Bound Bound).run =
      .ask (.bind ⟨binder, config.contract⟩) fun (answer : Except ContractError Bound) =>
        .done (answer.mapError fun error => .registry (.contract config.contract error)) := by
  rw [connect, Registry.connect, ← pairOf, found]
  refine congrArg (Program.ask _) (funext fun answer => ?_)
  cases answer <;> rfl

theorem run_connect_of_error {registry : Registry Binder} {error : RegistryError}
    (failed : registry.lookup (pairOf config) = .error error) :
    (connect registry config : Preparing Binder Bound Bound).run =
      .done (.error (.registry error)) := by
  rw [connect, Registry.connect, ← pairOf, failed]
  rfl

theorem yields_connect {result : Except Error Bound} :
    Yields (connect (filled registrations) config).run trace result ↔
      (trace = [] ∧ ¬ Names registrations (pairOf config) ∧
        result = .error (.registry (absence (pairOf config)))) ∨
      ∃ binder answer, LastIs registrations (pairOf config) binder ∧
        trace = [bound config binder answer] ∧
        result = answer.mapError fun error => .registry (.contract config.contract error) := by
  cases looked : (filled registrations).lookup (pairOf config) with
  | error error =>
    obtain ⟨unnamed, rfl⟩ := lookup_filled_eq_error_iff.1 looked
    rw [run_connect_of_error looked, yields_done]
    constructor
    · rintro ⟨rfl, rfl⟩
      exact .inl ⟨rfl, unnamed, rfl⟩
    · rintro (⟨rfl, -, rfl⟩ | ⟨binder, _, last, -⟩)
      · exact ⟨rfl, rfl⟩
      · cases looked.symm.trans (lookup_filled_eq_ok_iff.2 last)
  | ok binder =>
    rw [run_connect_of_ok looked]
    refine Program.yields_ask.trans ?_
    constructor
    · rintro ⟨answer, rest, rfl, run⟩
      obtain ⟨rfl, rfl⟩ := yields_done.1 run
      exact .inr ⟨binder, answer, lookup_filled_eq_ok_iff.1 looked, rfl, rfl⟩
    · rintro (⟨-, unnamed, -⟩ | ⟨_, answer, last, rfl, rfl⟩)
      · cases looked.symm.trans (lookup_filled_eq_error_iff.2 ⟨unnamed, rfl⟩)
      · obtain rfl := Except.ok.inj (looked.symm.trans (lookup_filled_eq_ok_iff.2 last))
        exact ⟨answer, [], rfl, .done _⟩

theorem yields_window {name : String} {reply : Except ContractError Word}
    {result : Except Error UInt64} :
    Yields (window name reply : Preparing Binder Bound UInt64).run trace result ↔
      trace = [] ∧ Fits name reply result := by
  cases reply with
  | error error =>
    refine yields_done.trans (and_congr_right' ?_)
    constructor
    · rintro rfl; exact .unread
    · rintro ⟨⟩; rfl
  | ok blocks =>
    by_cases short : blocks.toNat < UInt64.size
    · rw [window, if_pos short]
      refine yields_done.trans (and_congr_right' ?_)
      have same : (UInt64.ofNat blocks.toNat).toNat = blocks.toNat :=
        UInt64.toNat_ofNat_of_lt' short
      constructor
      · rintro rfl; exact .fits same
      · rintro (_ | long | fits)
        · exact absurd short (Nat.not_lt.2 long)
        · rw [UInt64.toNat_inj.1 (fits.trans same.symm)]
    · rw [window, if_neg short]
      refine yields_done.trans (and_congr_right' ?_)
      constructor
      · rintro rfl; exact .tooLong (Nat.not_lt.1 short)
      · rintro (_ | long | fits)
        · rfl
        · exact absurd (fits ▸ UInt64.toNat_lt_size _) short

theorem yields_asked_window {α : Type} {name : String}
    {read : Preparing Binder Bound (Except ContractError Word)}
    {exchange : Except ContractError Word → Exchange Binder Bound}
    {next : UInt64 → Preparing Binder Bound α} {result : Except Error α}
    (asks : ∀ {own : List (Exchange Binder Bound)} {reached : Except Error _},
      Yields read.run own reached ↔ ∃ reply, own = [exchange reply] ∧ reached = .ok reply) :
    Yields (read >>= fun reply => window name reply >>= next).run trace result ↔
      ∃ reply,
        (∃ error, Fits name reply (.error error) ∧ trace = [exchange reply] ∧
          result = .error error) ∨
        ∃ window rest, Fits name reply (.ok window) ∧ trace = exchange reply :: rest ∧
          Yields (next window).run rest result := by
  constructor
  · intro run
    rcases yields_attempts.1 run with ⟨error, failed, -⟩ | ⟨reply, _, _, rfl, answered, rest⟩
    · obtain ⟨_, -, ⟨⟩⟩ := asks.1 failed
    -- the answer alone says whether the window fits
    obtain ⟨_, rfl, ⟨⟩⟩ := asks.1 answered
    refine ⟨reply, ?_⟩
    rcases yields_attempts.1 rest with ⟨error, failed, rfl⟩ | ⟨window, _, later, rfl, fitted, goes⟩
    · obtain ⟨rfl, unfit⟩ := yields_window.1 failed
      exact .inl ⟨error, unfit, rfl, rfl⟩
    · obtain ⟨rfl, fits⟩ := yields_window.1 fitted
      exact .inr ⟨window, later, fits, rfl, goes⟩
  · rintro ⟨reply, ⟨error, unfit, rfl, rfl⟩ | ⟨window, rest, fits, rfl, later⟩⟩
    · refine yields_attempts.2 (.inr ⟨reply, [_], [], rfl, asks.2 ⟨reply, rfl, rfl⟩, ?_⟩)
      exact yields_attempts.2 (.inl ⟨error, yields_window.2 ⟨rfl, unfit⟩, rfl⟩)
    · refine yields_attempts.2 (.inr ⟨reply, [_], rest, rfl, asks.2 ⟨reply, rfl, rfl⟩, ?_⟩)
      exact yields_attempts.2 (.inr ⟨window, [], rest, rfl, yields_window.2 ⟨rfl, fits⟩, later⟩)

theorem yields_windows_iff {contract : Bound} {result : Except Error (UInt64 × UInt64)} :
    Yields (windows contract).run trace result ↔ Measures contract trace result := by
  constructor
  · intro run
    obtain ⟨_, ⟨error, unfit, rfl, rfl⟩ | ⟨_, _, challengeFits, rfl, ask⟩⟩ :=
      (yields_asked_window yields_lift_query).1 run
    · exact .challengeUnfit unfit
    obtain ⟨_, ⟨error, unfit, rfl, rfl⟩ | ⟨_, _, resolveFits, rfl, finish⟩⟩ :=
      (yields_asked_window yields_lift_query).1 ask
    · exact .resolveUnfit challengeFits unfit
    obtain ⟨rfl, rfl⟩ := yields_done.1 finish
    exact .both challengeFits resolveFits
  · rintro (unfit | ⟨challengeFits, unfit⟩ | ⟨challengeFits, resolveFits⟩)
    · exact (yields_asked_window yields_lift_query).2 ⟨_, .inl ⟨_, unfit, rfl, rfl⟩⟩
    · refine (yields_asked_window yields_lift_query).2 ⟨_, .inr ⟨_, _, challengeFits, rfl, ?_⟩⟩
      exact (yields_asked_window yields_lift_query).2 ⟨_, .inl ⟨_, unfit, rfl, rfl⟩⟩
    · refine (yields_asked_window yields_lift_query).2 ⟨_, .inr ⟨_, _, challengeFits, rfl, ?_⟩⟩
      exact (yields_asked_window yields_lift_query).2 ⟨_, .inr ⟨_, [], resolveFits, rfl, .done _⟩⟩

theorem enabled_of_sound (sound : config.fault? = none) :
    config.challenges = true ∨ config.resolves = true := by
  unfold Config.fault? at sound
  split_ifs at sound with _ _ _ _ _ _ idle
  cases enabled : config.challenges with
  | true => exact .inl rfl
  | false => exact .inr (by simpa [enabled] using idle)

/-- Nothing can go wrong any more once the windows are known. -/
theorem run_books {setup : Coordinator.Setup} (sound : config.fault? = none)
    (crew : setup.takes = takes config) :
    (books setup : Preparing Binder Bound Coordinator.Books).run =
      .done (.ok (.new setup.retryInterval)) := by
  have started : Coordinator.start setup = .ok (.new setup.retryInterval) :=
    Coordinator.start_eq_ok_iff.2 ⟨by rw [crew]; exact enabled_of_sound sound, rfl⟩
  rw [books, started]
  rfl

theorem yields_prepare_of_chooses {binder : Binder} {contract : Bound}
    {own : List (Exchange Binder Bound)} {measured : Except Error (UInt64 × UInt64)}
    (chosen : Chooses registrations config binder)
    (run : Yields (windows contract).run own measured) :
    Yields (prepare (filled registrations) account hasBlobs config).run
      (bound config binder (.ok contract) :: own)
      (measured.map fun windows => outfit account hasBlobs config windows.1 windows.2) := by
  refine yields_attempts.2 (.inr ⟨(), [], _, rfl, yields_check.2 ⟨rfl, .inr ⟨chosen.sound, rfl⟩⟩, ?_⟩)
  have bound := yields_connect.2 (.inr ⟨binder, .ok contract, chosen.registered, rfl, rfl⟩)
  refine yields_attempts.2 (.inr ⟨contract, [_], own, rfl, bound, ?_⟩)
  cases measured with
  | error error => exact yields_attempts.2 (.inl ⟨error, run, rfl⟩)
  | ok windows =>
    refine yields_attempts.2 (.inr ⟨windows, own, [], (List.append_nil _).symm, run, ?_⟩)
    rw [ExceptT.run_bind, run_books chosen.sound rfl]
    exact .done _

theorem yields_prepare_iff {result : Except Error (Setup × Coordinator.Books)} :
    Yields (prepare (filled registrations) account hasBlobs config).run trace result ↔
      Stages registrations account hasBlobs config trace result := by
  constructor
  · intro run
    -- the check, which asks for nothing
    rcases yields_attempts.1 run with ⟨error, failed, rfl⟩ | ⟨_, _, _, rfl, passed, bind⟩
    · obtain ⟨rfl, ⟨fault, found, ⟨⟩⟩ | ⟨_, ⟨⟩⟩⟩ := yields_check.1 failed
      exact .faulty found
    obtain ⟨rfl, ⟨_, _, ⟨⟩⟩ | ⟨sound, -⟩⟩ := yields_check.1 passed
    -- the registry and then the binder it holds
    rcases yields_attempts.1 bind with ⟨error, failed, rfl⟩ | ⟨contract, _, _, rfl, bound, ask⟩
    · rcases yields_connect.1 failed with ⟨rfl, unnamed, ⟨⟩⟩ | ⟨binder, _ | _, last, rfl, ⟨⟩⟩
      · exact .unregistered sound unnamed
      · exact .unbound ⟨sound, last⟩
    obtain ⟨_, _, ⟨⟩⟩ | ⟨binder, _ | _, last, rfl, ⟨⟩⟩ := yields_connect.1 bound
    -- the windows, after which nothing fails any more
    rcases yields_attempts.1 ask with ⟨error, failed, rfl⟩ | ⟨windows, _, _, rfl, read, finish⟩
    · exact .unfit ⟨sound, last⟩ (yields_windows_iff.1 failed)
    rw [ExceptT.run_bind, run_books sound rfl] at finish
    obtain ⟨rfl, rfl⟩ := yields_done.1 finish
    rw [List.append_nil]
    exact .ready ⟨sound, last⟩ (yields_windows_iff.1 read)
  · rintro (found | ⟨sound, unnamed⟩ | ⟨chosen⟩ | ⟨chosen, unfit⟩ | ⟨chosen, measured⟩)
    · exact yields_attempts.2 (.inl ⟨_, yields_check.2 ⟨rfl, .inl ⟨_, found, rfl⟩⟩, rfl⟩)
    · refine yields_attempts.2 (.inr ⟨(), [], [], rfl, yields_check.2 ⟨rfl, .inr ⟨sound, rfl⟩⟩, ?_⟩)
      exact yields_attempts.2 (.inl ⟨_, yields_connect.2 (.inl ⟨rfl, unnamed, rfl⟩), rfl⟩)
    · refine yields_attempts.2 (.inr ⟨(), [], _, rfl, yields_check.2 ⟨rfl, .inr ⟨chosen.sound, rfl⟩⟩, ?_⟩)
      refine yields_attempts.2 (.inl ⟨_, yields_connect.2 (.inr ?_), rfl⟩)
      exact ⟨_, _, chosen.registered, rfl, rfl⟩
    · exact yields_prepare_of_chooses chosen (yields_windows_iff.2 unfit)
    · exact yields_prepare_of_chooses chosen (yields_windows_iff.2 measured)

/-! ## What a preparation ends with -/

/-- Every stage goes well with these answers. -/
structure Passes (registrations : List (Contract.Pair × Binder)) (config : Config)
    (answers : (query : Query Binder Bound) → query.Answer) (binder : Binder) (contract : Bound)
    (challengeBlocks resolveBlocks : Word) : Prop where
  chosen : Chooses registrations config binder
  binds : answers (.bind ⟨binder, config.contract⟩) = Except.ok contract
  challengeRead : answers (.challengeWindow contract) = Except.ok challengeBlocks
  challengeShort : challengeBlocks.toNat < UInt64.size
  resolveRead : answers (.resolveWindow contract) = Except.ok resolveBlocks
  resolveShort : resolveBlocks.toNat < UInt64.size

/-- The service runs with the windows as they were read and with everybody it is to employ. -/
structure Equipped (config : Config) (trace : List (Exchange Binder Bound)) (setup : Setup)
    (books : Coordinator.Books) : Prop where
  windows : ∃ binder contract challengeBlocks resolveBlocks,
    trace = [bound config binder (.ok contract), readChallengeWindow contract (.ok challengeBlocks),
      readResolveWindow contract (.ok resolveBlocks)] ∧
    setup.challenger.coordinator.challengeWindow.toNat = challengeBlocks.toNat ∧
    setup.challenger.coordinator.resolveWindow.toNat = resolveBlocks.toNat
  challenges : (Service.new setup books).challenger.crew.takes .challenge = config.challenges
  resolves : (Service.new setup books).challenger.crew.takes .resolve = config.resolves
  unlocks : (Service.new setup books).challenger.crew.takes .unlock =
    (config.managesBonds && config.challenges)
  withdraws : (Service.new setup books).challenger.crew.takes .withdraw = config.managesBonds

theorem takes_new (setup : Setup) (books : Coordinator.Books) (kind : ActionKind) :
    (Service.new setup books).challenger.crew.takes kind =
      setup.challenger.coordinator.takes kind := by
  simp only [Service.new, Challenger.new, Crew.takes, Crew.new, PerKind.get_ofFn]
  cases setup.challenger.coordinator.takes kind <;> rfl

theorem Stages.of_ok {ready : Setup × Coordinator.Books}
    (stages : Stages registrations account hasBlobs config trace (.ok ready)) :
    ∃ binder contract challengeBlocks resolveBlocks challengeWindow resolveWindow,
      Chooses registrations config binder ∧
      trace = [bound config binder (.ok contract), readChallengeWindow contract (.ok challengeBlocks),
        readResolveWindow contract (.ok resolveBlocks)] ∧
      challengeWindow.toNat = challengeBlocks.toNat ∧ resolveWindow.toNat = resolveBlocks.toNat ∧
      ready = outfit account hasBlobs config challengeWindow resolveWindow := by
  cases stages with
  | ready chosen measured =>
    cases measured with
    | both challengeFits resolveFits =>
      cases challengeFits with
      | fits challengeSame =>
        cases resolveFits with
        | fits resolveSame =>
          exact ⟨_, _, _, _, _, _, chosen, rfl, challengeSame, resolveSame, rfl⟩

theorem Stages.equipped {setup : Setup} {books : Coordinator.Books}
    (stages : Stages registrations account hasBlobs config trace (.ok (setup, books))) :
    Equipped config trace setup books := by
  obtain ⟨binder, contract, _, _, _, _, -, rfl, challengeSame, resolveSame, ⟨⟩⟩ := stages.of_ok
  exact ⟨⟨binder, contract, _, _, rfl, challengeSame, resolveSame⟩, takes_new .., takes_new ..,
    takes_new .., takes_new ..⟩

theorem Stages.ne_coordinator {error : Coordinator.Error}
    (stages : Stages registrations account hasBlobs config trace (.error (.coordinator error))) :
    False := by
  cases stages with
  | unfit chosen unfit =>
    cases unfit with
    | challengeUnfit unfit => cases unfit
    | resolveUnfit challengeFits unfit => cases unfit

section
variable {answers : (query : Query Binder Bound) → query.Answer}

theorem Stages.passes {ready : Setup × Coordinator.Books}
    (stages : Stages registrations account hasBlobs config trace (.ok ready))
    (answered : ∀ exchange ∈ trace, exchange.answer = answers exchange.query) :
    ∃ binder contract challengeBlocks resolveBlocks,
      Passes registrations config answers binder contract challengeBlocks resolveBlocks := by
  obtain ⟨binder, contract, _, _, _, _, chosen, rfl, challengeSame, resolveSame, -⟩ := stages.of_ok
  simp only [List.forall_mem_cons, List.not_mem_nil, false_implies, implies_true, and_true] at answered
  obtain ⟨binds, challengeRead, resolveRead⟩ := answered
  exact ⟨binder, contract, _, _, chosen, binds.symm, challengeRead.symm,
    challengeSame ▸ UInt64.toNat_lt_size _, resolveRead.symm,
    resolveSame ▸ UInt64.toNat_lt_size _⟩

theorem exists_fits {name : String} {blocks : Word} (short : blocks.toNat < UInt64.size) :
    ∃ window, Fits name (.ok blocks) (.ok window) :=
  ⟨UInt64.ofNat blocks.toNat, .fits (UInt64.toNat_ofNat_of_lt' short)⟩

theorem Passes.stages {binder : Binder} {contract : Bound} {challengeBlocks resolveBlocks : Word}
    (passes : Passes registrations config answers binder contract challengeBlocks resolveBlocks) :
    ∃ trace ready, Stages registrations account hasBlobs config trace (.ok ready) ∧
      ∀ exchange ∈ trace, exchange.answer = answers exchange.query := by
  obtain ⟨challengeWindow, challengeFits⟩ := exists_fits passes.challengeShort
  obtain ⟨resolveWindow, resolveFits⟩ := exists_fits passes.resolveShort
  refine ⟨[bound config binder (.ok contract), readChallengeWindow contract _,
    readResolveWindow contract _], _, .ready passes.chosen (.both challengeFits resolveFits), ?_⟩
  simp only [List.forall_mem_cons, List.not_mem_nil, false_implies, implies_true, and_true]
  exact ⟨passes.binds.symm, passes.challengeRead.symm, passes.resolveRead.symm⟩

theorem prepare_ok_iff :
    (∃ ready, ((prepare (filled registrations) account hasBlobs config).run.record answers).2 =
      .ok ready) ↔
      ∃ binder contract challengeBlocks resolveBlocks,
        Passes registrations config answers binder contract challengeBlocks resolveBlocks := by
  have run := Program.yields_record answers (prepare (filled registrations) account hasBlobs config).run
  have answered := Program.record_answers answers
    (prepare (filled registrations) account hasBlobs config).run
  constructor
  · rintro ⟨ready, succeeded⟩
    rw [succeeded, yields_prepare_iff] at run
    exact run.passes answered
  · rintro ⟨binder, contract, challengeBlocks, resolveBlocks, passes⟩
    obtain ⟨trace, ready, stages, answered⟩ := passes.stages
    exact ⟨ready, congrArg Prod.snd
      (Program.record_eq_of_yields (yields_prepare_iff.2 stages) answered)⟩

end

/-- A preparation ends at the first stage that fails and asks for nothing that comes after it. It
succeeds if every stage goes well, and then with the windows of the contract and a crew for what
the configuration asks for. -/
theorem prepared_stage_by_stage (registrations : List (Contract.Pair × Binder)) (account : Address)
    (hasBlobs : Bool) (config : Config) :
    (∀ (trace : List (Exchange Binder Bound)) result,
      Yields (prepare (filled registrations) account hasBlobs config).run trace result ↔
        Stages registrations account hasBlobs config trace result) ∧
    (∀ answers : (query : Query Binder Bound) → query.Answer,
      (∃ ready, ((prepare (filled registrations) account hasBlobs config).run.record answers).2 =
        .ok ready) ↔
        ∃ binder contract challengeBlocks resolveBlocks,
          Passes registrations config answers binder contract challengeBlocks resolveBlocks) ∧
    (∀ (trace : List (Exchange Binder Bound)) setup books,
      Yields (prepare (filled registrations) account hasBlobs config).run trace (.ok (setup, books)) →
        Equipped config trace setup books) ∧
    ∀ (trace : List (Exchange Binder Bound)) error,
      ¬ Yields (prepare (filled registrations) account hasBlobs config).run trace
        (.error (.coordinator error)) := by
  refine ⟨fun trace result => yields_prepare_iff, fun answers => prepare_ok_iff, ?_, ?_⟩
  · intro trace setup books run
    exact (yields_prepare_iff.1 run).equipped
  · intro trace error run
    exact (yields_prepare_iff.1 run).ne_coordinator

end ChallengeGame.Service
