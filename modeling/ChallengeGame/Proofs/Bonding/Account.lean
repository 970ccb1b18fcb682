import ChallengeGame.Proofs.Bonding.Moves

/-!
# The account of a bond

Whatever is executed in whatever order, the balance is what a worker has read at any time, plus
what was deposited since, less what was paid out and what challenges took since.
-/

namespace ChallengeGame.Bonding

/-! ## Sums over what was seen -/

namespace Event

def deposited : Event → Nat
  | executed ⟨_, .deposit value, _, false⟩ => value.toNat
  | _ => 0

def paidOut : Event → Nat
  | executed ⟨_, .withdraw, found, false⟩ => found.toNat
  | _ => 0

def taken (bondSize : Word) : Event → Nat
  | executed ⟨_, .challenge, _, false⟩ => bondSize.toNat
  | _ => 0

def counts : Event → Bool
  | read _ _ => true
  | executed _ => true
  | _ => false

theorem amounts_eq_zero (bondSize : Word) {event : Event} (calm : event.counts = false) :
    event.paidOut = 0 ∧ event.taken bondSize = 0 ∧ event.deposited = 0 := by
  cases event with
  | executed execution => cases calm
  | _ => exact ⟨rfl, rfl, rfl⟩

end Event

def total (amount : Event → Nat) : List Event → Nat
  | [] => 0
  | event :: rest => amount event + total amount rest

theorem total_append (amount : Event → Nat) (first second : List Event) :
    total amount (first ++ second) = total amount first + total amount second := by
  induction first with
  | nil => simp [total]
  | cons event rest ih => simp [total, ih, Nat.add_assoc]

theorem total_skip {amount : Event → Nat} {event : Event} {first second : List Event}
    (none : amount event = 0) :
    total amount (first ++ event :: second) = total amount (first ++ second) := by
  rw [total_append, total, none, Nat.zero_add, total_append]

@[simp] theorem total_singleton (amount : Event → Nat) (event : Event) :
    total amount [event] = amount event := by
  simp [total]

theorem total_eq_zero {amount : Event → Nat} {events : List Event}
    (none : ∀ event ∈ events, amount event = 0) : total amount events = 0 := by
  induction events with
  | nil => rfl
  | cons event rest ih =>
    rw [total, none event List.mem_cons_self, Nat.zero_add]
    exact ih fun later mem => none later (List.mem_cons_of_mem _ mem)

/-! ## The account -/

/-- The balance by what was read at any time and what was seen since. -/
def Accounted (setup : Setup) (balance : Word) (past : List Event) : Prop :=
  ∀ before side value since, past = before ++ .read side value :: since →
    balance.toNat + total Event.paidOut since + total (Event.taken setup.bondSize) since =
      value.toNat + total Event.deposited since

section
variable {setup : Setup} {balance after : Word} {past shown : List Event}

theorem read_of_append {before since : List Event} {side : Side} {value : Word}
    (same : past ++ shown = before ++ .read side value :: since)
    (unread : ∀ side value, Event.read side value ∉ shown) :
    ∃ middle, past = before ++ .read side value :: middle ∧ since = middle ++ shown := by
  rcases append_at.1 same with ⟨middle, split, rfl⟩ | ⟨own, _, inside⟩
  · exact ⟨middle, split, rfl⟩
  · -- the read would be at the end
    exact absurd (by simp [inside]) (unread side value)

theorem Accounted.append (account : Accounted setup balance past)
    (unread : ∀ side value, Event.read side value ∉ shown)
    (changed : after.toNat + total Event.paidOut shown + total (Event.taken setup.bondSize) shown =
      balance.toNat + total Event.deposited shown) :
    Accounted setup after (past ++ shown) := by
  intro before side value since same
  obtain ⟨middle, split, rfl⟩ := read_of_append same unread
  have sofar := account before side value middle split
  rw [total_append, total_append, total_append]
  omega

theorem Accounted.quiet (account : Accounted setup balance past)
    (quiet : ∀ event ∈ shown, event.counts = false) : Accounted setup balance (past ++ shown) := by
  refine account.append (fun side value mem => nomatch quiet _ mem) ?_
  have nothing := fun event mem => Event.amounts_eq_zero setup.bondSize (quiet event mem)
  rw [total_eq_zero fun event mem => (nothing event mem).1,
    total_eq_zero fun event mem => (nothing event mem).2.1,
    total_eq_zero fun event mem => (nothing event mem).2.2]

theorem Accounted.read (account : Accounted setup balance past) (side : Side) :
    Accounted setup balance (past ++ [.read side balance]) := by
  intro before other value since same
  rcases append_at.1 same with ⟨middle, split, rfl⟩ | ⟨own, _, inside⟩
  · have sofar := account before other value middle split
    simpa [total_append, Event.paidOut, Event.taken, Event.deposited] using sofar
  · -- the read is the last event
    obtain ⟨rfl, same⟩ : own = [] ∧ [Event.read side balance] = .read other value :: since := by
      cases own with
      | nil => exact ⟨rfl, inside⟩
      | cons event rest => simp at inside
    cases same
    rfl

theorem Accounted.seen {side : Side} {call : Contract.Call}
    {reply : Except Contract.CallError Bytes} (account : Accounted setup balance past) :
    Accounted setup balance (past ++ seen setup side call reply balance) := by
  rcases seen_cases setup side call reply balance with none | one
  · rwa [none, List.append_nil]
  · rw [one]
    exact account.read side

end

/-- Whatever a transaction does, the balance follows. -/
theorem Executes.balance {bondSize : Word} {transaction : Hash} {reverts : Bool}
    {chain after : Chain} {execution : Execution}
    (executes : Executes bondSize transaction reverts chain after execution) :
    after.balance.toNat + Event.paidOut (.executed execution) +
        Event.taken bondSize (.executed execution) =
      chain.balance.toNat + Event.deposited (.executed execution) := by
  -- a transaction that reverts counts for nothing
  cases executes with
  | @landed effect balance pending kept leaves =>
    cases effect with
    | deposit value =>
      simp only [Effect.leaves?, Option.ite_none_right_eq_some, Option.some.injEq] at leaves
      obtain ⟨fits, rfl⟩ := leaves
      exact BitVec.toNat_add_of_lt fits
    | challenge =>
      simp only [Effect.leaves?, Option.ite_none_right_eq_some, Option.some.injEq] at leaves
      obtain ⟨enough, rfl⟩ := leaves
      have below : bondSize.toNat ≤ chain.balance.toNat := enough
      show (chain.balance - bondSize).toNat + 0 + bondSize.toNat = chain.balance.toNat + 0
      rw [BitVec.toNat_sub_of_le enough, Nat.add_zero, Nat.sub_add_cancel below, Nat.add_zero]
    | withdraw =>
      cases leaves
      show 0 + chain.balance.toNat + 0 = chain.balance.toNat + 0
      rw [Nat.zero_add]
    | other =>
      cases leaves
      rfl
  | @reverted effect pending fails => cases effect <;> rfl

end ChallengeGame.Bonding
