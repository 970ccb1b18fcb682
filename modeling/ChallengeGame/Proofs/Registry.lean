import ChallengeGame.Contract.Registry

/-!
# What a registry holds

A registry that was filled by registrations holds for each pair what was registered for it last,
and nothing for a pair that was never registered.
-/

namespace ChallengeGame.Contract.Registry

variable {Binder : Type} {registry : Registry Binder} {registrations : List (Pair × Binder)}
  {pair other : Pair} {binder : Binder}

/-! ## One registration -/

theorem lookup_filter_self (entries : List (Pair × Binder)) :
    (entries.filter fun entry => entry.1 ≠ pair).lookup pair = none := by
  refine List.lookup_eq_none_iff.2 fun entry mem => ?_
  have apart : entry.1 ≠ pair := by simpa using (List.mem_filter.1 mem).2
  simpa using apart.symm

theorem lookup_filter_of_ne (entries : List (Pair × Binder)) (different : other ≠ pair) :
    (entries.filter fun entry => entry.1 ≠ pair).lookup other = entries.lookup other := by
  induction entries with
  | nil => rfl
  | cons entry rest ih =>
    by_cases same : entry.1 = pair
    · have apart : (other == entry.1) = false := beq_false_of_ne (same ▸ different)
      rw [List.filter_cons_of_neg (by simpa using same), ih, List.lookup_cons, apart]
    · rw [List.filter_cons_of_pos (by simpa using same), List.lookup_cons, List.lookup_cons, ih]

theorem find?_register_self : (registry.register pair binder).find? pair = some binder := by
  rw [find?, register, List.lookup_append, lookup_filter_self]
  exact List.lookup_cons_self

theorem find?_register_of_ne (different : other ≠ pair) :
    (registry.register pair binder).find? other = registry.find? other := by
  have apart : (other == pair) = false := beq_false_of_ne different
  rw [find?, register, List.lookup_append, lookup_filter_of_ne _ different, List.lookup_cons, apart]
  exact Option.or_none

/-! ## Registrations one after the other -/

def registerAll (registry : Registry Binder) (registrations : List (Pair × Binder)) :
    Registry Binder :=
  registrations.foldl (fun registry entry => registry.register entry.1 entry.2) registry

def filled (registrations : List (Pair × Binder)) : Registry Binder :=
  empty.registerAll registrations

def Names (registrations : List (Pair × Binder)) (pair : Pair) : Prop :=
  ∃ entry ∈ registrations, entry.1 = pair

/-- The last registration of the pair is one of the binder. -/
def LastIs (registrations : List (Pair × Binder)) (pair : Pair) (binder : Binder) : Prop :=
  ∃ before after, registrations = before ++ (pair, binder) :: after ∧ ¬ Names after pair

theorem exists_lastIs (named : Names registrations pair) :
    ∃ binder, LastIs registrations pair binder := by
  induction registrations with
  | nil =>
    obtain ⟨_, mem, _⟩ := named
    cases mem
  | cons first rest ih =>
    -- the first one is the last one of the pair only if no other follows
    by_cases later : Names rest pair
    · obtain ⟨binder, before, after, rfl, last⟩ := ih later
      exact ⟨binder, first :: before, after, rfl, last⟩
    · obtain ⟨_, mem, rfl⟩ := named
      rcases List.mem_cons.1 mem with rfl | mem
      · exact ⟨_, [], rest, rfl, later⟩
      · exact absurd ⟨_, mem, rfl⟩ later

theorem find?_registerAll_of_unnamed (unnamed : ¬ Names registrations pair) :
    (registry.registerAll registrations).find? pair = registry.find? pair := by
  induction registrations generalizing registry with
  | nil => rfl
  | cons first rest ih =>
    have different : pair ≠ first.1 := fun same => unnamed ⟨first, List.mem_cons_self, same.symm⟩
    have others : ¬ Names rest pair := fun ⟨entry, mem, same⟩ =>
      unnamed ⟨entry, List.mem_cons_of_mem _ mem, same⟩
    exact (ih others).trans (find?_register_of_ne different)

theorem find?_registerAll_of_lastIs (last : LastIs registrations pair binder) :
    (registry.registerAll registrations).find? pair = some binder := by
  obtain ⟨before, after, rfl, unnamed⟩ := last
  rw [registerAll, List.foldl_append, List.foldl_cons]
  exact (find?_registerAll_of_unnamed unnamed).trans find?_register_self

theorem lookup_filled_of_lastIs (last : LastIs registrations pair binder) :
    (filled registrations).lookup pair = .ok binder := by
  rw [lookup, filled, find?_registerAll_of_lastIs last]

theorem lookup_filled_of_unnamed (unnamed : ¬ Names registrations pair) :
    (filled registrations).lookup pair = .error (absence pair) := by
  rw [lookup, filled, find?_registerAll_of_unnamed unnamed]
  rfl

/-- Of several registrations of a pair the last one counts. -/
theorem lookup_filled_eq_ok_iff :
    (filled registrations).lookup pair = .ok binder ↔ LastIs registrations pair binder := by
  refine ⟨fun found => ?_, lookup_filled_of_lastIs⟩
  by_cases named : Names registrations pair
  · obtain ⟨held, last⟩ := exists_lastIs named
    obtain rfl := Except.ok.inj ((lookup_filled_of_lastIs last).symm.trans found)
    exact last
  · cases (lookup_filled_of_unnamed named).symm.trans found

theorem lookup_filled_eq_error_iff {error : RegistryError} :
    (filled registrations).lookup pair = .error error ↔
      ¬ Names registrations pair ∧ error = absence pair := by
  constructor
  · intro failed
    by_cases named : Names registrations pair
    · obtain ⟨held, last⟩ := exists_lastIs named
      cases (lookup_filled_of_lastIs last).symm.trans failed
    · exact ⟨named, (Except.error.inj ((lookup_filled_of_unnamed named).symm.trans failed)).symm⟩
  · rintro ⟨unnamed, rfl⟩
    exact lookup_filled_of_unnamed unnamed

end ChallengeGame.Contract.Registry
