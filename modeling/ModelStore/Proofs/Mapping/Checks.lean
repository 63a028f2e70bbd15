import ModelStore.Proofs.Mapping.Declared

/-!
What the checks of a declaration promise: which discriminators have a value, that these agree with
those of the parent, and that no name along the chain is used twice.
-/

namespace ModelStore

namespace Declaration

variable {name n : String} {values : Assoc String String} {chain : List Level} {l : Level}
  {taken : Taken} {refs : List String} {fs : List MappingField}

theorem checkGiven_cases (checked : checkGiven name values chain = .ok ()) :
    ∀ a ∈ chain, ∃ k, a.discriminator = some k ∧ (values.get? k).isSome = true := by
  induction chain with
  | nil => exact List.forall_mem_nil _
  | cons a chain ih =>
    unfold checkGiven at checked
    split at checked
    · cases checked
    · rename_i k open_
      split at checked
      · rename_i given
        rw [Assoc.has_eq_isSome] at given
        intro b member
        rcases List.mem_cons.mp member with rfl | later
        · exact ⟨k, open_, given⟩
        · exact ih checked b later
      · cases checked

theorem checkExpected_cases (checked : checkExpected values chain = .ok ()) :
    ∀ k ∈ values.keys, ∃ a ∈ chain, a.discriminator = some k := by
  intro k member
  unfold checkExpected at checked
  by_cases expected : k ∈ chain.filterMap (·.discriminator)
  · exact List.mem_filterMap.mp expected
  · have unknown : k ∈ sortNames
        (values.keys.filter (!(chain.filterMap (·.discriminator)).contains ·)) := by
      rw [sortNames, List.mem_mergeSort, List.mem_filter, List.contains_eq_mem, decide_eq_false expected]
      exact ⟨member, rfl⟩
    rw [if_neg fun none => List.ne_nil_of_mem unknown (List.isEmpty_iff.mp none)] at checked
    cases checked

theorem checkInherited_cases {inherited : Assoc String String}
    (checked : checkInherited name values inherited = .ok ()) :
    ∀ e ∈ inherited, values.get? e.1 = some e.2 := by
  induction inherited with
  | nil => exact List.forall_mem_nil _
  | cons e rest ih =>
    unfold checkInherited at checked
    split at checked
    · cases checked
    · rename_i given found
      split at checked
      · rename_i same
        rw [beq_iff_eq] at same
        subst same
        intro x member
        rcases List.mem_cons.mp member with rfl | later
        · exact found
        · exact ih checked x later
      · cases checked

theorem checkInheritance_root (checked : checkInheritance name values none = .ok ()) : values = [] := by
  by_cases empty : values.isEmpty
  · exact List.isEmpty_iff.mp empty
  · simp only [checkInheritance, empty] at checked
    cases checked

/-- What an extending mapping has of the discriminators of its chain. -/
theorem checkInheritance_parent {p : Mapping}
    (checked : checkInheritance name values (some p) = .ok ()) :
    (∃ k, p.discriminator = some k) ∧
      (∀ a ∈ p.chain, ∃ k, a.discriminator = some k ∧ (values.get? k).isSome = true) ∧
      (∀ k ∈ values.keys, ∃ a ∈ p.chain, a.discriminator = some k) ∧
      ∀ e ∈ p.values, values.get? e.1 = some e.2 := by
  unfold checkInheritance at checked
  cases open_ : p.discriminator with
  | none =>
    simp only [open_] at checked
    cases checked
  | some k =>
    simp only [open_, Option.isNone_some, Bool.false_eq_true, if_false] at checked
    rcases Outcome.of_bind checked with ⟨⟨⟩, given, checked⟩
    rcases Outcome.of_bind checked with ⟨⟨⟩, expected, inherited⟩
    exact ⟨⟨k, rfl⟩, checkGiven_cases given, checkExpected_cases expected,
      checkInherited_cases inherited⟩

/-! Names in use. -/

/-- The names of the stored fields of a level and of their attributes. -/
def used (l : Level) : List String :=
  l.discriminator.toList ++ l.fields.flatMap fun f => [f.name, f.ref]

theorem mem_keys_put {k v : String} :
    n ∈ Assoc.keys (Assoc.put taken k v) ↔ n ∈ Assoc.keys taken ∨ n = k := by
  rw [Assoc.keys_put]
  split
  · constructor
    · exact Or.inl
    · rintro (known | rfl)
      · exact known
      · assumption
  · rw [List.mem_append, List.mem_singleton]

theorem mem_keys_takeLevel :
    n ∈ Assoc.keys (takeLevel taken l) ↔ n ∈ Assoc.keys taken ∨ n ∈ used l := by
  have fields (fs : List MappingField) (taken : Taken) :
      n ∈ Assoc.keys (fs.foldl (fun taken f => (taken.put f.name l.name).put f.ref l.name) taken) ↔
        n ∈ Assoc.keys taken ∨ n ∈ fs.flatMap fun f => [f.name, f.ref] := by
    induction fs generalizing taken with
    | nil => simp
    | cons f fs ih =>
      rw [List.foldl_cons, ih, mem_keys_put, mem_keys_put, List.flatMap_cons, List.mem_append,
        List.mem_cons, List.mem_singleton]
      simp only [or_assoc]
  rw [takeLevel, fields, used, List.mem_append, ← or_assoc]
  cases l.discriminator with
  | none => simp
  | some k => simp [mem_keys_put]

theorem mem_keys_takenBy : n ∈ Assoc.keys (takenBy chain) ↔ ∃ a ∈ chain, n ∈ used a := by
  have levels (chain : List Level) (taken : Taken) :
      n ∈ Assoc.keys (chain.foldl takeLevel taken) ↔
        n ∈ Assoc.keys taken ∨ ∃ a ∈ chain, n ∈ used a := by
    induction chain generalizing taken with
    | nil => simp
    | cons a chain ih =>
      rw [List.foldl_cons, ih, mem_keys_takeLevel, or_assoc]
      simp only [List.mem_cons, exists_eq_or_imp]
  rw [takenBy, levels]
  simp [Assoc.keys]

/-- What is asked of a field and one that comes after it: they share neither name nor attribute, and the attribute
    of the later one is not the name of the earlier one. -/
def Precedes (f g : MappingField) : Prop := f.name ≠ g.name ∧ f.ref ≠ g.ref ∧ f.name ≠ g.ref

theorem checkFields_cons_iff {f : MappingField} :
    checkFields name taken refs (f :: fs) = .ok () ↔ (f.name ∉ taken.keys ∧ f.ref ∉ taken.keys ∧ f.ref ∉ refs) ∧
      checkFields name (taken.put f.name name) (f.ref :: refs) fs = .ok () := by
  rw [checkFields]
  cases named : taken.get? f.name with
  | some owner =>
    have known := Assoc.get?_isSome_iff.mp (Option.isSome_of_eq_some named)
    exact ⟨nofun, fun fresh => absurd known fresh.1.1⟩
  | none =>
    have absent := Assoc.get?_eq_none_iff.mp named
    by_cases clear : f.ref ∉ taken.keys ∧ f.ref ∉ refs
    · have free : (taken.has f.ref || refs.contains f.ref) = false := by
        rw [Bool.or_eq_false_iff, ← Bool.not_eq_true, Assoc.has_eq_isSome, Assoc.get?_isSome_iff]
        exact ⟨clear.1, by simpa using clear.2⟩
      rw [free]
      exact ⟨fun rest => ⟨⟨absent, clear⟩, rest⟩, And.right⟩
    · have used : (taken.has f.ref || refs.contains f.ref) = true := by
        rw [Bool.or_eq_true, Assoc.has_eq_isSome, Assoc.get?_isSome_iff, List.contains_iff_mem]
        exact Decidable.or_iff_not_not_and_not.mpr clear
      rw [used]
      exact ⟨nofun, fun fresh => absurd fresh.1.2 clear⟩

/-- Fields are accepted if they are new beside the names in use, and each precedes those after it. -/
theorem checkFields_iff : checkFields name taken refs fs = .ok () ↔
    (∀ f ∈ fs, f.name ∉ taken.keys ∧ f.ref ∉ taken.keys ∧ f.ref ∉ refs) ∧ fs.Pairwise Precedes := by
  induction fs generalizing taken refs with
  | nil => exact ⟨fun _ => ⟨List.forall_mem_nil _, .nil⟩, fun _ => rfl⟩
  | cons f fs ih =>
    -- what the first field adds to the names in use is what it has to precede
    have later : (∀ g ∈ fs, g.name ∉ (taken.put f.name name).keys ∧ g.ref ∉ (taken.put f.name name).keys ∧
        g.ref ∉ f.ref :: refs) ↔
        (∀ g ∈ fs, g.name ∉ taken.keys ∧ g.ref ∉ taken.keys ∧ g.ref ∉ refs) ∧ ∀ g ∈ fs, Precedes f g := by
      rw [← forall₂_and]
      refine forall₂_congr fun g _ => ?_
      simp only [mem_keys_put, List.mem_cons, Precedes, not_or, ne_comm (a := f.name), ne_comm (a := f.ref)]
      tauto
    rw [checkFields_cons_iff, ih, later, List.forall_mem_cons, List.pairwise_cons]
    simp only [and_assoc]

/-- Fields that are new beside the names in use, and unlike each other. -/
structure Fresh (taken : String → Prop) (fs : List MappingField) : Prop where
  names : ∀ f ∈ fs, ¬taken f.name
  refs : ∀ f ∈ fs, ¬taken f.ref
  distinct_names : (fs.map (·.name)).Nodup
  distinct_refs : (fs.map (·.ref)).Nodup

/-- A level is accepted if it uses no name of the levels above, its fields differ from its discriminator, and each
    of them precedes those after it. -/
theorem checkNames_iff : checkNames l chain = .ok () ↔ (∀ k ∈ l.discriminator, ¬∃ a ∈ chain, k ∈ used a) ∧
    (∀ f ∈ l.fields, ∀ n ∈ [f.name, f.ref], ¬((∃ a ∈ chain, n ∈ used a) ∨ n ∈ l.discriminator)) ∧
    l.fields.Pairwise Precedes := by
  have pair (f : MappingField) (P : String → Prop) : (∀ n ∈ [f.name, f.ref], P n) ↔ P f.name ∧ P f.ref := by
    rw [List.forall_mem_cons, List.forall_mem_singleton]
  rw [checkNames]
  cases l.discriminator with
  | none =>
    dsimp only
    simp only [checkFields_iff, pair, mem_keys_takenBy, List.not_mem_nil, not_false_eq_true, and_true,
      Option.not_mem_none, or_false, false_imp_iff, implies_true, true_and]
  | some k =>
    cases named : (takenBy chain).get? k with
    | some owner =>
      have known := mem_keys_takenBy.mp (Assoc.get?_isSome_iff.mp (Option.isSome_of_eq_some named))
      simp only [named]
      exact ⟨nofun, fun fresh => absurd known (fresh.1 k rfl)⟩
    | none =>
      have absent := mt mem_keys_takenBy.mpr (Assoc.get?_eq_none_iff.mp named)
      simp only [named, checkFields_iff, pair, mem_keys_put, mem_keys_takenBy, List.not_mem_nil, not_false_eq_true,
        and_true, Option.mem_some, @eq_comm _ k, forall_eq, absent, true_and]

/-- A level uses no name of the levels above, and its fields differ from its discriminator. -/
theorem checkNames_cases (checked : checkNames l chain = .ok ()) :
    (∀ k ∈ l.discriminator, ¬∃ a ∈ chain, k ∈ used a) ∧
      Fresh (fun n => (∃ a ∈ chain, n ∈ used a) ∨ n ∈ l.discriminator) l.fields := by
  obtain ⟨discriminator, fresh, ordered⟩ := checkNames_iff.mp checked
  refine ⟨discriminator, fun f declared => fresh f declared _ (List.mem_cons_self ..), fun f declared =>
    fresh f declared _ (List.mem_cons_of_mem _ (List.mem_singleton_self _)), ?_, ?_⟩
  · exact List.pairwise_map.mpr (ordered.imp And.left)
  · exact List.pairwise_map.mpr (ordered.imp fun precedes => precedes.2.1)

end Declaration

end ModelStore
