import ModelStore.Proofs.Mapping.Checks

/-!
Chains of mappings that extend each other. The checks look at the values of the parent alone and at names that
are collected level by level; from one level to the next they keep a whole chain in order.
-/

namespace ModelStore

open Declaration

/-- The discriminator of a level, and one of the names of each field. -/
def Level.keysBy (key : MappingField → String) (a : Level) : List String :=
  a.discriminator.toList ++ a.fields.map key

/-- These names along the chain, the root's first. -/
def Mapping.keysBy (key : MappingField → String) (m : Mapping) : List String :=
  m.chain.flatMap (Level.keysBy key)

/-- Every ancestor can be extended and has a value for its discriminator, no other discriminator has one, and no
    two columns along the chain, those of the discriminators included, share a name or an attribute. -/
structure Mapping.Chained (m : Mapping) : Prop where
  distinct : m.values.keys.Nodup
  valued : ∀ k, k ∈ m.values.keys ↔ ∃ a ∈ m.ancestors, a.discriminator = some k
  extensible : ∀ a ∈ m.ancestors, ∃ k, a.discriminator = some k
  names : (m.keysBy (·.name)).Nodup
  refs : (m.keysBy (·.ref)).Nodup

/-- A mapping has the values of all its ancestors. -/
def Mapping.Inherits (m : Mapping) : Prop :=
  ∀ a ∈ m.ancestors, ∀ k v, a.values.get? k = some v → m.values.get? k = some v

namespace Level

variable {a : Level} {key : MappingField → String} {n : String}

theorem used_of_keysBy (own : ∀ f : MappingField, key f ∈ [f.name, f.ref]) (member : n ∈ a.keysBy key) :
    n ∈ used a := by
  rcases List.mem_append.mp member with discriminator | field
  · exact List.mem_append_left _ discriminator
  · rcases List.mem_map.mp field with ⟨f, declared, rfl⟩
    exact List.mem_append_right _ (List.mem_flatMap.mpr ⟨f, declared, own f⟩)

theorem nodup_keysBy (distinct : (a.fields.map key).Nodup) (apart : ∀ f ∈ a.fields, key f ∉ a.discriminator) :
    (a.keysBy key).Nodup := by
  refine List.nodup_append.mpr ⟨Option.toList_nodup _, distinct, ?_⟩
  rintro _ own _ field rfl
  rcases List.mem_map.mp field with ⟨f, declared, rfl⟩
  exact apart f declared (Option.mem_toList.mp own)

/-- The stored fields of levels have these names. -/
theorem map_columns (key : MappingField → String) {as : List Level}
    (column : ∀ a ∈ as, ∃ raw c, a.column = a.discriminator.map (textField raw c))
    (own : ∀ raw c k, key (textField raw c k) = k) : (as.flatMap columns).map key = as.flatMap (keysBy key) := by
  rw [List.map_flatMap]
  refine List.flatMap_congr fun a link => ?_
  obtain ⟨raw, c, shape⟩ := column a link
  rw [columns, keysBy, shape, List.map_append]
  cases a.discriminator with
  | none => rfl
  | some k => exact congrArg (· :: a.fields.map key) (own raw c k)

theorem keysBy_perm (key : MappingField → String) (as : List Level) :
    (as.flatMap (keysBy key)).Perm (as.filterMap (·.discriminator) ++ (as.flatMap (·.fields)).map key) := by
  rw [List.filterMap_eq_flatMap_toList, List.map_flatMap]
  exact (List.flatMap_append_perm ..).symm

end Level

namespace Layout.Linked

variable {m p : Mapping} {parent : Option Mapping}

theorem ancestors_of_some (linked : Linked m (some p)) : m.ancestors = p.chain := linked.ancestors

/-- Every ancestor has a value for its discriminator. -/
theorem given (linked : Linked m parent) :
    ∀ a ∈ m.ancestors, ∃ k, a.discriminator = some k ∧ k ∈ m.values.keys := by
  cases parent with
  | none =>
    rw [linked.ancestors]
    exact List.forall_mem_nil _
  | some p =>
    obtain ⟨-, given, -, -⟩ := checkInheritance_parent linked.inheritance
    rw [linked.ancestors_of_some]
    intro a above
    obtain ⟨k, open_, present⟩ := given a above
    exact ⟨k, open_, Assoc.get?_isSome_iff.mp present⟩

/-- Every value is one for the discriminator of an ancestor. -/
theorem expected (linked : Linked m parent) :
    ∀ k ∈ m.values.keys, ∃ a ∈ m.ancestors, a.discriminator = some k := by
  cases parent with
  | none =>
    rw [checkInheritance_root linked.inheritance]
    exact List.forall_mem_nil _
  | some p =>
    obtain ⟨-, -, expected, -⟩ := checkInheritance_parent linked.inheritance
    rw [linked.ancestors_of_some]
    exact expected

theorem inherited (linked : Linked m (some p)) {k v : String} (value : p.values.get? k = some v) :
    m.values.get? k = some v := by
  obtain ⟨-, -, -, inherited⟩ := checkInheritance_parent linked.inheritance
  exact inherited (k, v) (Assoc.mem_of_get? value)

/-- Names that are distinct among the ancestors stay so with those of the mapping. -/
theorem nodup_keysBy {key : MappingField → String} (linked : Linked m parent)
    (own : ∀ f : MappingField, key f ∈ [f.name, f.ref]) (distinct : (m.fields.map key).Nodup)
    (fresh : ∀ f ∈ m.fields, ¬((∃ a ∈ m.ancestors, key f ∈ used a) ∨ key f ∈ m.discriminator))
    (above : ∀ p, parent = some p → (p.keysBy key).Nodup) : (m.keysBy key).Nodup := by
  have before : (m.ancestors.flatMap (Level.keysBy key)).Nodup := by
    rw [linked.ancestors]
    cases parent with
    | none => exact List.nodup_nil
    | some p => exact above p rfl
  rw [Mapping.keysBy, Mapping.chain, List.flatMap_append, List.flatMap_singleton]
  have last : (m.toLevel.keysBy key).Nodup :=
    Level.nodup_keysBy distinct fun f declared => (not_or.mp (fresh f declared)).2
  refine List.nodup_append.mpr ⟨before, last, ?_⟩
  rintro n inside _ last rfl
  rcases List.mem_flatMap.mp inside with ⟨a, link, member⟩
  have taken : ∃ a ∈ m.ancestors, n ∈ used a := ⟨a, link, Level.used_of_keysBy own member⟩
  rcases List.mem_append.mp last with discriminator | field
  · exact (checkNames_cases linked.names).1 n (Option.mem_toList.mp discriminator) taken
  · rcases List.mem_map.mp field with ⟨f, declared, rfl⟩
    exact fresh f declared (.inl taken)

/-- One declaration after another keeps the chains in order. -/
theorem chained (linked : Linked m parent) (above : ∀ p, parent = some p → p.Chained) : m.Chained where
  distinct := linked.values
  valued k := by
    refine ⟨linked.expected k, ?_⟩
    rintro ⟨a, link, open_⟩
    obtain ⟨k', open', present⟩ := linked.given a link
    cases open'.symm.trans open_
    exact present
  extensible a link := by
    obtain ⟨k, open_, -⟩ := linked.given a link
    exact ⟨k, open_⟩
  names := by
    have fresh := (checkNames_cases linked.names).2
    exact linked.nodup_keysBy (fun _ => List.mem_cons_self ..) fresh.distinct_names fresh.names
      fun p same => (above p same).names
  refs := by
    have fresh := (checkNames_cases linked.names).2
    exact linked.nodup_keysBy (fun _ => List.mem_cons_of_mem _ (List.mem_cons_self ..)) fresh.distinct_refs
      fresh.refs fun p same => (above p same).refs

theorem inherits (linked : Linked m parent) (above : ∀ p, parent = some p → p.Inherits) : m.Inherits := by
  intro a link k v value
  cases parent with
  | none =>
    rw [linked.ancestors] at link
    cases link
  | some p =>
    rw [linked.ancestors_of_some] at link
    rcases List.mem_append.mp link with higher | self
    · exact linked.inherited (above p rfl a higher k v value)
    · rw [List.mem_singleton.mp self] at value
      exact linked.inherited value

end Layout.Linked

namespace Mapping

/-- The discriminators of the chain, the root's first. -/
def discriminators (m : Mapping) : List String := m.chain.filterMap (·.discriminator)

/-- Distinct names are those of different columns, be they of discriminators or of fields. -/
theorem keysBy_cases {m : Mapping} {key : MappingField → String} (distinct : (m.keysBy key).Nodup) :
    m.discriminators.Nodup ∧ (m.allFields.map key).Nodup ∧
      ∀ k ∈ m.discriminators, ∀ f ∈ m.allFields, key f ≠ k := by
  obtain ⟨discriminators, fields, apart⟩ :=
    List.nodup_append.mp ((Level.keysBy_perm key m.chain).nodup_iff.mp distinct)
  exact ⟨discriminators, fields, fun k own f declared => (apart k own _ (List.mem_map_of_mem declared)).symm⟩

end Mapping

end ModelStore
