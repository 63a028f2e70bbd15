import Mathlib
import ModelStore.Proofs.Mapping.Descent

/-!
The fields of a mapping as columns of its collection. A column of the collection is known by its name,
and the fields along the chain of a mapping are columns of the collection it stores in.
-/

namespace ModelStore

namespace Layout

variable {l : Layout} {schema : Nat} {m p : Mapping} {ref : CollectionRef} {c : Collection}
  {f g : MappingField}

theorem mem_family : m ∈ l.family ref ↔ m ∈ l.mappings ∧ m.collection = some ref := by
  rw [family, List.mem_filter, beq_iff_eq]

theorem Sound.exists_of_mem_chain (sound : l.Sound schema) (known : m ∈ l.mappings) :
    ∀ a ∈ m.chain, ∃ p ∈ l.mappings, p.toLevel = a ∧ Below l p m := by
  induction bound : m.id using Nat.strongRecOn generalizing m with
  | ind n ih =>
    intro a member
    rcases List.mem_append.mp member with above | last
    · rcases sound.linked m known with top | ⟨p, known', lower, extends_⟩
      · rw [top] at above
        exact (List.not_mem_nil above).elim
      · rw [extends_.ancestors] at above
        rcases ih p.id (bound ▸ lower) known' rfl a above with ⟨q, inside, level, below⟩
        exact ⟨q, inside, level, .child below (child_of_extends known extends_)⟩
    · exact ⟨m, known, (List.mem_singleton.mp last).symm, .self⟩

theorem siblingsDiffer_of_nodup
    (distinct : ∀ p ∈ l.mappings, ((l.children p).map fun c => p.discriminator.map c.values.get?).Nodup) :
    l.SiblingsDiffer ref := by
  intro p known _ k open_ a first b second same
  refine List.inj_on_of_nodup_map (distinct p known) first second ?_
  rw [open_, Option.map_some, Option.map_some, same]

theorem Sound.exists_root (sound : l.Sound schema) (known : m ∈ l.mappings) :
    ∃ r ∈ l.mappings, r.ancestors = [] ∧ Below l r m := by
  induction bound : m.id using Nat.strongRecOn generalizing m with
  | ind n ih =>
    rcases sound.linked m known with top | ⟨p, known', lower, extends_⟩
    · exact ⟨m, known, top, .self⟩
    · rcases ih p.id (bound ▸ lower) known' rfl with ⟨r, inside, top, below⟩
      exact ⟨r, inside, top, .child below (child_of_extends known extends_)⟩

/-! Mappings that store in one collection. -/

theorem Sound.family_below (sound : l.Sound schema) (member : m ∈ l.family ref) (below : Below l m p) :
    p ∈ l.family ref := by
  rcases mem_family.mp member with ⟨known, stored⟩
  exact mem_family.mpr ⟨below.mem known, (below.collection sound known).trans stored⟩

theorem Sound.family_above (sound : l.Sound schema) (member : m ∈ l.family ref) (known : p ∈ l.mappings)
    (below : Below l p m) : p ∈ l.family ref :=
  mem_family.mpr ⟨known, (below.collection sound known).symm.trans (mem_family.mp member).2⟩

theorem family_of_extends (member : m ∈ l.family ref) (known : p ∈ l.mappings) (extends_ : m.Extends p) :
    p ∈ l.family ref :=
  mem_family.mpr ⟨known, extends_.collection.symm.trans (mem_family.mp member).2⟩

theorem Sound.exists_link (sound : l.Sound schema) (member : m ∈ l.family ref) {a : Level} (link : a ∈ m.chain) :
    ∃ p ∈ l.family ref, p.toLevel = a ∧ Below l p m := by
  rcases sound.exists_of_mem_chain (mem_family.mp member).1 a link with ⟨p, known, level, below⟩
  exact ⟨p, sound.family_above member known below, level, below⟩

theorem Sound.exists_top (sound : l.Sound schema) (member : m ∈ l.family ref) :
    ∃ r ∈ l.family ref, r.ancestors = [] ∧ Below l r m := by
  rcases sound.exists_root (mem_family.mp member).1 with ⟨r, known, top, below⟩
  exact ⟨r, sound.family_above member known below, top, below⟩

theorem Sound.top_unique (sound : l.Sound schema) (first : m ∈ l.family ref) (second : p ∈ l.family ref)
    (top : m.ancestors = []) (top' : p.ancestors = []) : m = p := by
  rcases mem_family.mp first with ⟨known, stored⟩
  rcases mem_family.mp second with ⟨known', stored'⟩
  exact sound.rooted m known p known' top top' (stored.trans stored'.symm)

theorem Sound.exists_stores (sound : l.Sound schema) (member : m ∈ l.family ref) :
    ∃ c, l.Stores schema ref c := by
  rcases mem_family.mp member with ⟨known, stored⟩
  obtain ⟨r, c, stored', stores⟩ := sound.stored m known
  cases stored.symm.trans stored'
  exact ⟨c, stores⟩

theorem Sound.mem_columns (sound : l.Sound schema) (member : m ∈ l.family ref) (column : f ∈ m.allColumns) :
    f ∈ l.columns ref := by
  rcases List.mem_flatMap.mp column with ⟨a, link, own⟩
  rcases sound.exists_link member link with ⟨p, inside, rfl, -⟩
  exact List.mem_flatMap.mpr ⟨p, inside, own⟩

theorem mem_allColumns_of_mem_allFields (field : f ∈ m.allFields) : f ∈ m.allColumns := by
  rcases List.mem_flatMap.mp field with ⟨a, link, own⟩
  exact List.mem_flatMap.mpr ⟨a, link, List.mem_append_right _ own⟩

theorem Sound.field_mem_columns (sound : l.Sound schema) (member : m ∈ l.family ref)
    (field : f ∈ m.allFields) : f ∈ l.columns ref :=
  sound.mem_columns member (mem_allColumns_of_mem_allFields field)

namespace Stores

theorem names_distinct (stores : l.Stores schema ref c) : ((l.columns ref).map (·.name)).Nodup := by
  have distinct := stores.distinct
  rw [Collection.fieldNames, stores.fields, List.map_map] at distinct
  exact distinct

theorem eq_of_name (stores : l.Stores schema ref c) (first : f ∈ l.columns ref) (second : g ∈ l.columns ref)
    (same : f.name = g.name) : f = g :=
  List.inj_on_of_nodup_map stores.names_distinct first second same

theorem getField (stores : l.Stores schema ref c) (column : f ∈ l.columns ref) :
    c.getField (.str f.name) = .ok f.toCollectionField := by
  have inside : f.toCollectionField ∈ c.fields := by
    rw [stores.fields]
    exact List.mem_map_of_mem column
  have found : c.fields.find? (·.name == f.name) = some f.toCollectionField := by
    cases sought : c.fields.find? (·.name == f.name) with
    | none => exact (List.find?_eq_none.mp sought _ inside (beq_self_eq_true f.name)).elim
    | some g =>
      have same := List.find?_some sought
      rw [beq_iff_eq] at same
      rw [List.inj_on_of_nodup_map stores.distinct (List.mem_of_find?_eq_some sought) inside same]
  simp only [Collection.getField, Collection.lookup, Value.unhashable?, Value.text?, Option.bind_some,
    found]

theorem get_eq (stores : l.Stores schema ref c) : l.collections.get ref = c := by
  rw [Catalog.get, stores.found, Option.getD_some]

theorem schema_get (stores : l.Stores schema ref c) : (l.schema schema).get (.str ref.name) = .ok ref := by
  simp only [Schema.get, Collection.lookup, Value.unhashable?, Value.text?, Option.bind_some,
    stores.member]

end Stores

theorem Sound.column_cases (sound : l.Sound schema) (member : m ∈ l.mappings) (column : f ∈ m.columns) :
    (m.discriminator = some f.name ∧ f.conversion.keepsText = true ∧ f.sequence = .absent ∧
      f.primaryKey = false) ∨ f ∈ m.fields := by
  rcases List.mem_append.mp column with own | field
  · refine .inl ?_
    have link := m.self_mem_chain
    obtain ⟨raw, x, keeps, shape⟩ := (sound.each m member).column m.toLevel link
    rw [Option.mem_toList, shape] at own
    rcases Option.map_eq_some_iff.mp own with ⟨k, open_, rfl⟩
    exact ⟨open_, keeps, rfl, rfl⟩
  · exact .inr field

theorem Sound.fieldByRef_eq {key : Value} (sound : l.Sound schema) (known : m ∈ l.mappings)
    (column : f ∈ m.allColumns) (named : key.text? = some f.ref) : m.fieldByRef key = .ok f :=
  Mapping.fieldByRef_of_refs (sound.each m known).refs column named

theorem mem_allFields_self (field : f ∈ m.fields) : f ∈ m.allFields :=
  List.mem_flatMap.mpr ⟨m.toLevel, List.mem_append_right _ (List.mem_singleton_self _), field⟩

end Layout

end ModelStore
