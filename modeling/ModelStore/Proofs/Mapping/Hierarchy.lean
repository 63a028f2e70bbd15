import ModelStore.Proofs.Mapping.Chain

/-!
What holds of every declared layout: how its mappings are numbered and linked, which discriminator
values they have, and which columns their collections hold. It is kept by each declaration.
-/

namespace ModelStore

open Declaration

/-- One mapping extends the other directly. -/
structure Mapping.Extends (m p : Mapping) : Prop where
  ancestors : m.ancestors = p.chain
  collection : m.collection = p.collection
  values : ∀ k v, p.values.get? k = some v → m.values.get? k = some v

/-- The columns of the whole chain, the root's first. -/
def Mapping.allColumns (m : Mapping) : List MappingField := m.chain.flatMap Level.columns

theorem Mapping.self_mem_chain (m : Mapping) : m.toLevel ∈ m.chain :=
  List.mem_append_right _ (List.mem_singleton_self _)

/-- What holds of a mapping by itself. -/
structure Mapping.Sound (schema : Nat) (m : Mapping) : Prop where
  kind : m.kind = .hierarchy
  schema_eq : m.schema = schema
  distinct : m.values.keys.Nodup
  valued : ∀ k, k ∈ m.values.keys ↔ ∃ a ∈ m.ancestors, a.discriminator = some k
  extensible : ∀ a ∈ m.ancestors, ∃ k, a.discriminator = some k
  named : ∀ a ∈ m.chain, ∀ k, a.discriminator = some k → k.isEmpty = false
  column : ∀ a ∈ m.chain, ∃ raw c, c.keepsText = true ∧ a.column = a.discriminator.map (textField raw c)
  names : (m.allColumns.map (·.name)).Nodup
  refs : (m.allColumns.map (·.ref)).Nodup

namespace Mapping

variable {m : Mapping}

theorem map_allColumns (key : MappingField → String)
    (column : ∀ a ∈ m.chain, ∃ raw c, c.keepsText = true ∧ a.column = a.discriminator.map (textField raw c))
    (own : ∀ raw c k, key (textField raw c k) = k) : m.allColumns.map key = m.keysBy key := by
  refine Level.map_columns key (fun a link => ?_) own
  obtain ⟨raw, c, -, shape⟩ := column a link
  exact ⟨raw, c, shape⟩

theorem Sound.chained {schema : Nat} (sound : m.Sound schema) : m.Chained where
  distinct := sound.distinct
  valued := sound.valued
  extensible := sound.extensible
  names := map_allColumns (·.name) sound.column (fun _ _ _ => rfl) ▸ sound.names
  refs := map_allColumns (·.ref) sound.column (fun _ _ _ => rfl) ▸ sound.refs

/-- No attribute hides another one. -/
theorem Sound.known_eq {schema : Nat} (sound : m.Sound schema) :
    m.known = m.allColumns.map fun f => (f.ref, f) :=
  Assoc.foldl_put (m := []) (fun f : MappingField => f.ref) (fun f => f) m.allColumns sound.refs

theorem known_of_refs {f : MappingField} (refs : (m.allColumns.map (·.ref)).Nodup) (column : f ∈ m.allColumns) :
    m.known.get? f.ref = some f :=
  Assoc.get?_foldl_put_of_mem (fun g : MappingField => g.ref) (fun g => g) refs column

theorem Sound.known_column {schema : Nat} {f : MappingField} (sound : m.Sound schema) (column : f ∈ m.allColumns) :
    m.known.get? f.ref = some f :=
  known_of_refs sound.refs column

/-- A field of the chain is found by its attribute name. -/
theorem fieldByRef_of_refs {f : MappingField} {key : Value} (refs : (m.allColumns.map (·.ref)).Nodup)
    (column : f ∈ m.allColumns) (named : key.text? = some f.ref) : m.fieldByRef key = .ok f := by
  have hashable : key.unhashable? = none := by
    cases key with
    | str _ | operator _ | fieldType _ | sortOrder _ => rfl
    | _ => cases named
  simp only [Mapping.fieldByRef, Collection.lookup, hashable, named, Option.bind_some, known_of_refs refs column]

/-- The columns of a mapping by attribute name: a field of its chain has the name. -/
theorem Sound.fieldByRef_cases {schema : Nat} {f : MappingField} {key : Value} (sound : m.Sound schema)
    (found : m.fieldByRef key = .ok f) : f ∈ m.allColumns ∧ key.text? = some f.ref := by
  unfold fieldByRef Collection.lookup at found
  split at found
  · cases found
  · rename_i g _ sought
    cases found
    obtain ⟨name, text, known⟩ := Option.bind_eq_some_iff.mp sought
    have member := Assoc.mem_of_get? known
    rw [sound.known_eq] at member
    obtain ⟨g, column, same⟩ := List.mem_map.mp member
    cases same
    exact ⟨column, text⟩
  · cases found

end Mapping

namespace Layout

/-- The mappings that store in a collection. -/
def family (l : Layout) (ref : CollectionRef) : List Mapping :=
  l.mappings.filter (·.collection == some ref)

/-- The columns of all these mappings. -/
def columns (l : Layout) (ref : CollectionRef) : List MappingField :=
  (l.family ref).flatMap fun m => m.columns

/-- A collection of the schema, which holds the columns of the mappings that store in it. -/
structure Stores (l : Layout) (schema : Nat) (ref : CollectionRef) (c : Collection) : Prop where
  found : l.collections[ref.id]? = some c
  name : c.name = ref.name
  member : (l.schema schema).find? ref.name = some ref
  fields : c.fields = (l.columns ref).map (·.toCollectionField)
  distinct : c.fieldNames.Nodup

/-- How the mappings of a layout hang together, whatever drivers and schemas they are on. -/
structure Tree (l : Layout) : Prop where
  numbered : ∀ (i : Nat) (m : Mapping), l.mappings[i]? = some m → m.id = i
  formed : ∀ m ∈ l.mappings, ∃ schema, m.Sound schema
  linked : ∀ m ∈ l.mappings, m.ancestors = [] ∨ ∃ p ∈ l.mappings, p.id < m.id ∧ m.Extends p

structure Sound (schema : Nat) (l : Layout) : Prop extends Tree l where
  schema_lt : schema < l.schemas.length
  each : ∀ m ∈ l.mappings, m.Sound schema
  rooted : ∀ m ∈ l.mappings, ∀ p ∈ l.mappings, m.ancestors = [] → p.ancestors = [] →
    m.collection = p.collection → m = p
  stored : ∀ m ∈ l.mappings, ∃ ref c, m.collection = some ref ∧ l.Stores schema ref c

instance {l : Layout} {schema : Nat} : CoeOut (l.Sound schema) l.Tree := ⟨Sound.toTree⟩

end Layout

/-! Collections under declaration. -/

namespace Declaration

variable {c : Collection} {seen : List String}

theorem checkColumns_iff {fs : List CollectionField} : checkColumns c seen fs = .ok () ↔
    (fs.map (·.name)).Nodup ∧ ∀ f ∈ fs, f.name ∉ seen ∧ f.name ∉ c.fieldNames := by
  induction fs generalizing seen with
  | nil => exact ⟨fun _ => ⟨List.nodup_nil, List.forall_mem_nil _⟩, fun _ => rfl⟩
  | cons f fs ih =>
    have known : c.hasField f.name = true ↔ f.name ∈ c.fieldNames := by
      rw [Collection.hasField, List.any_eq_true, Collection.fieldNames, List.mem_map]
      simp only [beq_iff_eq]
    have later : (∀ g ∈ fs, g.name ∉ f.name :: seen ∧ g.name ∉ c.fieldNames) ↔
        f.name ∉ fs.map (·.name) ∧ ∀ g ∈ fs, g.name ∉ seen ∧ g.name ∉ c.fieldNames := by
      rw [List.mem_map, not_exists]
      simp only [List.mem_cons, not_or, not_and, ← forall₂_and, and_assoc]
    rw [checkColumns, List.map_cons, List.nodup_cons, List.forall_mem_cons]
    split
    · rename_i taken
      rw [Bool.or_eq_true, List.contains_iff_mem, known] at taken
      constructor
      · intro done
        cases done
      · rintro ⟨-, free, -⟩
        exact (taken.elim free.1 free.2).elim
    · rename_i fresh
      rw [Bool.or_eq_true, not_or, List.contains_iff_mem, known] at fresh
      rw [ih, later]
      constructor
      · rintro ⟨distinct, own, rest⟩
        exact ⟨⟨own, distinct⟩, fresh, rest⟩
      · rintro ⟨⟨own, distinct⟩, -, rest⟩
        exact ⟨distinct, own, rest⟩

theorem checkIndexes_cases {is : List CollectionIndex} (checked : checkIndexes c seen is = .ok ()) :
    (is.map (·.name)).Nodup ∧
      ∀ i ∈ is, ∃ name, i.name = some name ∧ name ∉ seen ∧ c.hasIndex name = false := by
  induction is generalizing seen with
  | nil => exact ⟨List.nodup_nil, List.forall_mem_nil _⟩
  | cons i is ih =>
    unfold checkIndexes at checked
    split at checked
    · cases checked
    · rename_i name named
      split at checked
      · cases checked
      · rename_i fresh
        rw [Bool.or_eq_true, not_or, List.contains_iff_mem, Bool.not_eq_true] at fresh
        obtain ⟨distinct, rest⟩ := ih checked
        rw [List.map_cons, List.nodup_cons]
        refine ⟨⟨fun member => ?_, distinct⟩, List.forall_mem_cons.mpr ⟨⟨name, named, fresh⟩, fun j later => ?_⟩⟩
        · rcases List.mem_map.mp member with ⟨j, later, same⟩
          obtain ⟨other, called, apart, -⟩ := rest j later
          rw [called, named] at same
          cases same
          exact apart (List.mem_cons_self ..)
        · obtain ⟨other, called, apart, absent⟩ := rest j later
          exact ⟨other, called, fun known => apart (List.mem_cons_of_mem _ known), absent⟩

end Declaration

theorem Layout.Step.extended_cases {l l' : Layout} {m : Mapping} {parent : Option Mapping}
    {ref : CollectionRef} {old new : Collection} (step : Step l l' m parent ref old new)
    (distinct : old.fieldNames.Nodup) :
    new.name = old.name ∧ new.fields = old.fields ++ m.columns.map (·.toCollectionField) ∧
      new.fieldNames.Nodup := by
  obtain ⟨own, apart⟩ := checkColumns_iff.mp step.fresh
  obtain ⟨indexes, rfl⟩ := step.extended
  refine ⟨rfl, rfl, ?_⟩
  rw [Collection.fieldNames, List.map_append]
  refine List.nodup_append.mpr ⟨distinct, own, ?_⟩
  rintro n before _ after rfl
  rcases List.mem_map.mp after with ⟨f, column, same⟩
  exact (apart f column).2 (same ▸ before)

namespace Schema

variable {s : Schema} {r c : CollectionRef} {name : String}

theorem find?_known (found : s.find? name = some r) :
    ({ members := s.members ++ [c] } : Schema).find? name = some r := by
  rw [find?] at found ⊢
  rw [List.find?_append, found, Option.some_or]

theorem find?_new (absent : s.has c.name = false) :
    ({ members := s.members ++ [c] } : Schema).find? c.name = some c := by
  have none : s.members.find? (·.name == c.name) = none := by
    rw [List.find?_eq_none]
    intro x member same
    exact List.any_eq_false.mp absent x member same
  rw [find?, List.find?_append, none, Option.none_or]
  exact List.find?_cons_of_pos (beq_self_eq_true c.name)

end Schema

namespace Layout

variable {l l' : Layout} {schema : Nat} {m p : Mapping} {parent : Option Mapping}
  {ref r : CollectionRef} {old new c : Collection}

/-! One declaration. -/

theorem family_of_append (l' : Layout) (mappings : l'.mappings = l.mappings ++ [m]) (r : CollectionRef) :
    l'.family r = l.family r ++ if m.collection = some r then [m] else [] := by
  rw [family, mappings, List.filter_append, family]
  by_cases same : m.collection = some r
  · simp [same]
  · simp [same]

theorem Stores.eq_of_id (first : l.Stores schema ref c) {c' : Collection}
    (second : l.Stores schema r c') (same : r.id = ref.id) : r = ref := by
  have found := second.found
  rw [same, first.found] at found
  cases found
  cases r
  cases ref
  simp only [CollectionRef.mk.injEq]
  exact ⟨same, second.name.symm.trans first.name⟩

theorem Follows.sound (follows : Follows m parent) (schema_eq : m.schema = schema)
    (above : ∀ p, parent = some p → ∃ schema', p.Sound schema') : m.Sound schema := by
  have chained : m.Chained := follows.chained fun p linked =>
    let ⟨_, sound⟩ := above p linked
    sound.chained
  -- what the levels are like is known of the parent, and of the mapping itself
  have levels : ∀ a ∈ m.chain, (∀ k, a.discriminator = some k → k.isEmpty = false) ∧
      ∃ raw c, c.keepsText = true ∧ a.column = a.discriminator.map (textField raw c) := by
    refine List.forall_mem_append.mpr ⟨?_, List.forall_mem_singleton.mpr ⟨follows.named, follows.column⟩⟩
    rw [follows.ancestors]
    cases parent with
    | none => exact List.forall_mem_nil _
    | some p =>
      obtain ⟨_, sound⟩ := above p rfl
      exact fun a link => ⟨sound.named a link, sound.column a link⟩
  have column := fun a link => (levels a link).2
  refine ⟨follows.hierarchy, schema_eq, chained.distinct, chained.valued, chained.extensible,
    fun a link => (levels a link).1, column, ?_, ?_⟩
  · rw [Mapping.map_allColumns _ column fun _ _ _ => rfl]
    exact chained.names
  · rw [Mapping.map_allColumns _ column fun _ _ _ => rfl]
    exact chained.refs

/-! One layout after another. -/

/-- A root stores in a new collection, of which the schema does not know the name. -/
theorem place_root {d : Declaration} {name : String} (place : l.place d schema name none = .ok (ref, c)) :
    (l.schema schema).has c.name = false ∧ ref = l.collections.fresh c.name ∧ c.fields = [] ∧
      c.indexes = [] := by
  rcases Outcome.of_bind place with ⟨made, created, place⟩
  have empty : made.fields = [] ∧ made.indexes = [] := by
    unfold Collection.create at created
    split at created
    · split at created <;> cases created
      exact ⟨rfl, rfl⟩
    · cases created
  split at place
  · cases place
  · rename_i absent
    cases place
    exact ⟨Bool.not_eq_true _ ▸ absent, rfl, empty.1, empty.2⟩

theorem place_child {d : Declaration} {name : String} (place : l.place d schema name (some p) = .ok (ref, c)) :
    p.collection = some ref ∧ c = l.collections.get ref := by
  simp only [Layout.place] at place
  cases stored : p.collection with
  | none =>
    rw [stored] at place
    cases place
  | some r =>
    rw [stored] at place
    cases place
    exact ⟨rfl, rfl⟩

theorem fresh_of_root (step : Step l l' m none ref old new) :
    ref = l.collections.fresh old.name ∧ old.fields = [] ∧ (l.schema m.schema).has old.name = false ∧
      l' = { collections := l.collections ++ [new]
             schemas := l.schemas.set m.schema { members := (l.schema m.schema).members ++ [ref] }
             mappings := l.mappings ++ [m] } := by
  obtain ⟨d, place⟩ := step.place
  obtain ⟨absent, fresh, fields, -⟩ := place_root place
  have attached := step.attached
  rw [attach, step.ancestors] at attached
  rcases Outcome.of_bind attached with ⟨s, inserted, done⟩
  cases done
  refine ⟨fresh, fields, absent, ?_⟩
  unfold Schema.insert at inserted
  split at inserted
  · cases inserted
  · cases inserted
    rfl

theorem place_of_child (step : Step l l' m (some p) ref old new) :
    p.collection = some ref ∧ old = l.collections.get ref ∧
      l' = { l with collections := l.collections.set ref.id new, mappings := l.mappings ++ [m] } := by
  obtain ⟨d, place⟩ := step.place
  obtain ⟨stored, current⟩ := place_child place
  have attached := step.attached
  have chain : p.chain.isEmpty = false := by
    rw [Mapping.chain]
    cases p.ancestors <;> rfl
  simp only [attach, step.ancestors, Option.map_some, Option.getD_some, chain] at attached
  cases attached
  exact ⟨stored, current, rfl⟩

theorem numbered_append {ms : List Mapping} (numbered : ∀ (i : Nat) (x : Mapping), ms[i]? = some x → x.id = i)
    (number : m.id = ms.length) (i : Nat) (x : Mapping) (found : (ms ++ [m])[i]? = some x) : x.id = i := by
  by_cases low : i < ms.length
  · rw [List.getElem?_append_left low] at found
    exact numbered i x found
  · have last : i = ms.length := by
      have bound := (List.getElem?_eq_some_iff.mp found).1
      rw [List.length_append, List.length_singleton] at bound
      omega
    subst last
    rw [List.getElem?_concat_length] at found
    cases found
    exact number

theorem Tree.numbered_append (tree : l.Tree) (number : m.id = l.mappings.length) (i : Nat)
    (x : Mapping) (found : (l.mappings ++ [m])[i]? = some x) : x.id = i :=
  Layout.numbered_append tree.numbered number i x found

theorem Tree.linked_append (tree : l.Tree)
    (linked : m.ancestors = [] ∨ ∃ p ∈ l.mappings, p.id < m.id ∧ m.Extends p) :
    ∀ x ∈ l.mappings ++ [m], x.ancestors = [] ∨ ∃ p ∈ l.mappings ++ [m], p.id < x.id ∧ x.Extends p := by
  have lift : ∀ x : Mapping, (x.ancestors = [] ∨ ∃ p ∈ l.mappings, p.id < x.id ∧ x.Extends p) →
      x.ancestors = [] ∨ ∃ p ∈ l.mappings ++ [m], p.id < x.id ∧ x.Extends p :=
    fun x => Or.imp id fun ⟨p, known, extends_⟩ => ⟨p, List.mem_append_left _ known, extends_⟩
  exact List.forall_mem_append.mpr
    ⟨fun x member => lift x (tree.linked x member), List.forall_mem_singleton.mpr (lift m linked)⟩

theorem Tree.congr (tree : l.Tree) (same : l'.mappings = l.mappings) : l'.Tree :=
  ⟨same ▸ tree.numbered, same ▸ tree.formed, same ▸ tree.linked⟩

theorem Tree.isHierarchy (tree : l.Tree) (member : m ∈ l.mappings) : m.isHierarchy = true :=
  let ⟨_, own⟩ := tree.formed m member
  beq_iff_eq.mpr own.kind

theorem Tree.id_lt (tree : l.Tree) (member : m ∈ l.mappings) : m.id < l.mappings.length := by
  rcases List.getElem?_of_mem member with ⟨i, found⟩
  rw [tree.numbered i m found]
  exact (List.getElem?_eq_some_iff.mp found).1

theorem Tree.getElem?_id (tree : l.Tree) (member : m ∈ l.mappings) :
    l.mappings[m.id]? = some m := by
  rcases List.getElem?_of_mem member with ⟨i, found⟩
  rwa [tree.numbered i m found]

theorem Tree.eq_of_id (tree : l.Tree) (first : m ∈ l.mappings) (second : p ∈ l.mappings)
    (same : m.id = p.id) : m = p := by
  have found := tree.getElem?_id first
  rw [same, tree.getElem?_id second] at found
  exact (Option.some.inj found).symm

theorem family_eq_nil (sound : l.Sound schema) (outside : l.collections.length ≤ ref.id) :
    l.family ref = [] := by
  rw [family, List.filter_eq_nil_iff]
  intro x member same
  rw [beq_iff_eq] at same
  obtain ⟨r, c, stored, stores⟩ := sound.stored x member
  cases stored.symm.trans same
  have bound := (List.getElem?_eq_some_iff.mp stores.found).1
  omega

theorem schema_set {s : Schema} {mappings : List Mapping} {collections : Catalog}
    (bound : schema < l.schemas.length) :
    ({ collections, schemas := l.schemas.set schema s, mappings } : Layout).schema schema = s := by
  simp only [Layout.schema, List.getElem?_set_self bound, Option.getD_some]

theorem Sound.root (sound : l.Sound schema) (schema_eq : m.schema = schema)
    (step : Step l l' m none ref old new) : l'.Sound schema := by
  have own := step.sound schema_eq fun p none => nomatch none
  obtain ⟨rfl, empty, absent, rfl⟩ := fresh_of_root step
  obtain ⟨name, fields, distinct⟩ :=
    step.extended_cases (by rw [Collection.fieldNames, empty]; exact List.nodup_nil)
  rw [empty, List.nil_append] at fields
  rw [schema_eq] at absent ⊢
  have after := family_of_append (l := l) (m := m)
    { collections := l.collections ++ [new]
      schemas := l.schemas.set schema
        { members := (l.schema schema).members ++ [l.collections.fresh old.name] }
      mappings := l.mappings ++ [m] } rfl
  have each : ∀ x ∈ l.mappings ++ [m], x.Sound schema :=
    List.forall_mem_append.mpr ⟨sound.each, List.forall_mem_singleton.mpr own⟩
  refine ⟨⟨sound.numbered_append step.number, fun x member => ⟨schema, each x member⟩,
    sound.linked_append (.inl step.ancestors)⟩, ?_, each, ?_, ?_⟩
  · rw [List.length_set]
    exact sound.schema_lt
  · -- no mapping is stored in the collection yet
    have other : ∀ x ∈ l.mappings, x.collection ≠ m.collection := fun x member same => by
      obtain ⟨r, c, stored, stores⟩ := sound.stored x member
      cases stored.symm.trans (same.trans step.collection)
      exact Nat.lt_irrefl _ (List.getElem?_eq_some_iff.mp stores.found).1
    intro x first y second top top' same
    rcases List.mem_append.mp first with old | new <;>
      rcases List.mem_append.mp second with old' | new'
    · exact sound.rooted x old y old' top top' same
    · rw [List.mem_singleton.mp new'] at same
      exact (other x old same).elim
    · rw [List.mem_singleton.mp new] at same
      exact (other y old' same.symm).elim
    · rw [List.mem_singleton.mp new, List.mem_singleton.mp new']
  · refine List.forall_mem_append.mpr ⟨fun x member => ?_, List.forall_mem_singleton.mpr ?_⟩
    · obtain ⟨r, c, stored, stores⟩ := sound.stored x member
      have bound := (List.getElem?_eq_some_iff.mp stores.found).1
      have other : m.collection ≠ some r := by
        rw [step.collection]
        rintro ⟨⟩
        exact Nat.lt_irrefl _ bound
      refine ⟨r, c, stored, ?_, stores.name, ?_, ?_, stores.distinct⟩
      · rw [List.getElem?_append_left bound]
        exact stores.found
      · rw [schema_set sound.schema_lt]
        exact Schema.find?_known stores.member
      · rw [columns, after, if_neg other, List.append_nil]
        exact stores.fields
    · refine ⟨_, new, step.collection, List.getElem?_concat_length, name, ?_, ?_, distinct⟩
      · rw [schema_set sound.schema_lt]
        exact Schema.find?_new absent
      · rw [columns, after, if_pos step.collection, family_eq_nil sound (Nat.le_refl _), fields]
        exact congrArg _ (List.append_nil _).symm

theorem Sound.child (sound : l.Sound schema) (schema_eq : m.schema = schema)
    (step : Step l l' m (some p) ref old new) : l'.Sound schema := by
  have known := step.known p rfl
  have own := step.sound schema_eq fun q same => ⟨schema, Option.some.inj same ▸ sound.each p known⟩
  obtain ⟨stored, rfl, rfl⟩ := place_of_child step
  obtain ⟨r, c, stored', stores⟩ := sound.stored p known
  cases stored.symm.trans stored'
  have bound := (List.getElem?_eq_some_iff.mp stores.found).1
  have current : l.collections.get ref = c := by
    rw [Catalog.get, stores.found, Option.getD_some]
  obtain ⟨name, fields, distinct⟩ := step.extended_cases (current.symm ▸ stores.distinct)
  rw [current] at name fields
  have after := family_of_append (l := l) (m := m)
    { l with collections := l.collections.set ref.id new, mappings := l.mappings ++ [m] } rfl
  have each : ∀ x ∈ l.mappings ++ [m], x.Sound schema :=
    List.forall_mem_append.mpr ⟨sound.each, List.forall_mem_singleton.mpr own⟩
  have lower : p.id < m.id := step.number ▸ sound.id_lt known
  have extends_ : m.Extends p :=
    ⟨step.ancestors, step.collection.trans stored.symm, fun k v => step.inherited⟩
  refine ⟨⟨sound.numbered_append step.number, fun x member => ⟨schema, each x member⟩,
    sound.linked_append (.inr ⟨p, known, lower, extends_⟩)⟩, sound.schema_lt, each, ?_, ?_⟩
  · have below : m.ancestors ≠ [] := by
      rw [step.ancestors, Option.map_some, Option.getD_some, Mapping.chain]
      exact List.concat_ne_nil _ _
    intro x first y second top top' same
    rcases List.mem_append.mp first with old | new
    · rcases List.mem_append.mp second with old' | new'
      · exact sound.rooted x old y old' top top' same
      · exact (below (List.mem_singleton.mp new' ▸ top')).elim
    · exact (below (List.mem_singleton.mp new ▸ top)).elim
  · have whole : (l.collections.set ref.id new)[ref.id]? = some new := List.getElem?_set_self bound
    have this : Stores { l with collections := l.collections.set ref.id new, mappings := l.mappings ++ [m] }
        schema ref new := by
      refine ⟨whole, name.trans stores.name, stores.member, ?_, distinct⟩
      rw [columns, after, if_pos step.collection, fields, stores.fields, List.flatMap_append,
        List.map_append]
      exact congrArg _ (congrArg _ (List.append_nil _).symm)
    refine List.forall_mem_append.mpr ⟨fun x member => ?_,
      List.forall_mem_singleton.mpr ⟨ref, new, step.collection, this⟩⟩
    obtain ⟨r, d, held, stores'⟩ := sound.stored x member
    -- the other mappings of the hierarchy see the new columns, those of other hierarchies do not
    by_cases same : r.id = ref.id
    · cases stores.eq_of_id stores' same
      exact ⟨ref, new, held, this⟩
    · have other : m.collection ≠ some r := by
        rw [step.collection]
        rintro ⟨⟩
        exact same rfl
      refine ⟨r, d, held, ?_, stores'.name, stores'.member, ?_, stores'.distinct⟩
      · rw [List.getElem?_set_ne (Ne.symm same)]
        exact stores'.found
      · rw [columns, after, if_neg other, List.append_nil]
        exact stores'.fields

theorem mappings_of_attach {c : Collection} (done : l.attach m ref c = .ok l') :
    l'.mappings = l.mappings ++ [m] := by
  unfold attach at done
  split at done
  · rcases Outcome.of_bind done with ⟨s, -, same⟩
    cases same
    rfl
  · cases done
    rfl

theorem tree_of_empty (mappings : l.mappings = []) : l.Tree := by
  have none : ∀ m : Mapping, m ∉ l.mappings := fun m => mappings ▸ List.not_mem_nil
  refine ⟨fun i m found => (none m (List.mem_of_getElem? found)).elim, ?_, ?_⟩
  all_goals exact fun m member => (none m member).elim

theorem sound_of_empty (mappings : l.mappings = []) (there : schema < l.schemas.length) :
    l.Sound schema := by
  have none : ∀ m : Mapping, m ∉ l.mappings := fun m => mappings ▸ List.not_mem_nil
  refine ⟨tree_of_empty mappings, there, ?_, ?_, ?_⟩
  all_goals exact fun m member => (none m member).elim

theorem Sound.step (sound : l.Sound schema) (schema_eq : m.schema = schema)
    (step : Step l l' m parent ref old new) : l'.Sound schema := by
  cases parent with
  | none => exact sound.root schema_eq step
  | some p => exact sound.child schema_eq step

/-- Every declared layout is sound. -/
theorem Declared.sound {driver : Nat} (declared : Declared driver schema l) : l.Sound schema := by
  induction declared with
  | start mappings empty => exact sound_of_empty mappings (List.getElem?_eq_some_iff.mp empty).1
  | declare before kind done _ schema_eq ih =>
    obtain ⟨parent, ref, old, new, step⟩ := step_of_declare kind done
    exact ih.step schema_eq step

theorem Declared.driver_eq {driver : Nat} (declared : Declared driver schema l) :
    ∀ m ∈ l.mappings, m.driver = driver := by
  induction declared with
  | start mappings =>
    rw [mappings]
    exact List.forall_mem_nil _
  | declare before kind done own _ ih =>
    obtain ⟨parent, ref, old, new, step⟩ := step_of_declare kind done
    intro p member
    rw [mappings_of_attach step.attached] at member
    rcases List.mem_append.mp member with before | last
    · exact ih p before
    · rw [List.mem_singleton.mp last, own]

end Layout

end ModelStore
