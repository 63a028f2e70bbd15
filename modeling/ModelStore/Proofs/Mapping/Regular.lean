import ModelStore.Proofs.Mapping.Comparing
import ModelStore.Proofs.Mapping.Restoring

/-!
Regular rows. Whatever mappings of a hierarchy write, every column holds a stored value of its attribute
or a discriminator value of a mapping, and a row with the discriminator value of a mapping has the fields
that this mapping declares.
-/

namespace ModelStore

/-- Whether every attribute of an instance has a value that it holds, or is left to a sequence. -/
def Mapping.Typed (m : Mapping) (x : Entity) (skip : Bool) : Prop :=
  ∀ f ∈ m.allFields, ∀ a ∈ m.model.attributes, a.name = f.ref →
    a.holds (x.get f.ref) = true ∨ (skip && f.unset x) = true

instance (m : Mapping) (x : Entity) (skip : Bool) : Decidable (m.Typed x skip) :=
  inferInstanceAs (Decidable (∀ f ∈ m.allFields, ∀ a ∈ m.model.attributes, a.name = f.ref →
    a.holds (x.get f.ref) = true ∨ (skip && f.unset x) = true))

theorem Mapping.Fits.holds_int {m : Mapping} {f : MappingField} {a : Attribute} (fits : m.Fits)
    (mapped : f ∈ m.allFields) (declared : a ∈ m.model.attributes) (same : a.name = f.ref)
    (generated : f.sequence.isPresent = true) (n : Int) : a.holds (.int n) = true := by
  have admits := fits.admits_int mapped declared same.symm generated n
  cases a with
  | mk name type nullable default =>
    cases type with
    | int => rfl
    | _ => cases admits

theorem Mapping.Fits.toRaw_eq {m : Mapping} {f : MappingField} {a : Attribute} {v : Value} (fits : m.Fits)
    (mapped : f ∈ m.allFields) (declared : a ∈ m.model.attributes) (same : a.name = f.ref)
    (holds : a.holds v = true) : f.conversion.toRaw v = .ok v.stored := by
  rw [fits.converter f mapped]
  exact toRaw_takes (fits.suits a declared f mapped same.symm) (Attribute.takes_of_holds holds)

namespace Layout

/-- Whether all models agree on the type of the attribute that a field is bound to, and on whether it may
    be missing. -/
def Uniform (l : Layout) (ref : CollectionRef) : Prop :=
  ∀ m ∈ l.family ref, ∀ n ∈ l.family ref, ∀ f ∈ m.allFields, f ∈ n.allFields →
    ∀ a ∈ m.model.attributes, ∀ b ∈ n.model.attributes, a.name = f.ref → b.name = f.ref →
      a.type = b.type ∧ a.nullable = b.nullable

/-- Whether a row has the discriminator value by which a mapping is told from its siblings. -/
def Marks (l : Layout) (m : Mapping) (row : Row) : Prop :=
  ∀ p ∈ l.mappings, m ∈ l.children p → ∀ k v, p.discriminator = some k → m.values.get? k = some v →
    row.get? k = some (.str v)

/-- What a column may hold: a discriminator value of a mapping, or a stored value of its attribute. -/
structure Cell (l : Layout) (ref : CollectionRef) (k : String) (raw : Value) : Prop where
  known : ∃ f ∈ l.columns ref, f.name = k
  text : ∀ p ∈ l.family ref, p.discriminator = some k →
    ∃ c ∈ l.children p, ∃ s, c.values.get? k = some s ∧ raw = .str s
  typed : ∀ m ∈ l.family ref, ∀ f ∈ m.allFields, f.name = k → ∀ a ∈ m.model.attributes, a.name = f.ref →
    ∃ v, a.holds v = true ∧ raw = v.stored

/-- Every column holds what it may, and the fields of every mapping that the row is marked for are there. -/
structure Regular (l : Layout) (ref : CollectionRef) (row : Row) : Prop where
  distinct : row.keys.Nodup
  cell : ∀ k raw, row.get? k = some raw → l.Cell ref k raw
  present : ∀ m ∈ l.family ref, l.Marks m row → ∀ f ∈ m.fields, (row.get? f.name).isSome = true

variable {l : Layout} {driver schema : Nat} {m p q t own : Mapping} {ref : CollectionRef} {c : Collection}
  {f : MappingField} {a : Attribute} {x : Entity} {row : Row} {k s : String} {v : Value}

/-! Names in a collection. -/

theorem Stores.names_apart (stores : l.Stores schema ref c) (sound : l.Sound schema) :
    (((l.family ref).map (·.toLevel)).filterMap (·.discriminator) ++
      (((l.family ref).map (·.toLevel)).flatMap (·.fields)).map (·.name)).Nodup := by
  have column : ∀ a ∈ (l.family ref).map (·.toLevel), ∃ raw c, a.column = a.discriminator.map (textField raw c) := by
    intro a member
    rcases List.mem_map.mp member with ⟨m, inside, rfl⟩
    have last := m.self_mem_chain
    obtain ⟨raw, c, -, shape⟩ := (sound.each m (mem_family.mp inside).1).column m.toLevel last
    exact ⟨raw, c, shape⟩
  have distinct := stores.names_distinct
  rw [columns, ← List.flatMap_map, Level.map_columns _ column fun _ _ _ => rfl] at distinct
  exact (Level.keysBy_perm _ _).nodup_iff.mp distinct

theorem Stores.field_ne_discriminator (stores : l.Stores schema ref c) (sound : l.Sound schema)
    (member : m ∈ l.family ref) (member' : p ∈ l.family ref) (field : f ∈ m.allFields) :
    p.discriminator ≠ some f.name := by
  intro open_
  rcases List.mem_flatMap.mp field with ⟨a, link, declares⟩
  rcases sound.exists_link member link with ⟨q, collected, rfl, -⟩
  refine (List.nodup_append.mp (stores.names_apart sound)).2.2 f.name ?_ f.name ?_ rfl
  · exact List.mem_filterMap.mpr ⟨p.toLevel, List.mem_map_of_mem member', open_⟩
  · exact List.mem_map_of_mem (List.mem_flatMap.mpr ⟨q.toLevel, List.mem_map_of_mem collected, declares⟩)

theorem Stores.eq_of_discriminator (stores : l.Stores schema ref c) (sound : l.Sound schema)
    (member : p ∈ l.family ref) (member' : q ∈ l.family ref) (open_ : p.discriminator = some k)
    (open_' : q.discriminator = some k) : p = q := by
  have distinct := (List.nodup_append.mp (stores.names_apart sound)).1
  rw [List.filterMap_map, List.nodup_iff_pairwise_ne, List.pairwise_filterMap] at distinct
  refine List.Pairwise.forall_of_forall_of_flip (R := fun p q : Mapping =>
    p.discriminator = some k → q.discriminator = some k → p = q) (fun _ _ _ _ => rfl)
    (distinct.imp fun apart first second => (apart k first k second rfl).elim)
    (distinct.imp fun apart second first => (apart k first k second rfl).elim) member member' open_ open_'

theorem Sound.exists_owner (sound : l.Sound schema) (member : m ∈ l.family ref)
    (given : m.values.get? k = some s) :
    ∃ q ∈ l.family ref, q.discriminator = some k ∧ Below l q m := by
  have present : k ∈ m.values.keys := Assoc.mem_keys_of_get? given
  rcases ((sound.each m (mem_family.mp member).1).valued k).mp present with ⟨a, above, open_⟩
  rcases sound.exists_link member (List.mem_append_left _ above) with ⟨q, inside, rfl, below⟩
  exact ⟨q, inside, open_, below⟩

/-- A mapping with a value for the discriminator of another one is below a child of that. -/
theorem Stores.exists_child (stores : l.Stores schema ref c) (sound : l.Sound schema)
    (member : own ∈ l.family ref) (member' : p ∈ l.family ref) (open_ : p.discriminator = some k)
    (given : own.values.get? k = some s) :
    ∃ d ∈ l.children p, d.values.get? k = some s ∧ Below l d own := by
  have known := (mem_family.mp member').1
  rcases sound.exists_owner member given with ⟨q, collected, open_', below⟩
  cases stores.eq_of_discriminator sound member' collected open_ open_'
  rcases below.cases_head with rfl | ⟨d, child, below'⟩
  · have absent := (sound.discriminator_apart known open_).2
    rw [← Assoc.get?_eq_none_iff, given] at absent
    cases absent
  · rcases sound.exists_value known child open_ with ⟨t, value⟩
    cases (below'.values sound (mem_of_mem_children child) value).symm.trans given
    exact ⟨d, child, value, below'⟩

/-- A mapping with the value by which another one is told from its siblings is below that. -/
theorem Stores.below_of_value (stores : l.Stores schema ref c) (sound : l.Sound schema)
    (differ : l.SiblingsDiffer ref) (member : own ∈ l.family ref) (member' : p ∈ l.family ref)
    (child : m ∈ l.children p) (open_ : p.discriminator = some k) (value : m.values.get? k = some s)
    (given : own.values.get? k = some s) : Below l m own := by
  rcases stores.exists_child sound member member' open_ given with ⟨d, child', value', below⟩
  rcases mem_family.mp member' with ⟨known, stored⟩
  rwa [differ p known stored k open_ m child d child' (value.trans value'.symm)]

/-! What is written into columns. -/

theorem Uniform.holds {n : Mapping} {b : Attribute} (uniform : l.Uniform ref) (member : m ∈ l.family ref)
    (member' : n ∈ l.family ref) (field : f ∈ m.allFields) (field' : f ∈ n.allFields)
    (declared : a ∈ m.model.attributes) (declared' : b ∈ n.model.attributes) (same : a.name = f.ref)
    (same' : b.name = f.ref) (holds : a.holds v = true) : b.holds v = true := by
  obtain ⟨type, nullable⟩ := uniform m member n member' f field field' a declared b declared' same same'
  rwa [Attribute.holds, ← type, ← nullable]

namespace Cell

theorem field (stores : l.Stores schema ref c) (sound : l.Sound schema) (uniform : l.Uniform ref)
    (member : m ∈ l.family ref) (mapped : f ∈ m.allFields) (declared : a ∈ m.model.attributes)
    (same : a.name = f.ref) (holds : a.holds v = true) : l.Cell ref f.name v.stored where
  known := ⟨f, sound.field_mem_columns member mapped, rfl⟩
  text := fun _ member' open_ => (stores.field_ne_discriminator sound member member' mapped open_).elim
  typed := by
    intro n member' g mapped' name b declared' same'
    cases stores.eq_of_name (sound.field_mem_columns member' mapped') (sound.field_mem_columns member mapped) name
    exact ⟨v, uniform.holds member member' mapped mapped' declared declared' same same' holds, rfl⟩

theorem value (stores : l.Stores schema ref c) (sound : l.Sound schema) (member : m ∈ l.family ref)
    (given : m.values.get? k = some s) : l.Cell ref k (.str s) where
  known := by
    have present : k ∈ m.values.keys := Assoc.mem_keys_of_get? given
    rcases sound.exists_value_column member present with ⟨f, column, name, -⟩
    exact ⟨f, column, name⟩
  text := by
    intro p member' open_
    rcases stores.exists_child sound member member' open_ given with ⟨d, child, value, -⟩
    exact ⟨d, child, s, value, rfl⟩
  typed := by
    intro n member' f mapped name
    rcases sound.exists_owner member given with ⟨q, collected, open_, -⟩
    subst name
    exact (stores.field_ne_discriminator sound member' collected mapped open_).elim

theorem generated (stores : l.Stores schema ref c) (hierarchy : l.Hierarchy driver schema ref)
    (uniform : l.Uniform ref) {d : CollectionField} (inside : d ∈ c.fields)
    (sequence : d.sequence.isPresent = true) (n : Nat) : l.Cell ref d.name (.int n) := by
  have sound := hierarchy.declared.sound
  rw [stores.fields] at inside
  rcases List.mem_map.mp inside with ⟨f, column, rfl⟩
  rcases List.mem_flatMap.mp column with ⟨p, member, own⟩
  rcases sound.column_cases (mem_family.mp member).1 own with ⟨-, -, absent, -⟩ | declares
  · change f.sequence.isPresent = true at sequence
    rw [absent] at sequence
    cases sequence
  · have mapped := mem_allFields_self declares
    have fits := hierarchy.fits p member
    rcases fits.declared f mapped with ⟨a, declared, same⟩
    exact field stores sound uniform member mapped declared same (v := .int n)
      (fits.holds_int mapped declared same sequence n)

end Cell

/-! Rows that are created. -/

theorem Sound.mem_allFields_of_below (sound : l.Sound schema) (known : m ∈ l.mappings) (below : Below l m own)
    (declares : f ∈ m.fields) : f ∈ own.allFields := by
  refine List.mem_flatMap.mpr ⟨m.toLevel, ?_, declares⟩
  exact (below.chain_prefix sound known).subset m.self_mem_chain

/-- A row that has no discriminator values but those of a mapping is marked for this and those above. -/
theorem Stores.below_of_marks (stores : l.Stores schema ref c) (sound : l.Sound schema)
    (differ : l.SiblingsDiffer ref) (member : own ∈ l.family ref) (member' : m ∈ l.family ref)
    (marks : l.Marks m row)
    (told : ∀ p ∈ l.family ref, ∀ k s, p.discriminator = some k → row.get? k = some (.str s) →
      own.values.get? k = some s) : Below l m own := by
  rcases sound.linked m (mem_family.mp member').1 with top | ⟨p, inside, -, extends_⟩
  · rcases sound.exists_top member with ⟨r, rooted, first, below⟩
    rwa [sound.top_unique member' rooted top first]
  · have child := child_of_extends (mem_family.mp member').1 extends_
    have collected := family_of_extends member' inside extends_
    rcases sound.extensible_of_child inside child with ⟨k, open_⟩
    rcases sound.exists_value inside child open_ with ⟨s, value⟩
    have given := told p collected k s open_ (marks p inside child k s open_ value)
    exact stores.below_of_value sound differ member collected child open_ value given

theorem Hierarchy.cell_of_creates (hierarchy : l.Hierarchy driver schema ref) (uniform : l.Uniform ref)
    (stores : l.Stores schema ref c) (member : own ∈ l.family ref) (typed : own.Typed x true)
    (creates : own.Creates c x row) (found : row.get? k = some v) : l.Cell ref k v := by
  have sound := hierarchy.declared.sound
  have fits := hierarchy.fits own member
  by_cases mapped : ∃ f ∈ own.allFields, f.name = k
  · rcases mapped with ⟨f, mapped, rfl⟩
    rcases fits.declared f mapped with ⟨a, declared, same⟩
    cases left : f.unset x with
    | true =>
      rcases creates.generated f mapped left with ⟨n, number⟩
      cases number.symm.trans found
      exact .field stores sound uniform member mapped declared same (v := .int n)
        (fits.holds_int mapped declared same (Bool.and_eq_true_iff.mp left).1 n)
    | false =>
      have holds := (typed f mapped a declared same).resolve_right (by simp [left])
      rcases creates.field f mapped left with ⟨raw, stored, present⟩
      rw [fits.toRaw_eq mapped declared same holds] at stored
      cases stored
      cases present.symm.trans found
      exact .field stores sound uniform member mapped declared same holds
  · by_cases given : k ∈ own.values.keys
    · rcases Assoc.exists_of_mem_keys given with ⟨s, given⟩
      cases (creates.value k s given).symm.trans found
      exact .value stores sound member given
    · rcases creates.other k v found (fun f inside name => mapped ⟨f, inside, name⟩) given with
        ⟨d, inside, rfl, sequence, n, rfl⟩
      exact .generated stores hierarchy uniform inside sequence n

/-- A tagged row has no discriminator values but those of its mapping. -/
theorem Stores.value_of_tagged (stores : l.Stores schema ref c) (sound : l.Sound schema)
    (member : own ∈ l.family ref) (tagged : l.Tagged ref own row) (inside : p ∈ l.family ref)
    (open_ : p.discriminator = some k) (found : row.get? k = some v) :
    ∃ s, own.values.get? k = some s ∧ v = .str s := by
  by_cases given : k ∈ own.values.keys
  · rcases Assoc.exists_of_mem_keys given with ⟨t, given⟩
    cases (tagged.value k t given).symm.trans found
    exact ⟨t, given, rfl⟩
  · have fields : ∀ g ∈ own.allFields, g.name ≠ k :=
      fun g mapped name => stores.field_ne_discriminator sound member inside mapped (name ▸ open_)
    rcases tagged.other k v found fields given with ⟨f, column, name, sequence, -⟩
    have last := p.self_mem_chain
    rcases sound.exists_discriminator_column inside last open_ with ⟨g, column', name', -, absent⟩
    rw [stores.eq_of_name column column' (name.trans name'.symm), absent] at sequence
    cases sequence

theorem Hierarchy.regular_of_creates (hierarchy : l.Hierarchy driver schema ref) (uniform : l.Uniform ref)
    (stores : l.Stores schema ref c) (member : own ∈ l.family ref) (typed : own.Typed x true)
    (creates : own.Creates c x row) : l.Regular ref row where
  distinct := creates.distinct
  cell := fun _ _ found => hierarchy.cell_of_creates uniform stores member typed creates found
  present := by
    intro m member' marks f declares
    have sound := hierarchy.declared.sound
    have below : Below l m own := stores.below_of_marks sound hierarchy.differ member member' marks
      fun p inside k s open_ found => by
        rcases stores.value_of_tagged sound member (stores.tagged_of_creates creates) inside open_ found with
          ⟨t, given, same⟩
        cases same
        exact given
    have mapped := sound.mem_allFields_of_below (mem_family.mp member').1 below declares
    cases left : f.unset x with
    | true =>
      rcases creates.generated f mapped left with ⟨n, number⟩
      rw [number]
      rfl
    | false =>
      rcases creates.field f mapped left with ⟨raw, -, present⟩
      rw [present]
      rfl

/-! Rows that are written over. -/

theorem Sound.get?_changes {key : Row} (sound : l.Sound schema) (known : m ∈ l.mappings)
    (keyed : m.keyOf row = .ok key) (k : String) :
    (Mapping.changes row key).get? k = if k ∈ m.keyNames then none else row.get? k := by
  have names : m.keyNames.Nodup :=
    (List.filter_sublist.map fun f : MappingField => f.name).nodup (sound.field_names_distinct known)
  unfold Mapping.keyOf at keyed
  split at keyed
  · cases keyed
  · cases keyed
    have listed := Assoc.foldl_put (m := []) (fun k : String => k) (fun k => row.column k) m.keyNames
      (by simpa [Assoc.keys] using names)
    rw [Mapping.changes, Assoc.get?_filter (fun j => !Assoc.has _ j), listed]
    by_cases member : k ∈ m.keyNames
    · have has : Assoc.has ([] ++ m.keyNames.map fun k => (k, row.column k)) k = true := by
        simpa [Assoc.has] using member
      rw [has, if_neg (by decide), if_pos member]
    · have has : Assoc.has ([] ++ m.keyNames.map fun k => (k, row.column k)) k = false := by
        rw [Assoc.has, List.any_eq_false]
        intro e inside same
        simp only [List.nil_append, List.mem_map] at inside
        rcases inside with ⟨j, listed, rfl⟩
        exact member (beq_iff_eq.mp same ▸ listed)
      rw [has, if_pos (by decide), if_neg member]

theorem Hierarchy.cell_of_writes (hierarchy : l.Hierarchy driver schema ref) (uniform : l.Uniform ref)
    (stores : l.Stores schema ref c) (member : own ∈ l.family ref) (typed : own.Typed x false)
    (writes : own.Writes x false row) (found : row.get? k = some v) : l.Cell ref k v := by
  have sound := hierarchy.declared.sound
  have fits := hierarchy.fits own member
  by_cases mapped : ∃ f ∈ own.allFields, f.name = k
  · rcases mapped with ⟨f, mapped, rfl⟩
    rcases fits.declared f mapped with ⟨a, declared, same⟩
    have holds := (typed f mapped a declared same).resolve_right (by simp)
    rcases writes.field f mapped (by simp) with ⟨raw, stored, present⟩
    rw [fits.toRaw_eq mapped declared same holds] at stored
    cases stored
    cases present.symm.trans found
    exact .field stores sound uniform member mapped declared same holds
  · by_cases given : k ∈ own.values.keys
    · rcases Assoc.exists_of_mem_keys given with ⟨s, given⟩
      cases (writes.value k s given).symm.trans found
      exact .value stores sound member given
    · cases (writes.other k (fun f inside name => mapped ⟨f, inside, name⟩) given).symm.trans found

/-- Discriminators are no part of the primary key. -/
theorem Stores.not_mem_keyNames (stores : l.Stores schema ref c) (sound : l.Sound schema)
    (member : own ∈ l.family ref) (member' : p ∈ l.family ref) (open_ : p.discriminator = some k) :
    k ∉ own.keyNames := by
  intro inside
  rcases List.mem_map.mp inside with ⟨f, key, rfl⟩
  exact stores.field_ne_discriminator sound member member' (List.mem_filter.mp key).1 open_

theorem Sound.not_mem_keyNames (sound : l.Sound schema) (known : own ∈ l.mappings) (mapped : f ∈ own.allFields)
    (plain : f.primaryKey = false) : f.name ∉ own.keyNames := by
  intro inside
  rcases List.mem_map.mp inside with ⟨g, listed, name⟩
  obtain ⟨mapped', key⟩ := List.mem_filter.mp listed
  cases List.inj_on_of_nodup_map (sound.field_names_distinct known) mapped' mapped name
  rw [plain] at key
  cases key

section Saved

variable {old new key : Row}

theorem Sound.get?_saved (sound : l.Sound schema) (member : own ∈ l.family ref)
    (writes : own.Writes x false row) (keyed : own.keyOf row = .ok key)
    (overlay : Store.overlaid c old (Mapping.changes row key).toEntries = .ok new) (k : String) :
    new.get? k = (if k ∈ own.keyNames then none else row.get? k).or (old.get? k) := by
  have distinct : (Mapping.changes row key).keys.Nodup :=
    (List.filter_sublist.map Prod.fst).nodup writes.distinct
  rw [Store.get?_overlaid overlay distinct, sound.get?_changes (mem_family.mp member).1 keyed]

/-- The value by which a mapping is told from its siblings is written only by those below it. -/
theorem Hierarchy.marks_of_saved (hierarchy : l.Hierarchy driver schema ref) (stores : l.Stores schema ref c)
    (member : own ∈ l.family ref) (member' : m ∈ l.family ref) (writes : own.Writes x false row)
    (column : ∀ k, new.get? k = (if k ∈ own.keyNames then none else row.get? k).or (old.get? k))
    (marks : l.Marks m new) (apart : ¬Below l m own) : l.Marks m old := by
  have sound := hierarchy.declared.sound
  intro p inside child k s open_ value
  have collected := family_of_extends member' inside (sound.extends_of_child inside child).1
  have found := marks p inside child k s open_ value
  rw [column, if_neg (stores.not_mem_keyNames sound member collected open_)] at found
  cases written : row.get? k with
  | none => rwa [written] at found
  | some v =>
    rw [written] at found
    cases found
    have given : k ∈ own.values.keys := by
      by_contra absent
      have none := writes.other k (fun g mapped name =>
        stores.field_ne_discriminator sound member collected mapped (name ▸ open_)) absent
      cases none.symm.trans written
    rcases Assoc.exists_of_mem_keys given with ⟨t, given⟩
    cases (writes.value k t given).symm.trans written
    exact (apart (stores.below_of_value sound hierarchy.differ member collected child open_ value given)).elim

theorem Hierarchy.regular_of_saves (hierarchy : l.Hierarchy driver schema ref)
    (uniform : l.Uniform ref) (stores : l.Stores schema ref c) (member : own ∈ l.family ref)
    (typed : own.Typed x false) (writes : own.Writes x false row) (keyed : own.keyOf row = .ok key)
    (regular : l.Regular ref old)
    (overlay : Store.overlaid c old (Mapping.changes row key).toEntries = .ok new) : l.Regular ref new := by
  have sound := hierarchy.declared.sound
  have known := (mem_family.mp member).1
  have column := sound.get?_saved member writes keyed overlay
  refine ⟨Store.nodup_overlaid overlay regular.distinct, fun k raw found => ?_,
    fun m member' marks f declares => ?_⟩
  · rw [column] at found
    split at found
    · exact regular.cell k raw found
    · cases written : row.get? k with
      | none =>
        rw [written] at found
        exact regular.cell k raw found
      | some v =>
        rw [written] at found
        cases found
        exact hierarchy.cell_of_writes uniform stores member typed writes written
  · have kept : (old.get? f.name).isSome = true → (new.get? f.name).isSome = true := by
      intro there
      rw [column, Option.isSome_or, there, Bool.or_true]
    by_cases below : Below l m own
    · have mapped := sound.mem_allFields_of_below (mem_family.mp member').1 below declares
      cases key : f.primaryKey with
      | false =>
        rcases writes.field f mapped (by simp) with ⟨raw, -, present⟩
        rw [column, if_neg (sound.not_mem_keyNames known mapped key), present]
        rfl
      | true =>
        -- only the mapping at the top has a key, and no row is marked for another one at its place
        refine kept (regular.present m member' (fun p inside child => ?_) f declares)
        have ancestors := (sound.extends_of_child inside child).1.ancestors
        have deep : m.ancestors ≠ [] := by
          rw [ancestors, Mapping.chain]
          exact List.append_ne_nil_of_right_ne_nil _ (List.cons_ne_nil _ _)
        rw [hierarchy.keys m member' deep f declares] at key
        cases key
    · have before := hierarchy.marks_of_saved stores member member' writes column marks below
      exact kept (regular.present m member' before f declares)

end Saved

/-! Rows that are read. -/

theorem Hierarchy.keeps_of_holds (hierarchy : l.Hierarchy driver schema ref) (member : m ∈ l.family ref)
    (mapped : f ∈ m.allFields) (declared : a ∈ m.model.attributes) (same : a.name = f.ref)
    (holds : a.holds v = true) : a.Keeps f.conversion v v.stored := by
  have fits := hierarchy.fits m member
  rw [fits.converter f mapped]
  exact Attribute.keeps_of_holds (fits.suits a declared f mapped same.symm) holds

theorem Hierarchy.exists_back (hierarchy : l.Hierarchy driver schema ref) (stores : l.Stores schema ref c)
    (regular : l.Regular ref row) : ∃ back, c.convertRow .fromStore row = .ok back := by
  have sound := hierarchy.declared.sound
  refine Collection.exists_convertRow fun e inside => ?_
  have cell := regular.cell e.1 e.2 (Assoc.get?_of_mem regular.distinct inside)
  rcases cell.known with ⟨f, column, name⟩
  have found := stores.getField column
  rw [name] at found
  rcases List.mem_flatMap.mp column with ⟨p, member, own⟩
  rcases sound.column_cases (mem_family.mp member).1 own with ⟨open_, keeps, -, -⟩ | declares
  · rcases cell.text p member (name ▸ open_) with ⟨-, -, s, -, text⟩
    exact ⟨_, _, found, by rw [text]; exact Converter.ofRaw_str keeps s⟩
  · have mapped := mem_allFields_self declares
    rcases (hierarchy.fits p member).declared f mapped with ⟨a, declared, same⟩
    rcases cell.typed p member f mapped name a declared same with ⟨v, holds, stored⟩
    have kept := hierarchy.keeps_of_holds member mapped declared same holds
    exact ⟨_, v, found, by rw [stored]; exact kept.restored⟩

/-- A discriminator value is the same before and after conversion. -/
theorem Hierarchy.text_of_back {back : Row} (hierarchy : l.Hierarchy driver schema ref)
    (stores : l.Stores schema ref c) (regular : l.Regular ref row)
    (converted : c.convertRow .fromStore row = .ok back) (member : p ∈ l.family ref)
    (open_ : p.discriminator = some k) :
    (Value.str s == back.column k) = true ↔ row.get? k = some (.str s) := by
  have sound := hierarchy.declared.sound
  cases found : row.get? k with
  | none =>
    rw [Row.column, Collection.get?_convertRow_eq_none converted found, Option.getD_none, Value.str_beq_none]
    exact iff_of_false Bool.false_ne_true (Option.some_ne_none _).symm
  | some raw =>
    rcases (regular.cell k raw found).text p member open_ with ⟨-, -, t, -, rfl⟩
    have last := p.self_mem_chain
    rcases sound.exists_discriminator_column member last open_ with ⟨f, column, rfl, keeps, -⟩
    rcases back_of_get? stores column converted found with ⟨v, restored, there⟩
    cases (Converter.ofRaw_str keeps t).symm.trans restored
    rw [Row.column_of_get? there, Value.str_beq_str, beq_iff_eq, Option.some_inj]
    exact ⟨fun same => same ▸ rfl, fun same => by cases same; rfl⟩

/-- The discriminator values of a mapping that covers a row stay when the row is read. -/
theorem Hierarchy.matches_of_covers {back : Row} (hierarchy : l.Hierarchy driver schema ref)
    (stores : l.Stores schema ref c) (member : t ∈ l.family ref) (regular : l.Regular ref row)
    (converted : c.convertRow .fromStore row = .ok back) (covers : t.covers row = true) :
    Matches back.fieldValues t := by
  have sound := hierarchy.declared.sound
  intro k s given
  rcases sound.exists_owner member given with ⟨q, collected, open_, -⟩
  have told := (Mapping.covers_iff (sound.each _ (mem_family.mp member).1) row).mp covers k s given
  rw [Row.first_fieldValues, hierarchy.text_of_back stores regular converted collected open_]
  cases found : row.get? k with
  | none =>
    rw [Row.column, found, Option.getD_none, Value.none_beq] at told
    cases told
  | some raw =>
    rcases (regular.cell k raw found).text q collected open_ with ⟨-, -, u, -, rfl⟩
    rw [Row.column_of_get? found, Value.str_beq_str, beq_iff_eq] at told
    rw [told]

/-- A row has all fields of the mapping that its discriminator values lead to. -/
theorem Hierarchy.present_of_matches {back : Row} (hierarchy : l.Hierarchy driver schema ref)
    (stores : l.Stores schema ref c) (member : m ∈ l.family ref) (regular : l.Regular ref row)
    (converted : c.convertRow .fromStore row = .ok back) (own : Matches back.fieldValues m) :
    ∀ f ∈ m.allFields, (row.get? f.name).isSome = true := by
  have sound := hierarchy.declared.sound
  intro f mapped
  rcases List.mem_flatMap.mp mapped with ⟨a, link, declares⟩
  rcases sound.exists_link member link with ⟨p, collected, rfl, below⟩
  refine regular.present p collected (fun q among child k s open_ value => ?_) f declares
  have among' := family_of_extends collected among (sound.extends_of_child among child).1
  rw [← hierarchy.text_of_back stores regular converted among' open_, ← Row.first_fieldValues]
  exact own k s (below.values sound (mem_family.mp collected).1 value)

/-- A field that is there holds the stored value of its attribute. -/
theorem Hierarchy.exists_held (hierarchy : l.Hierarchy driver schema ref) (member : m ∈ l.family ref)
    (regular : l.Regular ref row) (mapped : f ∈ m.allFields) (declared : a ∈ m.model.attributes)
    (same : a.name = f.ref) (present : (row.get? f.name).isSome = true) :
    ∃ v, row.get? f.name = some v.stored ∧ a.holds v = true ∧ a.Keeps f.conversion v v.stored := by
  rcases Option.isSome_iff_exists.mp present with ⟨raw, found⟩
  rcases (regular.cell f.name raw found).typed m member f mapped rfl a declared same with ⟨v, holds, stored⟩
  exact ⟨v, stored ▸ found, holds, hierarchy.keeps_of_holds member mapped declared same holds⟩

/-- A regular row that a mapping covers is restored through it, as an instance that the row describes. -/
theorem Hierarchy.exists_restored (hierarchy : l.Hierarchy driver schema ref) (stores : l.Stores schema ref c)
    (member : t ∈ l.family ref) (regular : l.Regular ref row) (covers : t.covers row = true) :
    ∃ y, l.restore t ref (row.document ref.name) = .ok y ∧ t.Describes row y := by
  have sound := hierarchy.declared.sound
  have known := (mem_family.mp member).1
  obtain ⟨back, converted⟩ := hierarchy.exists_back stores regular
  have matches_ := hierarchy.matches_of_covers stores member regular converted covers
  obtain ⟨b, resolved, below, own⟩ := sound.descend_matches known matches_ l.mappings.length
  have inside := sound.family_below member below
  have present := hierarchy.present_of_matches stores inside regular converted own
  have ready : ∀ f ∈ b.allFields, ∀ a ∈ b.model.attributes, f.ref = a.name →
      ∃ raw v, row.get? f.name = some raw ∧ f.conversion.ofRaw raw = .ok v ∧ a.check v = Checked.ok v := by
    intro f mapped a declared same
    rcases hierarchy.exists_held inside regular mapped declared same.symm (present f mapped) with
      ⟨v, found, -, kept⟩
    exact ⟨_, v, found, kept.restored, kept.accepted⟩
  obtain ⟨y, restored, -, values⟩ :=
    sound.restore_eq stores known inside (hierarchy.fits b inside).agrees converted resolved ready
  refine ⟨y, restored, fun f mapped a declared same => ?_⟩
  have lower : f ∈ b.allFields := by
    rcases List.mem_flatMap.mp mapped with ⟨a, link, declares⟩
    exact List.mem_flatMap.mpr ⟨a, (below.chain_prefix sound known).subset link, declares⟩
  rcases hierarchy.exists_held member regular mapped declared same (present f lower) with ⟨v, found, holds, kept⟩
  have value := values f lower
  rw [Row.column_of_get? found, kept.restored] at value
  cases value
  exact ⟨Attribute.takes_of_holds holds, Row.column_of_get? found⟩

/-! Mappings that are declared later. -/

section Extended

variable {l' : Layout} {n r : Mapping}

theorem mem_children_of_append (mappings : l'.mappings = l.mappings ++ [n]) (child : m ∈ l.children p) :
    m ∈ l'.children p := by
  rcases List.mem_filter.mp child with ⟨known, linked⟩
  exact List.mem_filter.mpr ⟨mappings ▸ List.mem_append_left _ known, linked⟩

theorem Stores.column_ne_new {g : MappingField} (stores : l'.Stores schema ref c)
    (mappings : l'.mappings = l.mappings ++ [n]) (stored : n.collection = some ref)
    (column : f ∈ l.columns ref) (own : g ∈ n.columns) : f.name ≠ g.name := by
  have distinct := stores.names_distinct
  rw [columns, family_of_append l' mappings ref, if_pos stored, List.flatMap_append, List.flatMap_singleton,
    List.map_append] at distinct
  exact (List.nodup_append.mp distinct).2.2 f.name (List.mem_map_of_mem column) g.name
    (List.mem_map_of_mem own)

theorem mem_family_of_append (mappings : l'.mappings = l.mappings ++ [n]) (inside : m ∈ l.family ref) :
    m ∈ l'.family ref := by
  rw [family_of_append l' mappings ref]
  exact List.mem_append_left _ inside

theorem Sound.new_not_mem (sound : l'.Sound schema) (mappings : l'.mappings = l.mappings ++ [n]) :
    n ∉ l.mappings := by
  have distinct := sound.nodup
  rw [mappings] at distinct
  exact fun inside => (List.nodup_append.mp distinct).2.2 n inside n (List.mem_singleton_self _) rfl

/-- The new mapping, if it belongs to the hierarchy, extends one that was there before. -/
theorem Hierarchy.family_cases (before : l.Hierarchy driver schema ref) (sound : l'.Sound schema)
    (mappings : l'.mappings = l.mappings ++ [n]) (member : r ∈ l.family ref) (inside : m ∈ l'.family ref) :
    m ∈ l.family ref ∨
      m = n ∧ n.collection = some ref ∧ ∃ p ∈ l.family ref, n ∈ l'.children p ∧ n.Extends p := by
  have whole := inside
  rw [family_of_append l' mappings ref] at inside
  rcases List.mem_append.mp inside with old | last
  · exact .inl old
  split at last
  · rename_i collected
    cases List.mem_singleton.mp last
    refine .inr ⟨rfl, collected, ?_⟩
    rcases sound.linked m (mem_family.mp whole).1 with top | ⟨p, known, lower, extends_⟩
    · -- it would be a second top
      rcases before.declared.sound.exists_top member with ⟨q, rooted, first, -⟩
      cases sound.top_unique whole (mem_family_of_append mappings rooted) top first
      exact (sound.new_not_mem mappings (mem_family.mp rooted).1).elim
    · have old : p ∈ l.mappings := by
        rw [mappings] at known
        refine (List.mem_append.mp known).resolve_right fun last => ?_
        rw [List.mem_singleton.mp last] at lower
        exact Nat.lt_irrefl _ lower
      exact ⟨p, mem_family.mpr ⟨old, extends_.collection.symm.trans collected⟩,
        child_of_extends (mem_family.mp whole).1 extends_, extends_⟩
  · cases last

theorem Hierarchy.cell_of_append {raw : Value} (before : l.Hierarchy driver schema ref)
    (after : l'.Hierarchy driver schema ref) (uniform : l'.Uniform ref)
    (mappings : l'.mappings = l.mappings ++ [n]) (member : r ∈ l.family ref) (stores : l'.Stores schema ref c)
    (cell : l.Cell ref k raw) : l'.Cell ref k raw := by
  have sound := after.declared.sound
  rcases cell.known with ⟨g, column, rfl⟩
  refine ⟨⟨g, ?_, rfl⟩, fun p inside open_ => ?_, fun m inside f mapped name a declared same => ?_⟩
  · rcases List.mem_flatMap.mp column with ⟨p, inside, own⟩
    exact List.mem_flatMap.mpr ⟨p, mem_family_of_append mappings inside, own⟩
  · rcases before.family_cases sound mappings member inside with old | ⟨rfl, collected, -⟩
    · rcases cell.text p old open_ with ⟨d, child, s, value, text⟩
      exact ⟨d, mem_children_of_append mappings child, s, value, text⟩
    · have last := p.self_mem_chain
      obtain ⟨raw, x, -, shape⟩ := (sound.each p (mem_family.mp inside).1).column p.toLevel last
      have own : textField raw x g.name ∈ p.columns := by
        rw [Level.columns, shape, open_]
        exact List.mem_append_left _ (List.mem_singleton_self _)
      exact (stores.column_ne_new mappings collected column own rfl).elim
  · rcases before.family_cases sound mappings member inside with old | ⟨rfl, collected, p, old, -, extends_⟩
    · exact cell.typed m old f mapped name a declared same
    · have fields : m.allFields = p.allFields ++ m.fields := by
        rw [Mapping.allFields, Mapping.chain, extends_.ancestors, List.flatMap_append, List.flatMap_singleton]
        rfl
      rw [fields] at mapped
      rcases List.mem_append.mp mapped with above | own
      · rcases (before.fits p old).declared f above with ⟨b, declared', same'⟩
        rcases cell.typed p old f above name b declared' same' with ⟨v, holds, text⟩
        refine ⟨v, uniform.holds (mem_family_of_append mappings old) inside above ?_ declared' declared same' same
          holds, text⟩
        rw [fields]
        exact List.mem_append_left _ above
      · exact (stores.column_ne_new mappings collected column (List.mem_append_right _ own) name.symm).elim

/-- A row stays regular when another mapping is declared. -/
theorem Hierarchy.regular_of_append (before : l.Hierarchy driver schema ref)
    (after : l'.Hierarchy driver schema ref) (uniform : l'.Uniform ref)
    (mappings : l'.mappings = l.mappings ++ [n]) (member : r ∈ l.family ref) (regular : l.Regular ref row) :
    l'.Regular ref row := by
  have sound := after.declared.sound
  obtain ⟨ref', c, stored, stores⟩ := sound.stored r (mem_family.mp (mem_family_of_append mappings member)).1
  cases (mem_family.mp member).2.symm.trans stored
  refine ⟨regular.distinct, fun k raw found => ?_, fun m inside marks f declares => ?_⟩
  · exact before.cell_of_append after uniform mappings member stores (regular.cell k raw found)
  rcases before.family_cases sound mappings member inside with old | ⟨rfl, -, p, old, child, -⟩
  · refine regular.present m old (fun p there child k s open_ value => ?_) f declares
    exact marks p (mappings ▸ List.mem_append_left _ there) (mem_children_of_append mappings child) k s open_
      value
  · -- no row can be marked for the new mapping: the value would be one of another child
    have there := mem_family_of_append mappings old
    have known := (mem_family.mp there).1
    rcases sound.extensible_of_child known child with ⟨k, open_⟩
    rcases sound.exists_value known child open_ with ⟨s, value⟩
    rcases (regular.cell k _ (marks p known child k s open_ value)).text p old open_ with
      ⟨d, child', t, value', text⟩
    cases text
    have same := after.differ p known (mem_family.mp there).2 k open_ m child d
      (mem_children_of_append mappings child') (value.trans value'.symm)
    exact (sound.new_not_mem mappings (same ▸ mem_of_mem_children child')).elim

end Extended

end Layout

end ModelStore
