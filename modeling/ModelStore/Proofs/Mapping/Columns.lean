import ModelStore.Proofs.Mapping.Fitting
import ModelStore.Proofs.Store.Writes

/-!
The rows of instances, column by column: the values of the attributes under the names of their fields,
the discriminator values of the mapping, and the numbers that are generated when the row is created.
-/

namespace ModelStore

/-- Whether the value of a field is left to a sequence. -/
def MappingField.unset (f : MappingField) (x : Entity) : Bool :=
  f.sequence.isPresent && (x.get f.ref).isNone

/-- The row of an instance before it is stored, with or without the fields that are left to a sequence. -/
structure Mapping.Writes (m : Mapping) (x : Entity) (skip : Bool) (row : Row) : Prop where
  distinct : row.keys.Nodup
  value : ∀ k v, m.values.get? k = some v → row.get? k = some (.str v)
  field : ∀ f ∈ m.allFields, (skip && f.unset x) = false →
    ∃ raw, f.conversion.toRaw (x.get f.ref) = .ok raw ∧ row.get? f.name = some raw
  unset : ∀ f ∈ m.allFields, (skip && f.unset x) = true → row.get? f.name = none
  other : ∀ k, (∀ f ∈ m.allFields, f.name ≠ k) → k ∉ m.values.keys → row.get? k = none

/-- The row of an instance as it is created in a collection. -/
structure Mapping.Creates (m : Mapping) (c : Collection) (x : Entity) (row : Row) : Prop where
  distinct : row.keys.Nodup
  value : ∀ k v, m.values.get? k = some v → row.get? k = some (.str v)
  field : ∀ f ∈ m.allFields, f.unset x = false →
    ∃ raw, f.conversion.toRaw (x.get f.ref) = .ok raw ∧ row.get? f.name = some raw
  generated : ∀ f ∈ m.allFields, f.unset x = true → ∃ n : Nat, row.get? f.name = some (.int n)
  other : ∀ k v, row.get? k = some v → (∀ f ∈ m.allFields, f.name ≠ k) → k ∉ m.values.keys →
    ∃ d ∈ c.fields, d.name = k ∧ d.sequence.isPresent = true ∧ ∃ n : Nat, v = .int n

namespace Layout

variable {l : Layout} {schema : Nat} {m : Mapping} {ref : CollectionRef} {c : Collection}
  {f : MappingField} {x : Entity} {skip : Bool} {row : Row} {k : String}

theorem Sound.field_names_distinct (sound : l.Sound schema) (known : m ∈ l.mappings) :
    (m.allFields.map (·.name)).Nodup :=
  (Mapping.keysBy_cases (sound.each m known).chained.names).2.1

/-- No field has the name of a discriminator of the chain. -/
theorem Sound.field_ne_discriminator (sound : l.Sound schema) (known : m ∈ l.mappings)
    (field : f ∈ m.allFields) : ∀ a ∈ m.chain, a.discriminator ≠ some f.name := by
  intro a member same
  obtain ⟨-, -, apart⟩ := Mapping.keysBy_cases (sound.each m known).chained.names
  exact apart f.name (List.mem_filterMap.mpr ⟨a, member, same⟩) f field rfl

theorem Sound.field_not_mem_values (sound : l.Sound schema) (known : m ∈ l.mappings)
    (field : f ∈ m.allFields) : f.name ∉ m.values.keys := by
  intro member
  rcases ((sound.each m known).valued f.name).mp member with ⟨a, above, same⟩
  exact sound.field_ne_discriminator known field a (List.mem_append_left _ above) same

theorem Sound.exists_discriminator_column (sound : l.Sound schema) (member : m ∈ l.family ref)
    {a : Level} (link : a ∈ m.chain) (open_ : a.discriminator = some k) :
    ∃ f ∈ l.columns ref, f.name = k ∧ f.conversion.keepsText = true ∧ f.sequence = .absent := by
  obtain ⟨raw, x, keeps, shape⟩ := (sound.each m (mem_family.mp member).1).column a link
  have column : textField raw x k ∈ a.columns := by
    rw [Level.columns, shape, open_]
    exact List.mem_append_left _ (List.mem_singleton_self _)
  exact ⟨_, sound.mem_columns member (List.mem_flatMap.mpr ⟨a, link, column⟩), rfl, keeps, rfl⟩

theorem Sound.exists_value_column (sound : l.Sound schema) (member : m ∈ l.family ref)
    (given : k ∈ m.values.keys) :
    ∃ f ∈ l.columns ref, f.name = k ∧ f.conversion.keepsText = true ∧ f.sequence = .absent := by
  rcases ((sound.each m (mem_family.mp member).1).valued k).mp given with ⟨a, above, open_⟩
  exact sound.exists_discriminator_column member (List.mem_append_left _ above) open_

/-- A mapping has no value for its own discriminator, which is no field of it either. -/
theorem Sound.discriminator_apart (sound : l.Sound schema) (known : m ∈ l.mappings)
    (open_ : m.discriminator = some k) : (∀ f ∈ m.allFields, f.name ≠ k) ∧ k ∉ m.values.keys := by
  have last := m.self_mem_chain
  refine ⟨fun f field same => ?_, fun given => ?_⟩
  · exact sound.field_ne_discriminator known field m.toLevel last (same ▸ open_)
  · rcases ((sound.each m known).valued k).mp given with ⟨a, above, same⟩
    have distinct := (Mapping.keysBy_cases (sound.each m known).chained.names).1
    rw [Mapping.discriminators, Mapping.chain, List.filterMap_append] at distinct
    exact (List.nodup_append.mp distinct).2.2 k (List.mem_filterMap.mpr ⟨a, above, same⟩) k
      (List.mem_filterMap.mpr ⟨m.toLevel, List.mem_singleton_self _, open_⟩) rfl

/-! Before conversion. -/

theorem columnsOf_eq (m : Mapping) (x : Entity) (skip : Bool) :
    m.columnsOf x skip =
      m.values.foldl (fun row e => Assoc.put row e.1 (.str e.2))
        ((m.allFields.filter fun f => !(skip && f.unset x)).foldl
          (fun row f => Assoc.put row f.name (x.get f.ref)) []) := by
  unfold Mapping.columnsOf MappingField.unset
  simp only [Bool.and_assoc]

theorem Sound.get?_columnsOf_value (sound : l.Sound schema) (known : m ∈ l.mappings) {v : String}
    (given : m.values.get? k = some v) : (m.columnsOf x skip).get? k = some (.str v) := by
  rw [columnsOf_eq]
  exact Assoc.get?_foldl_put_of_mem Prod.fst (fun e => Value.str e.2) (sound.each m known).distinct
    (Assoc.mem_of_get? given)

theorem Sound.get?_columnsOf_field (sound : l.Sound schema) (known : m ∈ l.mappings)
    (field : f ∈ m.allFields) (x : Entity) (skip : Bool) :
    (m.columnsOf x skip).get? f.name = if skip && f.unset x then none else some (x.get f.ref) := by
  have distinct := sound.field_names_distinct known
  have within := (List.filter_sublist (p := fun f => !(skip && f.unset x)) (l := m.allFields)).map
    (·.name)
  rw [columnsOf_eq, Assoc.get?_foldl_put_of_not_mem Prod.fst _ (sound.field_not_mem_values known field)]
  by_cases left : (skip && f.unset x) = true
  · rw [if_pos left, Assoc.get?_foldl_put_of_not_mem]
    · rfl
    · intro again
      rcases List.mem_map.mp again with ⟨g, kept, same⟩
      rcases List.mem_filter.mp kept with ⟨inside, set⟩
      rw [List.inj_on_of_nodup_map distinct inside field same, left] at set
      cases set
  · rw [if_neg left]
    refine Assoc.get?_foldl_put_of_mem (·.name) _ (within.nodup distinct) (List.mem_filter.mpr ⟨field, ?_⟩)
    rw [Bool.not_eq_true] at left
    rw [left]
    rfl

theorem get?_columnsOf_other (fields : ∀ f ∈ m.allFields, f.name ≠ k) (values : k ∉ m.values.keys) :
    (m.columnsOf x skip).get? k = none := by
  rw [columnsOf_eq, Assoc.get?_foldl_put_of_not_mem Prod.fst _ values, Assoc.get?_foldl_put_of_not_mem]
  · rfl
  · intro member
    rcases List.mem_map.mp member with ⟨f, kept, same⟩
    exact fields f (List.mem_filter.mp kept).1 same

theorem columnsOf_distinct : (m.columnsOf x skip).keys.Nodup := by
  rw [columnsOf_eq]
  exact Assoc.nodup_foldl_put _ _ _ (Assoc.nodup_foldl_put _ _ _ List.nodup_nil)

/-! After conversion. -/

theorem Stores.convertRow_eq {dir : Direction} (stores : l.Stores schema ref c) (own : m.schema = schema)
    (row : Row) : l.convertRow m.schema dir ref.name row = c.convertRow dir row := by
  rw [convertRow, own, stores.schema_get]
  show (l.collections.get ref).convertRow dir row = c.convertRow dir row
  rw [stores.get_eq]

theorem Sound.writes_of_rowOf (sound : l.Sound schema) (member : m ∈ l.family ref)
    (stores : l.Stores schema ref c) (done : m.rowOf l ref.name x skip = .ok row) :
    m.Writes x skip row := by
  have known := (mem_family.mp member).1
  have converted : c.convertRow .toStore (m.columnsOf x skip) = .ok row := by
    rwa [Mapping.rowOf, stores.convertRow_eq (sound.each m known).schema_eq] at done
  obtain ⟨keys, columns⟩ := Collection.convertRow_cases converted
  refine ⟨keys ▸ columnsOf_distinct, fun k v given => ?_, fun f field set => ?_, fun f field left => ?_,
    fun k fields values => ?_⟩
  · rcases columns k _ (sound.get?_columnsOf_value known given) with ⟨d, raw, found, stored, written⟩
    have present : k ∈ m.values.keys := Assoc.mem_keys_of_get? given
    rcases sound.exists_value_column member present with ⟨g, column, rfl, keeps, -⟩
    rw [stores.getField column] at found
    cases found
    cases (Converter.toRaw_str keeps v).symm.trans stored
    exact written
  · have given := sound.get?_columnsOf_field known field x skip
    rw [if_neg (Bool.eq_false_iff.mp set)] at given
    rcases columns f.name _ given with ⟨d, raw, found, stored, written⟩
    rw [stores.getField (sound.field_mem_columns member field)] at found
    cases found
    exact ⟨raw, stored, written⟩
  · have absent := sound.get?_columnsOf_field known field x skip
    rw [if_pos left] at absent
    exact Collection.get?_convertRow_eq_none converted absent
  · exact Collection.get?_convertRow_eq_none converted (get?_columnsOf_other fields values)

theorem Stores.sequence_of_name {f : MappingField} (stores : l.Stores schema ref c)
    (column : f ∈ l.columns ref) : ∀ d ∈ c.fields, d.name = f.name → d = f.toCollectionField := by
  intro d member same
  rw [stores.fields] at member
  rcases List.mem_map.mp member with ⟨g, other, rfl⟩
  rw [stores.eq_of_name other column same]

theorem Sound.creates_of_generated {given row' : Row} (sound : l.Sound schema)
    (member : m ∈ l.family ref) (stores : l.Stores schema ref c) (written : m.Writes x true row)
    (overlay : Store.overlaid c [] row.toEntries = .ok given)
    (generated : Store.Generated c.fields given row') : m.Creates c x row' := by
  have same : ∀ k, given.get? k = row.get? k := fun k => by
    rw [Store.get?_overlaid overlay written.distinct, Assoc.get?_nil, Option.or_none]
  refine ⟨generated.distinct (Store.nodup_overlaid overlay List.nodup_nil), fun k v value => ?_,
    fun f field set => ?_, fun f field left => ?_, fun k v found fields values => ?_⟩
  · have present : k ∈ m.values.keys := Assoc.mem_keys_of_get? value
    rcases sound.exists_value_column member present with ⟨g, column, rfl, -, absent⟩
    rw [generated.other g.name fun d inside name => ?_, same, written.value _ _ value]
    rw [stores.sequence_of_name column d inside name]
    exact congrArg Sequence.isPresent absent
  · have column := sound.field_mem_columns member field
    rcases written.field f field (by rw [set, Bool.and_false]) with ⟨raw, stored, found⟩
    refine ⟨raw, stored, ?_⟩
    rcases Bool.and_eq_false_iff.mp set with absent | present
    · rw [generated.other f.name fun d inside name => ?_, same, found]
      rw [stores.sequence_of_name column d inside name]
      exact absent
    · rw [generated.kept f.name, same, found]
      rw [Row.column, same, found, Option.getD_some, Converter.isNone_of_toRaw stored, present]
  · have column := sound.field_mem_columns member field
    have inside : f.toCollectionField ∈ c.fields := by
      rw [stores.fields]
      exact List.mem_map_of_mem column
    have missing : given.get? f.name = none := by
      rw [same, written.unset f field (by rw [left, Bool.and_true])]
    exact generated.fresh f.toCollectionField inside (Bool.and_eq_true_iff.mp left).1
      (Row.isNone_column_of_get?_eq_none missing)
  · have missing : given.get? k = none := by rw [same, written.other k fields values]
    by_cases sequence : ∃ d ∈ c.fields, d.name = k ∧ d.sequence.isPresent = true
    · rcases sequence with ⟨d, inside, rfl, present⟩
      rcases generated.fresh d inside present (Row.isNone_column_of_get?_eq_none missing) with ⟨n, number⟩
      cases number.symm.trans found
      exact ⟨d, inside, rfl, present, n, rfl⟩
    · rw [generated.other k fun d inside name => ?_, missing] at found
      · cases found
      · exact Bool.eq_false_iff.mpr fun present => sequence ⟨d, inside, name, present⟩

theorem Sound.creates_of_create {s s' : Store} {given : Row} (sound : l.Sound schema)
    (member : m ∈ l.family ref) (stores : l.Stores schema ref c)
    (provisioned : s.shapes.get? ref.name = some ref) (written : m.rowOf l ref.name x true = .ok given)
    (made : s.create l.collections (.str ref.name) given.toEntries = (.ok row, s')) :
    m.Creates c x row ∧ s.checkUnique c ref.name row (s.rows ref.name) = .ok () ∧
      ∃ sequences, s' = ({ s with sequences } : Store).setRows ref.name (s.rows ref.name ++ [row]) := by
  obtain ⟨d, overlay, sequences, shaped, laid, generated, unique, same⟩ := Store.create_cases made
  cases (Store.shape_of_get? provisioned).symm.trans shaped
  rw [stores.get_eq] at laid generated unique
  have writes := sound.writes_of_rowOf member stores written
  exact ⟨sound.creates_of_generated member stores writes laid generated, unique, sequences, same⟩

end Layout

end ModelStore
