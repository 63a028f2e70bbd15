import ModelStore.Proofs.Mapping.Parsing
import ModelStore.Proofs.Mapping.Restoring
import ModelStore.Proofs.Store.Writes

/-!
Finding an instance by its primary key: what the filter by its key attributes comes to, and that it
selects no other row than the one of the instance.
-/

namespace ModelStore

open Query (freezeValue)

namespace Filter

variable {leaf : Leaf} {fs : List MappingField} {given : MappingField → Value}
  {made : MappingField → Comparison}

theorem role_plain {name : String} (plain : name.startsWith "$" = false) : role (.str name) = .field := by
  rw [role, isOperatorKey, Value.text?, Option.any_some, plain]
  rfl

theorem entriesClauses_fields (plain : ∀ f ∈ fs, f.ref.startsWith "$" = false)
    (flat : ∀ f ∈ fs, isFlat (given f) = true)
    (leaves : ∀ f ∈ fs, leaf (.str f.ref) .eq (given f) = .ok (made f)) :
    entriesClauses leaf .none (fs.map fun f => (.str f.ref, given f)) =
      .ok (fs.map fun f => .comparison (made f)) := by
  induction fs with
  | nil => rfl
  | cons f fs ih =>
    have own : entryClauses leaf .none (.str f.ref) (given f) = .ok [.comparison (made f)] := by
      rw [entryClauses_flat (flat f (List.mem_cons_self ..)), select,
        role_plain (plain f (List.mem_cons_self ..))]
      simp only [Value.isNone, if_true, leafOf, leaves f (List.mem_cons_self ..), Bind.bind, Except.bind,
        Pure.pure, Except.pure, Bool.false_eq_true, if_false]
    have rest := ih (fun g member => plain g (List.mem_cons_of_mem _ member))
      (fun g member => flat g (List.mem_cons_of_mem _ member))
      (fun g member => leaves g (List.mem_cons_of_mem _ member))
    simp only [List.map_cons, entriesClauses, own, rest, Bind.bind, Except.bind, Pure.pure, Except.pure,
      List.singleton_append]

end Filter

namespace Mapping

/-- The fields of the primary key. -/
def keyFields (m : Mapping) : List MappingField := m.allFields.filter (·.primaryKey)

/-- The filter by the primary key of an instance. -/
def keyFilter (m : Mapping) (x : Entity) : Value :=
  .dict (m.keyFields.map fun f => (.str f.ref, x.get f.ref))

/-- The comparisons with the primary key of a row. -/
def keyClauses (m : Mapping) (row : Row) : List Clause :=
  m.keyFields.map fun f => .comparison ⟨.eq, .str f.name, row.column f.name⟩

/-- Whether a row has the primary key of another one. -/
def sharesKey (m : Mapping) (row other : Row) : Bool :=
  m.keyFields.all fun f => other.column f.name == row.column f.name

theorem keyClauses_told {m : Mapping} {e : Evaluator} {row : Row} (equal : e.Equates) (other : Row) :
    e.satisfiesAll other.columnOf (m.keyClauses row) = .ok (m.sharesKey row other) :=
  Evaluator.satisfiesAll_map fun f _ => Evaluator.satisfies_eq equal other f.name _

end Mapping

namespace Layout

variable {l : Layout} {schema : Nat} {m t p : Mapping} {ref : CollectionRef} {c : Collection}
  {f : MappingField} {x x' : Entity} {row : Row} {v raw : Value}

/-- A field of a primary key belongs to every mapping of the hierarchy. -/
theorem Sound.keyField_mem (sound : l.Sound schema) (top : l.KeysOnTop ref) (member : m ∈ l.family ref)
    (target : t ∈ l.family ref) (field : f ∈ m.keyFields) : f ∈ t.keyFields := by
  rcases List.mem_filter.mp field with ⟨mapped, key⟩
  rcases List.mem_flatMap.mp mapped with ⟨a, link, own⟩
  rcases sound.exists_link member link with ⟨p, inside, rfl, -⟩
  have root : p.ancestors = [] := by
    by_cases top' : p.ancestors = []
    · exact top'
    · have none := top p inside top' f own
      rw [none] at key
      cases key
  rcases sound.exists_top target with ⟨r, rooted, first, below⟩
  cases sound.top_unique inside rooted root first
  refine List.mem_filter.mpr ⟨List.mem_flatMap.mpr ⟨p.toLevel, ?_, own⟩, key⟩
  exact (below.chain_prefix sound (mem_family.mp inside).1).subset p.self_mem_chain

theorem Sound.primaryKey_cases (sound : l.Sound schema) (top : l.KeysOnTop ref)
    (member : m ∈ l.family ref) (stores : l.Stores schema ref c) :
    ∀ d, d ∈ c.primaryKey ↔ ∃ f ∈ m.keyFields, d = f.toCollectionField := by
  intro d
  rw [Collection.primaryKey, stores.fields, List.mem_filter, List.mem_map]
  refine ⟨?_, ?_⟩
  · rintro ⟨⟨f, column, rfl⟩, key⟩
    rcases List.mem_flatMap.mp column with ⟨p, inside, own⟩
    rcases sound.column_cases (mem_family.mp inside).1 own with ⟨-, -, -, none⟩ | field
    · rw [show f.toCollectionField.primaryKey = f.primaryKey from rfl, none] at key
      cases key
    · have keyed : f ∈ p.keyFields := List.mem_filter.mpr ⟨mem_allFields_self field, key⟩
      exact ⟨f, sound.keyField_mem top inside member keyed, rfl⟩
  · rintro ⟨f, field, rfl⟩
    rcases List.mem_filter.mp field with ⟨mapped, key⟩
    exact ⟨⟨f, sound.field_mem_columns member mapped, rfl⟩, key⟩

/-- The filter by the key of an instance compares with the key of its row. -/
theorem Sound.keyFilter_clauses (sound : l.Sound schema) (top : l.KeysOnTop ref)
    (member : m ∈ l.family ref) (target : t ∈ l.family ref) (fits : m.Fits) (holds : m.Holds x row) :
    Filter.clauses t.storedLeaf .none (m.keyFilter x) = .ok (m.keyClauses row) := by
  have each : ∀ f ∈ m.keyFields, f ∈ t.allFields ∧ f ∈ m.allFields ∧ ∃ a : Attribute,
      a.Keeps f.conversion (x.get f.ref) (row.column f.name) := by
    intro f field
    have mapped := (List.mem_filter.mp field).1
    rcases fits.declared f mapped with ⟨a, declared, same⟩
    rcases holds f mapped a declared same.symm with ⟨raw, present, kept⟩
    rw [Row.column_of_get? present]
    exact ⟨(List.mem_filter.mp (sound.keyField_mem top member target field)).1, mapped, a, kept⟩
  refine Filter.entriesClauses_fields (fun f field => ?_) (fun f field => ?_) (fun f field => ?_)
  · exact fits.plain f (each f field).2.1
  · obtain ⟨-, -, a, kept⟩ := each f field
    exact kept.flat
  · obtain ⟨inside, mapped, a, kept⟩ := each f field
    have operand : Mapping.operand (.str f.ref) f.conversion .eq (x.get f.ref) = .ok (row.column f.name) := by
      rw [Mapping.operand_single rfl rfl, kept.stored]
      rfl
    have made := Mapping.storedLeaf_eq sound (mem_family.mp target).1 inside (fits.named f mapped) rfl rfl operand
    rwa [kept.frozen] at made

/-- A row that was created has its key for itself, if no part of the key is missing. -/
theorem Sound.filter_sharesKey {s : Store} {rows : List Row} (sound : l.Sound schema)
    (top : l.KeysOnTop ref) (member : m ∈ l.family ref) (stores : l.Stores schema ref c) (fits : m.Fits)
    (keyed : m.keyFields ≠ []) (holds : m.Holds x row)
    (present : ∀ f ∈ m.keyFields, (x.get f.ref).isNone = false)
    (unique : s.checkUnique c ref.name row rows = .ok ()) :
    (rows ++ [row]).filter (m.sharesKey row) = [row] := by
  have each : ∀ f ∈ m.keyFields, (row.column f.name == row.column f.name) = true ∧
      (row.column f.name).isNone = false := by
    intro f field
    have mapped := (List.mem_filter.mp field).1
    rcases fits.declared f mapped with ⟨a, declared, same⟩
    rcases holds f mapped a declared same.symm with ⟨raw, found, kept⟩
    rw [Row.column_of_get? found, Converter.isNone_of_toRaw kept.stored]
    exact ⟨kept.self, present f field⟩
  have cases_ := sound.primaryKey_cases top member stores
  have nonempty : c.primaryKey ≠ [] := by
    rcases List.exists_mem_of_ne_nil _ keyed with ⟨f, field⟩
    exact List.ne_nil_of_mem ((cases_ _).mpr ⟨f, field, rfl⟩)
  have single := Store.primaryKey_unique unique nonempty fun d key => by
    rcases (cases_ d).mp key with ⟨f, field, rfl⟩
    exact (each f field).2
  have others : rows.filter (m.sharesKey row) = [] := by
    rw [List.filter_eq_nil_iff]
    intro other inside shares
    rcases single other inside with ⟨d, key, differs⟩
    rcases (cases_ d).mp key with ⟨f, field, rfl⟩
    have same := List.all_eq_true.mp shares f field
    rw [show f.toCollectionField.name = f.name from rfl, same] at differs
    cases differs
  have own : m.sharesKey row row = true := List.all_eq_true.mpr fun f field => (each f field).1
  rw [List.filter_append, others, List.nil_append, List.filter_singleton, own]
  rfl

/-- The columns of the primary key that all mappings of a collection declare together. -/
def keyColumns (l : Layout) (ref : CollectionRef) : List String :=
  ((l.columns ref).filter (·.primaryKey)).map (·.name)

theorem Stores.map_primaryKey (stores : l.Stores schema ref c) :
    c.primaryKey.map (·.name) = l.keyColumns ref := by
  rw [Collection.primaryKey, stores.fields, List.filter_map, List.map_map]
  rfl

/-- A key column is one of a field that a mapping of the collection declares. -/
theorem Sound.mem_keyColumns (sound : l.Sound schema) {k : String} (key : k ∈ l.keyColumns ref) :
    ∃ p ∈ l.family ref, ∃ f ∈ p.fields, f.primaryKey = true ∧ f.name = k := by
  rcases List.mem_map.mp key with ⟨f, column, rfl⟩
  obtain ⟨column, primary⟩ := List.mem_filter.mp column
  rcases List.mem_flatMap.mp column with ⟨p, inside, own⟩
  rcases sound.column_cases (mem_family.mp inside).1 own with ⟨-, -, -, none⟩ | field
  · rw [none] at primary
    cases primary
  · exact ⟨p, inside, f, field, primary, rfl⟩

theorem Sound.keyColumn_of_keyField (sound : l.Sound schema)
    (member : m ∈ l.family ref) (field : f ∈ m.keyFields) : f.name ∈ l.keyColumns ref := by
  obtain ⟨mapped, key⟩ := List.mem_filter.mp field
  exact List.mem_map_of_mem (List.mem_filter.mpr ⟨sound.field_mem_columns member mapped, key⟩)

end Layout

end ModelStore
