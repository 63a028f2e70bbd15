import ModelStore.Proofs.Mapping.Keys
import ModelStore.Proofs.Mapping.Owned
import ModelStore.Proofs.Store.Uniqueness
import ModelStore.Proofs.Value.Reflexivity
import ModelStore.Proofs.Value.Stored

/-!
Rows by the keys of instances. The store writes over the first row with the key of an instance, or deletes it;
there is only one such row if no part of the key is missing. An instance that is read of values that equal those
of another one equals it.
-/

namespace ModelStore

open Store (Distinct)

theorem filter_eq_singleton {α : Type} {p : α → Bool} {xs : List α} {i : Nat} {x : α} (here : xs[i]? = some x)
    (holds : p x = true) (alone : ∀ j y, xs[j]? = some y → p y = true → j = i) : xs.filter p = [x] := by
  induction xs generalizing i with
  | nil => cases here
  | cons y ys ih =>
    cases i with
    | zero =>
      cases here
      have rest : ys.filter p = [] := List.filter_eq_nil_iff.mpr fun z later also => by
        rcases List.getElem?_of_mem later with ⟨j, there⟩
        cases alone (j + 1) z there also
      rw [List.filter_cons_of_pos holds, rest]
    | succ i =>
      have first : ¬p y = true := fun also => nomatch alone 0 y rfl also
      rw [List.filter_cons_of_neg first]
      exact ih here fun j z there also => Nat.succ_inj.mp (alone (j + 1) z there also)

/-! Equal values and their stored forms. -/

namespace AttributeType

variable {a : AttributeType} {t : FieldType} {v w p q : Value}

theorem Included.beq_self (included : a.Included v) : (v == v) = true := by
  cases included with
  | int n => rw [Value.int_beq_int, beq_self_eq_true]
  | float x number => exact Value.float_beq_self number
  | str s => exact str_beq_self s
  | bool b => rw [Value.beq_bool, beq_self_eq_true]
  | date d => rw [Value.beq_date, beq_self_eq_true]
  | datetime d => rw [Value.beq_datetime, DateTime.compare?_self, beq_self_eq_true]
  | bytes bs => rw [Value.beq_bytes, beq_self_eq_true]

theorem includes_of_admits (admits : a.admits v = true) : a.includes v = true := by
  cases a <;> cases v <;> first | rfl | exact admits

theorem Included.isScalar (included : a.Included v) (suits : t.suits a = true)
    (stored : t.converter.toRaw v = .ok p) : p.isScalar = true := by
  cases included <;> cases t <;> cases suits <;> cases stored <;> rfl

/-- Stored forms that are equal are the same, except for those of numbers that are not whole. -/
theorem Included.stored_inj (included : a.Included v) (included' : a.Included w) (suits : t.suits a = true)
    (stored : t.converter.toRaw v = .ok p) (stored' : t.converter.toRaw w = .ok q) (same : (p == q) = true) :
    p = q ∨ a = .float ∧ p = v ∧ q = w := by
  cases included with
  | float x number =>
    cases included'
    cases t <;> cases suits <;> cases stored <;> cases stored' <;> exact .inr ⟨rfl, rfl, rfl⟩
  | _ =>
    refine .inl ?_
    cases included'
    cases t <;> cases suits <;> cases stored <;> cases stored' <;>
      simp only [Value.int_beq_int, Value.str_beq_str, beq_iff_eq] at same <;> rw [same]

end AttributeType

namespace Attribute

variable {a : Attribute} {t : FieldType} {v w p q : Value}

theorem includes_of_admits (admits : a.admits v = true) : a.includes v = true := by
  rcases Bool.or_eq_true_iff.mp admits with typed | missing
  · rw [includes, AttributeType.includes_of_admits typed, Bool.true_or]
  · rw [includes, missing, Bool.or_true]

/-- Values that are not missing are stored as texts or numbers. -/
theorem isScalar_of_includes (suits : t.suits a.type = true) (includes : a.includes v = true)
    (present : v.isNone = false) (stored : t.converter.toRaw v = .ok p) : p.isScalar = true := by
  rcases Bool.or_eq_true_iff.mp includes with typed | missing
  · exact (AttributeType.included typed).isScalar suits stored
  · rw [present] at missing
    cases missing

/-- What is read of a stored form equals every value of which the stored form equals that. -/
theorem exists_read_equal (suits : t.suits a.type = true) (includes : a.includes v = true)
    (admits : a.admits w = true) (stored : t.converter.toRaw v = .ok p) (stored' : t.converter.toRaw w = .ok q)
    (same : (p == q) = true) : ∃ y, t.converter.ofRaw p = .ok y ∧ a.check y = Checked.ok y ∧ (y == w) = true := by
  obtain ⟨r, kept⟩ := exists_keeps suits admits
  cases kept.stored.symm.trans stored'
  have none_of : ∀ {u s : Value}, t.converter.toRaw u = .ok s → s.isNone = true → u = .none ∧ s = .none :=
    fun stored missing =>
      ⟨Value.isNone_iff.mp (Converter.isNone_of_toRaw stored ▸ missing), Value.isNone_iff.mp missing⟩
  rcases Bool.or_eq_true_iff.mp (includes_of_admits admits) with typed' | missing
  · have included' := AttributeType.included typed'
    rcases Bool.or_eq_true_iff.mp includes with typed | missing
    · have included := AttributeType.included typed
      rcases included.stored_inj included' suits stored stored' same with rfl | ⟨float, rfl, rfl⟩
      · exact ⟨w, kept.restored, kept.accepted, included'.beq_self⟩
      · refine ⟨p, ?_, check_of_included included, same⟩
        have own : t.converter = .float := by
          rw [float] at suits
          cases t <;> first | rfl | cases suits
        rw [own]
        rw [float] at included
        cases included
        rfl
    · -- nothing but a missing value equals one
      have none := Value.isNone_iff.mp (Bool.and_eq_true_iff.mp missing).1
      subst none
      cases stored
      rw [Value.none_beq] at same
      obtain ⟨rfl, -⟩ := none_of stored' same
      generalize a.type = type at included'
      cases included'
  · obtain ⟨none, nullable⟩ := Bool.and_eq_true_iff.mp missing
    cases Value.isNone_iff.mp none
    cases stored'
    rw [Value.beq_swap, Value.none_beq] at same
    obtain ⟨rfl, rfl⟩ := none_of stored same
    exact ⟨.none, rfl, check_none nullable, Value.none_beq_none⟩

end Attribute

/-- Whether an instance is of the class of another one, with values that equal those of that. -/
structure Entity.Equals (y x : Entity) : Prop where
  model : y.model = x.model
  value : ∀ a ∈ x.model.attributes, (y.get a.name == x.get a.name) = true

namespace Mapping

/-- Whether every attribute of an instance has a value of its type, or is missing where that is allowed. -/
def Admits (m : Mapping) (x : Entity) : Prop :=
  ∀ f ∈ m.allFields, ∀ a ∈ m.model.attributes, f.ref = a.name → a.admits (x.get f.ref) = true

instance (m : Mapping) (x : Entity) : Decidable (m.Admits x) :=
  inferInstanceAs (Decidable (∀ f ∈ m.allFields, ∀ a ∈ m.model.attributes, f.ref = a.name →
    a.admits (x.get f.ref) = true))

/-- Whether a row has the key of an instance. -/
def HasKey (m : Mapping) (x : Entity) (row : Row) : Prop :=
  ∀ f ∈ m.keyFields, ∃ raw, f.conversion.toRaw (x.get f.ref) = .ok raw ∧ (row.column f.name == raw) = true

/-- Whether an instance has a value for every part of its key. -/
def Identifies (m : Mapping) (x : Entity) : Prop := ∀ f ∈ m.keyFields, (x.get f.ref).isNone = false

/-- Whether a row holds stored forms of values that equal those of an instance. -/
def Resembles (m : Mapping) (x : Entity) (row : Row) : Prop :=
  ∀ f ∈ m.allFields, ∀ a ∈ m.model.attributes, f.ref = a.name →
    ∃ v p q, a.includes v = true ∧ f.conversion.toRaw v = .ok p ∧ row.get? f.name = some p ∧
      f.conversion.toRaw (x.get f.ref) = .ok q ∧ (p == q) = true

variable {m : Mapping} {x : Entity} {row key other : Row}

theorem Conforms.includes (conforms : m.Conforms x) : m.Includes x true := fun f mapped a declared same =>
  (conforms f mapped a declared same).imp Attribute.includes_of_admits id

theorem Admits.includes (admits : m.Admits x) : m.Includes x false := fun f mapped a declared same =>
  .inl (Attribute.includes_of_admits (admits f mapped a declared same))

theorem Resembles.hasKey (resembles : m.Resembles x row) (fits : m.Fits) : m.HasKey x row := by
  intro f field
  have mapped := (List.mem_filter.mp field).1
  rcases fits.declared f mapped with ⟨a, declared, same⟩
  obtain ⟨v, p, q, -, -, present, stored, equal⟩ := resembles f mapped a declared same.symm
  exact ⟨q, stored, Row.column_of_get? present ▸ equal⟩

/-- The row that is written of an instance leads back to its values. -/
theorem Admits.holds (admits : m.Admits x) (fits : m.Fits) (writes : m.Writes x false row) : m.Holds x row := by
  intro f mapped a declared same
  rcases writes.field f mapped rfl with ⟨raw, stored, present⟩
  rcases fits.exists_keeps mapped declared same (admits f mapped a declared same) with ⟨raw', kept⟩
  cases kept.stored.symm.trans stored
  exact ⟨raw, present, kept⟩

theorem Holds.hasKey (holds : m.Holds x row) (fits : m.Fits) : m.HasKey x row := by
  intro f field
  have mapped := (List.mem_filter.mp field).1
  rcases fits.declared f mapped with ⟨a, declared, same⟩
  rcases holds f mapped a declared same.symm with ⟨raw, present, kept⟩
  exact ⟨raw, kept.stored, Row.column_of_get? present ▸ kept.self⟩

/-- The first row with the key of an instance, between the rows before and after it. -/
structure Hits (m : Mapping) (x : Entity) (rows before : List Row) (old : Row) (after : List Row) : Prop where
  rows : rows = before ++ old :: after
  key : m.HasKey x old
  first : ∀ r ∈ before, ¬m.HasKey x r

/-- The rows with the key of an instance are those that share it with the row that is written of it. -/
theorem Writes.hasKey_iff (writes : m.Writes x false row) : m.HasKey x other ↔ m.sharesKey row other = true := by
  rw [sharesKey, List.all_eq_true]
  refine forall₂_congr fun f field => ?_
  rcases writes.field f (List.mem_filter.mp field).1 rfl with ⟨raw, stored, present⟩
  rw [stored, Row.column_of_get? present]
  constructor
  · rintro ⟨raw', same, equal⟩
    cases same
    exact equal
  · exact fun equal => ⟨raw, rfl, equal⟩

end Mapping

namespace Layout

variable {l : Layout} {driver schema : Nat} {m t : Mapping} {ref : CollectionRef} {c : Collection}
  {s s' : Store} {x : Entity} {row key other a b : Row} {rows : List Row}

/-- A key has the columns of the key fields. -/
theorem Sound.keyOf_eq (sound : l.Sound schema) (known : m ∈ l.mappings) (keyed : m.keyFields ≠ []) (row : Row) :
    m.keyOf row = .ok (m.keyNames.map fun k => (k, row.column k)) := by
  have names : m.keyNames.Nodup :=
    (List.filter_sublist.map fun f : MappingField => f.name).nodup (sound.field_names_distinct known)
  have some : m.keyNames ≠ [] := fun none => keyed (List.map_eq_nil_iff.mp none)
  have listed := Assoc.foldl_put (m := []) (fun k : String => k) (fun k => row.column k) m.keyNames
    (by simpa [Assoc.keys] using names)
  unfold Mapping.keyOf
  rw [if_neg (by rwa [List.isEmpty_iff]), listed, List.nil_append]

theorem Sound.keyed_cases (sound : l.Sound schema) (known : m ∈ l.mappings) (keyed : m.keyOf row = .ok key) :
    m.keyFields ≠ [] ∧ ∀ other : Row, other.carries key.toEntries = m.sharesKey row other := by
  have some : m.keyFields ≠ [] := by
    intro none
    rw [Mapping.keyOf, Mapping.keyNames, show m.allFields.filter (·.primaryKey) = [] from none] at keyed
    cases keyed
  refine ⟨some, fun other => ?_⟩
  cases (sound.keyOf_eq known some row).symm.trans keyed
  rw [Row.carries, Row.toEntries, Mapping.sharesKey, Mapping.keyFields, Mapping.keyNames]
  simp only [List.all_map]
  rfl

/-- Where the store finds the key of a row, there is the first row with the key of the instance. -/
theorem Sound.hits_of_locate {rows before after : List Row} {old : Row} (sound : l.Sound schema)
    (known : m ∈ l.mappings) (writes : m.Writes x false row) (keyed : m.keyOf row = .ok key)
    (found : Store.locate ref.name rows key.toEntries = .ok (before, old, after)) : m.Hits x rows before old after := by
  obtain ⟨parts, carries, first⟩ := Store.locate_first found
  have shares := (sound.keyed_cases known keyed).2
  refine ⟨parts, writes.hasKey_iff.mpr (shares old ▸ carries), fun r inside has => ?_⟩
  have apart := first r inside
  rw [shares, writes.hasKey_iff.mp has] at apart
  cases apart

/-- What is saved of an instance is written over the first row with its key, and over no other column than those of
    the mapping that are no part of the key. -/
theorem Sound.save_hits (sound : l.Sound schema) (stores : l.Stores schema ref c) (member : m ∈ l.family ref)
    (provisioned : s.shapes.get? ref.name = some ref) (written : m.rowOf l ref.name x false = .ok row)
    (keyed : m.keyOf row = .ok key)
    (made : s.save l.collections (.str ref.name) key.toEntries (Mapping.changes row key).toEntries = .ok s') :
    ∃ before old after new, m.Hits x (s.rows ref.name) before old after ∧
      (∀ k, new.get? k = (if k ∈ m.keyNames then none else row.get? k).or (old.get? k)) ∧
      s' = s.setRows ref.name (before ++ new :: after) := by
  rcases Store.save_parts made with ⟨d, before, old, after, new, shaped, found, overlay, -, same⟩
  cases (Store.shape_of_get? provisioned).symm.trans shaped
  rw [stores.get_eq] at overlay
  have writes := sound.writes_of_rowOf member stores written
  exact ⟨before, old, after, new, sound.hits_of_locate (mem_family.mp member).1 writes keyed found,
    sound.get?_saved member writes keyed overlay, same⟩

theorem Sound.remove_hits (sound : l.Sound schema) (stores : l.Stores schema ref c) (member : m ∈ l.family ref)
    (written : m.rowOf l ref.name x false = .ok row) (keyed : m.keyOf row = .ok key)
    (made : s.remove l.collections (.str ref.name) key.toEntries = .ok s') :
    ∃ before old after, m.Hits x (s.rows ref.name) before old after ∧ s' = s.setRows ref.name (before ++ after) := by
  rcases Store.remove_parts made with ⟨before, old, after, found, same⟩
  have writes := sound.writes_of_rowOf member stores written
  exact ⟨before, old, after, sound.hits_of_locate (mem_family.mp member).1 writes keyed found, same⟩

/-- A row has the key of one instance only, and the instance has one row only, if no part of the key is missing. -/
theorem Sound.eq_of_hasKey {i j : Nat} (sound : l.Sound schema) (top : l.KeysOnTop ref) (member : m ∈ l.family ref)
    (agrees : m.Agrees) (includes : m.Includes x false) (keyed : m.keyFields ≠ []) (identifies : m.Identifies x)
    (distinct : l.keyColumns ref ≠ [] → Distinct (l.keyColumns ref) rows) (first : rows[i]? = some a)
    (second : rows[j]? = some b) (has : m.HasKey x a) (has' : m.HasKey x b) : i = j := by
  obtain ⟨hi, rfl⟩ := List.getElem?_eq_some_iff.mp first
  obtain ⟨hj, rfl⟩ := List.getElem?_eq_some_iff.mp second
  have nonempty : l.keyColumns ref ≠ [] := by
    rcases List.exists_mem_of_ne_nil _ keyed with ⟨f, field⟩
    exact List.ne_nil_of_mem (sound.keyColumn_of_keyField member field)
  -- both rows equal the same texts and numbers in all key columns, and so each other
  have equal : ∀ k ∈ l.keyColumns ref, ∃ raw : Value, raw.isScalar = true ∧ (rows[i].column k == raw) = true ∧
      (rows[j].column k == raw) = true := by
    intro k column
    rcases sound.mem_keyColumns column with ⟨p, inside, f, own, primary, rfl⟩
    have field : f ∈ m.keyFields :=
      sound.keyField_mem top inside member (List.mem_filter.mpr ⟨mem_allFields_self own, primary⟩)
    have mapped := (List.mem_filter.mp field).1
    rcases agrees.declared f mapped with ⟨a, declared, same⟩
    obtain ⟨raw, stored, left⟩ := has f field
    obtain ⟨raw', stored', right⟩ := has' f field
    cases stored.symm.trans stored'
    rw [agrees.converter f mapped] at stored
    have typed := (includes f mapped a declared same.symm).resolve_right (by simp)
    have scalar := Attribute.isScalar_of_includes (agrees.suits a declared f mapped same.symm) typed
      (identifies f field) stored
    exact ⟨raw, scalar, left, right⟩
  by_contra apart
  obtain ⟨k, column, missing⟩ := distinct nonempty i j hi hj apart fun k column => by
    obtain ⟨raw, scalar, left, right⟩ := equal k column
    exact Value.beq_of_beq_scalar scalar left right
  obtain ⟨raw, scalar, left, right⟩ := equal k column
  have none : (Value.none == raw) = true := by
    rcases missing with missing | missing
    · rwa [missing] at left
    · rwa [missing] at right
  rw [Value.none_beq] at none
  cases Value.isNone_iff.mp none
  cases scalar

/-- A row is restored as an instance that equals every one whose values it resembles. -/
theorem Hierarchy.restore_resembling (hierarchy : l.Hierarchy driver schema ref) (member : m ∈ l.family ref)
    (stores : l.Stores schema ref c) (target : t ∈ l.family ref) (below : Below l t m) (owned : l.Owned ref m row)
    (class_ : x.model = m.model) (admits : m.Admits x) (resembles : m.Resembles x row) :
    ∃ y, l.restore t ref (row.document ref.name) = .ok y ∧ y.Equals x := by
  have sound := hierarchy.declared.sound
  have fits := hierarchy.fits m member
  have read : ∀ f ∈ m.allFields, ∀ a ∈ m.model.attributes, f.ref = a.name →
      ∃ raw v, row.get? f.name = some raw ∧ f.conversion.ofRaw raw = .ok v ∧ a.check v = Checked.ok v ∧
        (v == x.get f.ref) = true := by
    intro f mapped a declared same
    obtain ⟨u, p, q, includes, stored, present, stored', equal⟩ := resembles f mapped a declared same
    rw [fits.converter f mapped] at stored stored' ⊢
    obtain ⟨v, restored, accepted, equal⟩ := Attribute.exists_read_equal (fits.suits a declared f mapped same)
      includes (admits f mapped a declared same) stored stored' equal
    exact ⟨p, v, present, restored, accepted, equal⟩
  obtain ⟨back, converted⟩ := owned.exists_back sound (fun p inside => (hierarchy.fits p inside).agrees) stores
  have resolved := sound.resolve_of_tagged hierarchy.differ member stores target below owned.toTagged converted
  obtain ⟨y, restored, model, values⟩ := sound.restore_eq stores (mem_family.mp target).1 member fits.agrees
    converted resolved fun f mapped a declared same => by
      obtain ⟨raw, v, present, restored, accepted, -⟩ := read f mapped a declared same
      exact ⟨raw, v, present, restored, accepted⟩
  refine ⟨y, restored, model.trans class_.symm, fun a declared => ?_⟩
  rw [class_] at declared
  rcases fits.mapped a declared with ⟨f, mapped, same⟩
  obtain ⟨raw, v, present, restored, -, equal⟩ := read f mapped a declared same
  have value := values f mapped
  rw [Row.column_of_get? present, restored] at value
  cases value
  rwa [same] at equal

/-- Of all rows, the filter by the key of an instance finds the only one with the key. -/
theorem Hierarchy.find_resembling {e : Evaluator} {i : Nat} (evaluator : Option Nat)
    (hierarchy : l.Hierarchy driver schema ref) (member : m ∈ l.family ref) (stores : l.Stores schema ref c)
    (target : t ∈ l.family ref) (below : Below l t m) (equal : e.Equates) (owned : l.Owned ref m row)
    (admits : m.Admits x) (resembles : m.Resembles x row) (written : m.Writes x false other)
    (provisioned : s.shapes.get? ref.name = some ref) (here : (s.rows ref.name)[i]? = some row)
    (alone : ∀ j r, (s.rows ref.name)[j]? = some r → m.HasKey x r → j = i) :
    ∃ q, t.parse ref (m.keyFilter x) { limit := some 1 } = .ok q ∧
      (Driver.memory s evaluator).findOne l.collections e q = .ok (some (row.document ref.name)) := by
  have sound := hierarchy.declared.sound
  have fits := hierarchy.fits m member
  have read := sound.keyFilter_clauses hierarchy.keys member target fits (admits.holds fits written)
  obtain ⟨q, parsed, found⟩ := Mapping.find_of_clauses evaluator (o := { limit := some 1 })
    (sound.each _ (mem_family.mp target).1) equal provisioned rfl read
    fun r _ _ => Mapping.keyClauses_told equal r
  have covered : (t.covers row && m.sharesKey other row) = true := by
    rw [(owned.covers_iff sound hierarchy.differ stores target).mpr below,
      written.hasKey_iff.mp (resembles.hasKey fits), Bool.and_true]
  have single : (s.rows ref.name).filter (fun r => t.covers r && m.sharesKey other r) = [row] :=
    filter_eq_singleton here covered fun j r there shares =>
      alone j r there (written.hasKey_iff.mpr (Bool.and_eq_true_iff.mp shares).2)
  rw [single] at found
  refine ⟨q, parsed, ?_⟩
  rw [Driver.findOne, found]
  rfl

end Layout

end ModelStore
