import ModelStore.Proofs.Mapping.Conversion
import ModelStore.Proofs.Mapping.Regular

/-!
Rows and the mappings that created them. Such a row is covered by its mapping and by those above it, and by
no others; all of these restore it as the same instance of the class of its mapping.
-/

namespace ModelStore

/-- Whether a value is one of a type; a `nan` equals nothing and is left out. -/
def AttributeType.includes : AttributeType → Value → Bool
  | .int, .int _ | .str, .str _ | .bool, .bool _ | .date, .date _ | .datetime, .datetime _
  | .bytes, .bytes _ => true
  | .float, .float x => !x.isNaN
  | _, _ => false

/-- Whether a value is one of the type of an attribute, or missing where that is allowed. -/
def Attribute.includes (a : Attribute) (v : Value) : Bool := a.type.includes v || v.isNone && a.nullable

/-- Whether every attribute of an instance has a value of its own, or is left to a sequence. -/
def Mapping.Includes (m : Mapping) (x : Entity) (skip : Bool) : Prop :=
  ∀ f ∈ m.allFields, ∀ a ∈ m.model.attributes, f.ref = a.name →
    a.includes (x.get f.ref) = true ∨ (skip && f.unset x) = true

instance (m : Mapping) (x : Entity) (skip : Bool) : Decidable (m.Includes x skip) :=
  inferInstanceAs (Decidable (∀ f ∈ m.allFields, ∀ a ∈ m.model.attributes, f.ref = a.name →
    a.includes (x.get f.ref) = true ∨ (skip && f.unset x) = true))

/-- The values of a type. -/
inductive AttributeType.Included : AttributeType → Value → Prop where
  | int (n : Int) : Included .int (.int n)
  | float (x : Binary64) (number : x.isNaN = false) : Included .float (.float x)
  | str (s : String) : Included .str (.str s)
  | bool (b : Bool) : Included .bool (.bool b)
  | date (d : Date) : Included .date (.date d)
  | datetime (d : DateTime) : Included .datetime (.datetime d)
  | bytes (bs : List UInt8) : Included .bytes (.bytes bs)

theorem AttributeType.included {a : AttributeType} {v : Value} (includes : a.includes v = true) :
    Included a v := by
  cases a with
  | int => cases v with
    | int n => exact .int n
    | _ => cases includes
  | float => cases v with
    | float x => exact .float x (by simpa [AttributeType.includes] using includes)
    | _ => cases includes
  | str => cases v with
    | str s => exact .str s
    | _ => cases includes
  | bool => cases v with
    | bool b => exact .bool b
    | _ => cases includes
  | date => cases v with
    | date d => exact .date d
    | _ => cases includes
  | datetime => cases v with
    | datetime d => exact .datetime d
    | _ => cases includes
  | bytes => cases v with
    | bytes bs => exact .bytes bs
    | _ => cases includes
  | any => cases v <;> cases includes

theorem AttributeType.Included.settled {a : AttributeType} {v : Value} (included : a.Included v) (c : Converter) :
    a.Included (c.settled v) := by
  cases included with
  | datetime d => cases c <;> exact .datetime _
  | float x number => cases c <;> exact .float x number
  | _ => cases c <;> constructor

namespace Attribute

variable {a : Attribute} {t : FieldType} {v : Value}

theorem check_of_included (included : a.type.Included v) : a.check v = Checked.ok v := by
  have accepted : a.type.check v = Checked.ok v := by
    generalize a.type = type at included
    cases included <;> rfl
  have given : Check.nullable a.type.check v = Checked.ok (some v) := by
    generalize a.type = type at included accepted
    cases included <;> rfl
  unfold check
  split
  · rw [given]
    rfl
  · exact accepted

theorem check_none (nullable : a.nullable = true) : a.check .none = Checked.ok .none := by
  rw [check, if_pos nullable]
  rfl

/-- A value is stored, and what is read back of it is accepted. -/
theorem reads_of_includes (suits : t.suits a.type = true) (includes : a.includes v = true) :
    ∃ raw w, t.converter.toRaw v = .ok raw ∧ t.converter.ofRaw raw = .ok w ∧ a.check w = Checked.ok w := by
  rcases Bool.or_eq_true_iff.mp includes with typed | missing
  · have included := AttributeType.included typed
    have covered : t.converter.covers v = true := by
      generalize a.type = type at included suits
      cases included with
      | float x number =>
        have own : t.converter = .float := by cases t <;> first | rfl | cases suits
        rw [own, Converter.covers, number]
        rfl
      | _ => cases t <;> cases suits <;> rfl
    obtain ⟨raw, stored, restored⟩ := Converter.ofRaw_toRaw covered
    exact ⟨raw, _, stored, restored, check_of_included (included.settled _)⟩
  · obtain ⟨none, nullable⟩ := Bool.and_eq_true_iff.mp missing
    cases v with
    | none => exact ⟨.none, .none, rfl, rfl, check_none nullable⟩
    | _ => cases none

end Attribute

theorem Mapping.Agrees.ofRaw_int {m : Mapping} {f : MappingField} (agrees : m.Agrees) (mapped : f ∈ m.allFields)
    (generated : f.sequence.isPresent = true) (n : Int) : f.conversion.ofRaw (.int n) = .ok (.int n) := by
  rw [agrees.converter f mapped, agrees.sequence f mapped generated]
  rfl

theorem Mapping.Agrees.check_int {m : Mapping} {f : MappingField} {a : Attribute} (agrees : m.Agrees)
    (mapped : f ∈ m.allFields) (declared : a ∈ m.model.attributes) (same : f.ref = a.name)
    (generated : f.sequence.isPresent = true) (n : Int) : a.check (.int n) = Checked.ok (.int n) :=
  Attribute.check_of_included (agrees.type_of_sequence mapped declared same generated ▸ .int n)

namespace Layout

/-- Whether a row can be one that a mapping created: it is tagged for it, and what it holds for the fields of
    the mapping is read as values that the model accepts. -/
structure Owned (l : Layout) (ref : CollectionRef) (own : Mapping) (row : Row) : Prop
    extends Tagged l ref own row where
  member : own ∈ l.family ref
  distinct : row.keys.Nodup
  field : ∀ f ∈ own.allFields, ∀ a ∈ own.model.attributes, f.ref = a.name →
    ∃ raw v, row.get? f.name = some raw ∧ f.conversion.ofRaw raw = .ok v ∧ a.check v = Checked.ok v

variable {l l' : Layout} {schema : Nat} {own t n r : Mapping} {ref : CollectionRef} {c : Collection}
  {f : MappingField} {a : Attribute} {x : Entity} {row key old new back : Row} {k : String} {v : Value}

/-! Rows that are written. -/

theorem Stores.owned_of_creates (stores : l.Stores schema ref c) (agrees : own.Agrees)
    (member : own ∈ l.family ref) (includes : own.Includes x true) (creates : own.Creates c x row) :
    l.Owned ref own row where
  toTagged := stores.tagged_of_creates creates
  member := member
  distinct := creates.distinct
  field := by
    intro f mapped a declared same
    cases left : f.unset x with
    | true =>
      rcases creates.generated f mapped left with ⟨n, number⟩
      have generated := (Bool.and_eq_true_iff.mp left).1
      exact ⟨_, _, number, agrees.ofRaw_int mapped generated n, agrees.check_int mapped declared same generated n⟩
    | false =>
      have includes := (includes f mapped a declared same).resolve_right (by simp [left])
      rcases creates.field f mapped left with ⟨raw, stored, present⟩
      rcases Attribute.reads_of_includes (agrees.suits a declared f mapped same) includes with
        ⟨raw', w, stored', read, accepted⟩
      rw [← agrees.converter f mapped] at stored' read
      cases stored.symm.trans stored'
      exact ⟨raw, w, present, read, accepted⟩

/-- An instance that is saved over a row of its mapping leaves a row of its mapping. -/
theorem Owned.saved (owned : l.Owned ref own old) (sound : l.Sound schema) (agrees : own.Agrees)
    (includes : own.Includes x false) (writes : own.Writes x false row) (keyed : own.keyOf row = .ok key)
    (overlay : Store.overlaid c old (Mapping.changes row key).toEntries = .ok new) : l.Owned ref own new := by
  have known := (mem_family.mp owned.member).1
  have column := sound.get?_saved owned.member writes keyed overlay
  refine ⟨⟨fun k v given => ?_, fun k v found fields values => ?_⟩, owned.member,
    Store.nodup_overlaid overlay owned.distinct, fun f mapped a declared same => ?_⟩
  · rw [column]
    split
    · exact owned.value k v given
    · rw [writes.value k v given]
      rfl
  · rw [column, writes.other k fields values] at found
    refine owned.other k v ?_ fields values
    split at found <;> exact found
  · rw [column]
    split
    · exact owned.field f mapped a declared same
    · have includes := (includes f mapped a declared same).resolve_right (by simp)
      rcases writes.field f mapped (by simp) with ⟨raw, stored, present⟩
      rcases Attribute.reads_of_includes (agrees.suits a declared f mapped same) includes with
        ⟨raw', w, stored', read, accepted⟩
      rw [← agrees.converter f mapped] at stored' read
      cases stored.symm.trans stored'
      rw [present]
      exact ⟨raw, w, rfl, read, accepted⟩

theorem columns_of_append (mappings : l'.mappings = l.mappings ++ [n]) (column : f ∈ l.columns ref) :
    f ∈ l'.columns ref := by
  rcases List.mem_flatMap.mp column with ⟨p, inside, own⟩
  exact List.mem_flatMap.mpr ⟨p, mem_family_of_append mappings inside, own⟩

/-- A row stays with its mapping when another one is declared. -/
theorem Owned.append (owned : l.Owned ref own row) (mappings : l'.mappings = l.mappings ++ [n]) :
    l'.Owned ref own row where
  value := owned.value
  other := by
    intro k v found fields values
    rcases owned.other k v found fields values with ⟨f, column, rest⟩
    exact ⟨f, columns_of_append mappings column, rest⟩
  member := mem_family_of_append mappings owned.member
  distinct := owned.distinct
  field := owned.field

/-! Rows that are read. -/

/-- The rows that a mapping covers are those of the mappings at or below it. -/
theorem Owned.covers_iff (owned : l.Owned ref own row) (sound : l.Sound schema) (differ : l.SiblingsDiffer ref)
    (stores : l.Stores schema ref c) (target : t ∈ l.family ref) : t.covers row = true ↔ Below l t own := by
  have known := (mem_family.mp target).1
  rw [Mapping.covers_iff (sound.each t known)]
  constructor
  · intro covers
    -- an untagged column would be missing, and what is missing equals no discriminator value
    have marks : l.Marks t row := by
      intro p inside child k s open_ value
      have collected := family_of_extends target inside (sound.extends_of_child inside child).1
      have told := covers k s value
      cases found : row.get? k with
      | none =>
        rw [Row.column, found, Option.getD_none, Value.none_beq] at told
        cases told
      | some v =>
        rcases stores.value_of_tagged sound owned.member owned.toTagged collected open_ found with ⟨u, -, rfl⟩
        rw [Row.column_of_get? found, Value.str_beq_str, beq_iff_eq] at told
        rw [told]
    refine stores.below_of_marks sound differ owned.member target marks fun p inside k s open_ found => ?_
    rcases stores.value_of_tagged sound owned.member owned.toTagged inside open_ found with ⟨u, given, same⟩
    cases same
    exact given
  · intro below k s given
    rw [Row.column_of_get? (owned.value k s (below.values sound known given)), str_beq_self]

theorem Owned.exists_read (owned : l.Owned ref own row) (sound : l.Sound schema)
    (agree : ∀ m ∈ l.family ref, m.Agrees) (found : row.get? k = some v) :
    ∃ f ∈ l.columns ref, f.name = k ∧ ∃ w, f.conversion.ofRaw v = .ok w := by
  -- a column of the mapping itself, a discriminator, or what a sequence left for a mapping elsewhere
  by_cases mapped : ∃ f ∈ own.allFields, f.name = k
  · rcases mapped with ⟨f, mapped, rfl⟩
    rcases (agree own owned.member).declared f mapped with ⟨a, declared, same⟩
    rcases owned.field f mapped a declared same.symm with ⟨raw, w, present, read, -⟩
    cases present.symm.trans found
    exact ⟨f, sound.field_mem_columns owned.member mapped, rfl, w, read⟩
  · by_cases given : k ∈ own.values.keys
    · rcases Assoc.exists_of_mem_keys given with ⟨s, value⟩
      rcases sound.exists_value_column owned.member given with ⟨f, column, name, keeps, -⟩
      cases (owned.value k s value).symm.trans found
      exact ⟨f, column, name, _, Converter.ofRaw_str keeps s⟩
    · rcases owned.other k v found (fun f inside name => mapped ⟨f, inside, name⟩) given with
        ⟨f, column, name, sequence, n, rfl⟩
      rcases List.mem_flatMap.mp column with ⟨p, inside, declares⟩
      rcases sound.column_cases (mem_family.mp inside).1 declares with ⟨-, -, absent, -⟩ | declares
      · rw [absent] at sequence
        cases sequence
      · exact ⟨f, column, name, _, (agree p inside).ofRaw_int (mem_allFields_self declares) sequence n⟩

theorem Owned.exists_back (owned : l.Owned ref own row) (sound : l.Sound schema)
    (agree : ∀ m ∈ l.family ref, m.Agrees) (stores : l.Stores schema ref c) :
    ∃ back, c.convertRow .fromStore row = .ok back := by
  refine Collection.exists_convertRow fun e inside => ?_
  rcases owned.exists_read sound agree (Assoc.get?_of_mem owned.distinct inside) with ⟨f, column, name, w, read⟩
  have known := stores.getField column
  rw [name] at known
  exact ⟨_, w, known, read⟩

/-- The mapping of the row and all above it restore the row as one and the same instance of its class. -/
theorem Owned.exists_restored (owned : l.Owned ref own row) (sound : l.Sound schema)
    (differ : l.SiblingsDiffer ref) (agree : ∀ m ∈ l.family ref, m.Agrees) (stores : l.Stores schema ref c) :
    ∃ y, y.model = own.model ∧
      ∀ t ∈ l.family ref, Below l t own → l.restore t ref (row.document ref.name) = .ok y := by
  have known := (mem_family.mp owned.member).1
  obtain ⟨back, converted⟩ := owned.exists_back sound agree stores
  have resolved : ∀ t ∈ l.family ref, Below l t own → l.resolve t back.fieldValues = .ok own :=
    fun t target below =>
      sound.resolve_of_tagged differ owned.member stores target below owned.toTagged converted
  have here := resolved own owned.member .self
  obtain ⟨y, restored, model, -⟩ := sound.restore_eq stores known owned.member (agree own owned.member)
    converted here owned.field
  refine ⟨y, model, fun t target below => ?_⟩
  have schema_eq := (sound.each t (mem_family.mp target).1).schema_eq
  rw [restore_document stores (sound.each own known).schema_eq, converted] at restored
  rw [restore_document stores schema_eq, converted]
  show l.build t back.fieldValues = .ok y
  rw [← restored]
  show l.build t back.fieldValues = l.build own back.fieldValues
  rw [build, build, resolved t target below, here]

end Layout

end ModelStore
