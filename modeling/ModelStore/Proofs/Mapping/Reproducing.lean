import ModelStore.Proofs.Mapping.Conversion
import ModelStore.Proofs.Mapping.Identity

/-!
Stored values that are read and stored again. What a converter stores comes back the same, but for a time whose
offset is lost; a number that a sequence stored, only if the converter counts that far. By the values of its key
that come back an instance is found that was just created.
-/

namespace ModelStore

/-- A time whose offset is lost is written in another way after it was read. -/
theorem Iso.text_settled_ne {d : DateTime} (lost : d.offset.all keepsOffset = false) : (settled d).text ≠ d.text := by
  cases zone : d.offset with
  | none =>
    rw [zone] at lost
    cases lost
  | some o =>
    rw [zone, Option.all_some] at lost
    have small : o.natAbs < 1000000 ∧ o.natAbs ≠ 0 := by
      simp only [keepsOffset, Bool.or_eq_false_iff, beq_eq_false_iff_ne, decide_eq_false_iff_not] at lost
      omega
    have zero : settledOffset o = 0 := by rw [settledOffset, if_pos small.1]
    intro same
    have chars : (DateTime.offsetChars 0).length = (DateTime.offsetChars o).length := by
      rw [DateTime.text, DateTime.text, String.ofList_inj] at same
      have length := congrArg List.length same
      have clock : (settled d).clockChars = d.clockChars := rfl
      have date : (settled d).date = d.date := rfl
      simp only [DateTime.isoChars, clock, date, List.length_append] at length
      rw [show (settled d).offset = d.offset.map settledOffset from rfl, zone, Option.map_some, Option.map_some,
        Option.map_some, zero, Option.getD_some, Option.getD_some] at length
      omega
    have seconds : o.natAbs / 1000000 % 60 = 0 := by omega
    have fraction : o.natAbs % 1000000 ≠ 0 := by omega
    rw [DateTime.offsetChars, DateTime.offsetChars] at chars
    simp [seconds, fraction, Text.length_padded] at chars
    omega

namespace Converter

variable {c : Converter} {v w raw : Value} {d : DateTime}

/-- Whether a stored value equals what is stored of the value that is read of it. -/
def Reproduces (c : Converter) (raw : Value) : Prop :=
  ∃ v w, c.ofRaw raw = .ok v ∧ c.toRaw v = .ok w ∧ (w == raw) = true

/-- Whether a number is read as a value that is stored as that number. -/
def counts : Converter → Nat → Bool
  | .identity, _ | .integer, _ => true
  | .boolean, n => decide (n ≤ 1)
  | .float, n => (Binary64.ofInt? n).any fun x => Value.float x == .int n
  | _, _ => false

theorem reproduces_iff (restored : c.ofRaw raw = .ok v) (stored : c.toRaw v = .ok w) :
    c.Reproduces raw ↔ (w == raw) = true := by
  constructor
  · rintro ⟨v', w', restored', stored', same⟩
    cases restored.symm.trans restored'
    cases stored.symm.trans stored'
    exact same
  · exact fun same => ⟨v, w, restored, stored, same⟩

theorem not_reproduces_of_error {e : Fault} (failed : c.ofRaw raw = .error e) : ¬c.Reproduces raw := by
  rintro ⟨v, w, restored, -, -⟩
  cases failed.symm.trans restored

theorem toRaw_identity (v : Value) : identity.toRaw v = .ok v := by cases v <;> rfl

theorem ofRaw_identity (raw : Value) : identity.ofRaw raw = .ok raw := by cases raw <;> rfl

theorem toRaw_present (present : v.isNone = false) : c.toRaw v = c.encode v := by
  cases v <;> first | rfl | cases present

theorem ofRaw_present (present : raw.isNone = false) : c.ofRaw raw = c.decode raw := by
  cases raw <;> first | rfl | cases present

/-- Only a time is not kept. -/
theorem lost_cases (lost : c.keeps v = false) :
    c = .date ∧ ∃ d, v = .datetime d ∧ d.offset.all Iso.keepsOffset = false := by
  cases c with
  | date =>
    cases v with
    | datetime d => exact ⟨rfl, d, rfl, lost⟩
    | _ => cases lost
  | _ => cases lost

/-- What is stored of a value that is kept is read as a value that is stored in the same way. -/
theorem exists_restored (stored : c.toRaw v = .ok raw) (kept : c.keeps v = true) :
    ∃ u, c.ofRaw raw = .ok u ∧ c.toRaw u = .ok raw := by
  cases present : v.isNone with
  | true =>
    cases Value.isNone_iff.mp present
    cases stored
    exact ⟨.none, rfl, rfl⟩
  | false =>
    rw [toRaw_present present] at stored
    cases c with
    | identity =>
      cases stored
      exact ⟨v, ofRaw_identity v, toRaw_identity v⟩
    | string =>
      cases stored
      exact ⟨_, rfl, rfl⟩
    | integer | float =>
      obtain ⟨n, -, same⟩ := Outcome.of_bind stored
      cases same
      exact ⟨_, rfl, rfl⟩
    | boolean =>
      cases stored
      exact ⟨_, (storedAs_bool v.truthy).restored, (storedAs_bool v.truthy).stored⟩
    | date =>
      cases v with
      | date d =>
        cases stored
        exact ⟨_, (storedAs_date d).restored, (storedAs_date d).stored⟩
      | datetime d =>
        cases stored
        exact ⟨_, (storedAs_datetime kept).restored, (storedAs_datetime kept).stored⟩
      | _ => cases stored
    | binary =>
      obtain ⟨bs, -, same⟩ := Outcome.of_bind stored
      cases same
      exact ⟨_, (storedAs_bytes bs).restored, (storedAs_bytes bs).stored⟩

theorem reproduces_kept (stored : c.toRaw v = .ok raw) (kept : c.keeps v = true) :
    c.Reproduces raw ↔ (raw == raw) = true := by
  obtain ⟨u, restored, again⟩ := exists_restored stored kept
  exact reproduces_iff restored again

theorem not_reproduces_lost (lost : d.offset.all Iso.keepsOffset = false) :
    ¬Converter.date.Reproduces (.str d.text) := by
  rw [reproduces_iff (ofRaw_text d) rfl, Value.str_beq_str, beq_iff_eq]
  exact Iso.text_settled_ne lost

theorem reproduces_text (keeps : c.keepsText = true) (s : String) : c.Reproduces (.str s) := by
  rw [reproduces_iff (ofRaw_str keeps s) (toRaw_str keeps s)]
  exact str_beq_self s

/-- A number of a sequence comes back if the converter counts that far. -/
theorem reproduces_number (c : Converter) (n : Nat) : c.Reproduces (.int n) ↔ c.counts n = true := by
  have self : (Value.int n == Value.int n) = true := by rw [Value.int_beq_int, beq_self_eq_true]
  cases c with
  | identity | integer =>
    rw [reproduces_iff (v := .int n) rfl rfl, self]
    exact Iff.rfl
  | string =>
    rw [reproduces_iff (v := .str (Value.int n).display) rfl rfl, Value.beq_eq_eq, Value.eq]
    exact Iff.rfl
  | float =>
    rw [counts, Option.any_eq_true]
    have number : Value.toDouble (.int n) = Value.doubleOfInt n := rfl
    have read : ofRaw .float (.int n) = (Value.toDouble (.int n)).bind fun x => .ok (.float x) := rfl
    rw [number, Value.doubleOfInt] at read
    cases double : Binary64.ofInt? n with
    | none =>
      rw [double] at read
      refine iff_of_false (not_reproduces_of_error read) ?_
      rintro ⟨x, found, -⟩
      cases found
    | some x =>
      rw [double] at read
      rw [reproduces_iff (w := .float x) read rfl]
      constructor
      · exact fun same => ⟨x, rfl, same⟩
      · rintro ⟨y, found, same⟩
        cases found
        exact same
  | boolean =>
    have read : ofRaw .boolean (.int n) = .ok (.bool (Value.int n).truthy) := rfl
    rw [reproduces_iff read (storedAs_bool _).stored, Value.int_beq_int, beq_iff_eq, counts, decide_eq_true_eq]
    by_cases zero : n = 0
    · subst zero
      decide
    · have truthy : (Value.int n).truthy = true := by simp [Value.truthy, zero]
      rw [truthy, if_pos rfl]
      omega
  | date =>
    obtain ⟨e, failed⟩ : ∃ e, ofRaw .date (.int n) = .error e := ⟨_, rfl⟩
    exact iff_of_false (not_reproduces_of_error failed) Bool.false_ne_true
  | binary =>
    obtain ⟨e, failed⟩ : ∃ e, ofRaw .binary (.int n) = .error e := ⟨_, rfl⟩
    exact iff_of_false (not_reproduces_of_error failed) Bool.false_ne_true

/-- Whatever is read can be stored, and it is missing just if what was read is. -/
theorem exists_stored_of_ofRaw (restored : c.ofRaw raw = .ok v) :
    v.isNone = raw.isNone ∧ ∃ w, c.toRaw v = .ok w := by
  cases present : raw.isNone with
  | true =>
    cases Value.isNone_iff.mp present
    cases restored
    exact ⟨rfl, .none, rfl⟩
  | false =>
    rw [ofRaw_present present] at restored
    cases c with
    | identity =>
      cases restored
      exact ⟨present, v, toRaw_identity v⟩
    | string | boolean =>
      cases restored
      exact ⟨rfl, _, rfl⟩
    | integer | float | binary =>
      obtain ⟨_, -, same⟩ := Outcome.of_bind restored
      cases same
      exact ⟨rfl, _, rfl⟩
    | date =>
      obtain ⟨timed, -, rest⟩ := Outcome.of_bind restored
      split at rest
      · cases rest
      · repeat' split at rest
        all_goals cases rest
        all_goals exact ⟨rfl, _, rfl⟩

theorem isScalar_of_toRaw (changes : c ≠ .identity) (stored : c.toRaw v = .ok raw) (present : raw.isNone = false) :
    raw.isScalar = true := by
  rw [isNone_of_toRaw stored] at present
  rw [toRaw_present present] at stored
  cases c with
  | identity => exact absurd rfl changes
  | string | boolean =>
    cases stored
    rfl
  | integer | float | binary =>
    obtain ⟨_, -, same⟩ := Outcome.of_bind stored
    cases same
    rfl
  | date =>
    cases v with
    | date d | datetime d =>
      cases stored
      rfl
    | _ => cases stored

theorem Reproduces.self (reproduces : c.Reproduces raw) : (raw == raw) = true := by
  obtain ⟨v, w, restored, stored, same⟩ := reproduces
  by_cases plain : c = .identity
  · subst plain
    cases (ofRaw_identity raw).symm.trans restored
    cases (toRaw_identity raw).symm.trans stored
    exact same
  · cases missing : w.isNone with
    | true =>
      cases Value.isNone_iff.mp missing
      rw [Value.none_beq] at same
      rw [Value.isNone_iff.mp same, Value.none_beq_none]
    | false =>
      have scalar := isScalar_of_toRaw plain stored missing
      rw [Value.beq_swap] at same
      exact Value.beq_of_beq_scalar scalar same same

end Converter

theorem Mapping.Creates.exists_get? {m : Mapping} {c : Collection} {x : Entity} {row : Row} {f : MappingField}
    (creates : m.Creates c x row) (field : f ∈ m.allFields) : ∃ raw, row.get? f.name = some raw := by
  cases left : f.unset x with
  | true =>
    obtain ⟨n, number⟩ := creates.generated f field left
    exact ⟨_, number⟩
  | false =>
    obtain ⟨raw, -, found⟩ := creates.field f field left
    exact ⟨raw, found⟩

namespace Layout

variable {l : Layout} {schema : Nat} {m : Mapping} {ref : CollectionRef} {c : Collection} {f : MappingField}
  {s : Store} {x x' : Entity} {row back : Row} {rows : List Row}

/-- What an instance has for a field once it was created is stored as its column holds it just if that value comes
    back when it is read and stored. -/
theorem Sound.stored_again (sound : l.Sound schema) (member : m ∈ l.family ref) (stores : l.Stores schema ref c)
    (creates : m.Creates c x row) (converted : c.convertRow .fromStore row = .ok back)
    (done : Mapping.refresh back m.allFields x = (x', .ok ())) (field : f ∈ m.allFields) :
    ∃ raw, f.conversion.toRaw (x'.get f.ref) = .ok raw ∧
      ((row.column f.name == raw) = true ↔ f.conversion.Reproduces (row.column f.name)) ∧
      (raw.isNone = false → raw = row.column f.name ∨ raw.isScalar = true) := by
  obtain ⟨-, -, fields⟩ := Mapping.refresh_cases done (sound.refs_distinct (mem_family.mp member).1)
  obtain ⟨raw, present⟩ := creates.exists_get? field
  obtain ⟨v, restored, there⟩ := back_of_get? stores (sound.field_mem_columns member field) converted present
  obtain ⟨missing, w, again⟩ := Converter.exists_stored_of_ofRaw restored
  rw [Row.column_of_get? present]
  rcases fields f field with ⟨unchanged, equal⟩ | ⟨-, assigned⟩
  · -- the instance has kept its own value, of which the column was stored
    have same := equal v there
    have given : f.unset x = false := by
      refine Bool.eq_false_iff.mpr fun left => ?_
      obtain ⟨n, number⟩ := creates.generated f field left
      cases present.symm.trans number
      rw [Value.isNone_iff.mp (Bool.and_eq_true_iff.mp left).2, Value.none_beq, missing] at same
      cases same
    obtain ⟨raw', stored, found⟩ := creates.field f field given
    cases present.symm.trans found
    rw [unchanged]
    refine ⟨raw, stored, ?_, fun _ => .inl rfl⟩
    have kept : f.conversion.keeps (x.get f.ref) = true := by
      by_contra lost
      rw [Bool.not_eq_true] at lost
      have differs := Converter.settled_ne lost
      obtain ⟨date, d, time, -⟩ := Converter.lost_cases lost
      rw [date, time] at stored differs
      cases stored
      rw [date, ofRaw_text] at restored
      cases restored
      rw [time, Value.beq_swap] at same
      rw [show Converter.date.settled (.datetime d) = .datetime (Iso.settled d) from rfl, same] at differs
      cases differs
    exact (Converter.reproduces_kept stored kept).symm
  · cases assigned.symm.trans there
    refine ⟨w, again, ?_, fun some => ?_⟩
    · rw [Converter.reproduces_iff restored again, Value.beq_swap]
    · by_cases plain : f.conversion = .identity
      · rw [plain, Converter.ofRaw_identity] at restored
        cases restored
        rw [plain, Converter.toRaw_identity] at again
        cases again
        exact .inl rfl
      · exact .inr (Converter.isScalar_of_toRaw plain again some)

theorem Sound.exists_rowOf (sound : l.Sound schema) (member : m ∈ l.family ref) (stores : l.Stores schema ref c)
    (each : ∀ f ∈ m.allFields, ∃ raw, f.conversion.toRaw (x.get f.ref) = .ok raw) :
    ∃ data, m.rowOf l ref.name x false = .ok data := by
  have known := (mem_family.mp member).1
  rw [Mapping.rowOf, stores.convertRow_eq (sound.each m known).schema_eq]
  refine Collection.exists_convertRow fun e inside => ?_
  have found := Assoc.get?_of_mem columnsOf_distinct (k := e.1) (v := e.2) inside
  by_cases field : ∃ f ∈ m.allFields, f.name = e.1
  · obtain ⟨f, mapped, name⟩ := field
    rw [← name, sound.get?_columnsOf_field known mapped, Bool.false_and, if_neg Bool.false_ne_true] at found
    obtain ⟨raw, stored⟩ := each f mapped
    rw [← Option.some.inj found, ← name]
    exact ⟨f.toCollectionField, raw, stores.getField (sound.field_mem_columns member mapped), stored⟩
  · by_cases value : e.1 ∈ m.values.keys
    · obtain ⟨v, given⟩ := Assoc.exists_of_mem_keys value
      obtain ⟨g, column, name, keeps, -⟩ := sound.exists_value_column member value
      rw [sound.get?_columnsOf_value known given] at found
      rw [← Option.some.inj found, ← name]
      exact ⟨g.toCollectionField, .str v, stores.getField column, Converter.toRaw_str keeps v⟩
    · rw [get?_columnsOf_other (fun f mapped name => field ⟨f, mapped, name⟩) value] at found
      cases found

/-- Whether the key that an instance is saved and removed by leads to a row, behind those in front of it. -/
def Locates (l : Layout) (ref : CollectionRef) (m : Mapping) (x : Entity) (rows before : List Row) (row : Row)
    (after : List Row) : Prop :=
  ∃ data key, m.rowOf l ref.name x false = .ok data ∧ m.keyOf data = .ok key ∧
    Store.locate ref.name rows key.toEntries = .ok (before, row, after)

/-- A row that was compared with the others before it was added is the only one with its key, if no part of that is
    missing. -/
theorem Sound.not_hasKey_of_unique (sound : l.Sound schema) (member : m ∈ l.family ref)
    (stores : l.Stores schema ref c) (unique : s.checkUnique c ref.name row rows = .ok ()) (keyed : m.keyFields ≠ [])
    (identifies : m.Identifies x) (covers : ∀ k ∈ l.keyColumns ref, k ∈ m.keyNames) (has : m.HasKey x row)
    (shape : ∀ f ∈ m.keyFields, ∀ raw, f.conversion.toRaw (x.get f.ref) = .ok raw →
      raw = row.column f.name ∨ raw.isScalar = true) :
    ∀ other ∈ rows, ¬m.HasKey x other := by
  intro other inside shares
  have columns : ∀ d ∈ c.primaryKey, ∃ f ∈ m.keyFields, f.name = d.name := fun d key =>
    List.mem_map.mp (covers d.name (stores.map_primaryKey ▸ List.mem_map_of_mem key))
  have nonempty : c.primaryKey ≠ [] := by
    obtain ⟨f, field⟩ := List.exists_mem_of_ne_nil _ keyed
    have column := sound.keyColumn_of_keyField member field
    rw [← stores.map_primaryKey] at column
    exact fun none => by simp [none] at column
  have present : ∀ d ∈ c.primaryKey, (row.column d.name).isNone = false := by
    intro d key
    obtain ⟨f, field, name⟩ := columns d key
    obtain ⟨raw, stored, same⟩ := has f field
    rw [← name]
    by_contra missing
    rw [Bool.not_eq_false, Value.isNone_iff] at missing
    rw [missing, Value.none_beq, Converter.isNone_of_toRaw stored, identifies f field] at same
    cases same
  obtain ⟨d, key, differs⟩ := Store.primaryKey_unique unique nonempty present other inside
  obtain ⟨f, field, name⟩ := columns d key
  obtain ⟨raw, stored, same⟩ := has f field
  obtain ⟨raw', stored', equal⟩ := shares f field
  cases stored.symm.trans stored'
  have both : (other.column d.name == row.column d.name) = true := by
    rw [← name]
    rcases shape f field raw stored with whole | scalar
    · rwa [← whole]
    · exact Value.beq_of_beq_scalar scalar equal same
  rw [both] at differs
  cases differs

/-- The key of an instance that was just created leads to its row just if all values of it come back, provided that
    none is missing and that the mapping has all key columns of the collection. -/
theorem Sound.locates_created (sound : l.Sound schema) (member : m ∈ l.family ref) (stores : l.Stores schema ref c)
    (creates : m.Creates c x row) (converted : c.convertRow .fromStore row = .ok back)
    (done : Mapping.refresh back m.allFields x = (x', .ok ()))
    (unique : s.checkUnique c ref.name row rows = .ok ()) (keyed : m.keyFields ≠ []) (identifies : m.Identifies x')
    (covers : ∀ k ∈ l.keyColumns ref, k ∈ m.keyNames) :
    l.Locates ref m x' (rows ++ [row]) rows row [] ↔
      ∀ f ∈ m.keyFields, f.conversion.Reproduces (row.column f.name) := by
  have known := (mem_family.mp member).1
  have again : ∀ f ∈ m.allFields, _ := fun f mapped =>
    sound.stored_again member stores creates converted done (f := f) mapped
  have has_iff : m.HasKey x' row ↔ ∀ f ∈ m.keyFields, f.conversion.Reproduces (row.column f.name) := by
    refine forall₂_congr fun f field => ?_
    obtain ⟨raw, stored, same, -⟩ := again f (List.mem_filter.mp field).1
    rw [← same, stored]
    constructor
    · rintro ⟨raw', here, equal⟩
      cases here
      exact equal
    · exact fun equal => ⟨raw, rfl, equal⟩
  rw [← has_iff]
  constructor
  · rintro ⟨data, key, written, here, located⟩
    have carried := (Store.locate_first located).2.1
    rw [(sound.keyed_cases known here).2] at carried
    exact (sound.writes_of_rowOf member stores written).hasKey_iff.mpr carried
  · intro has
    obtain ⟨data, written⟩ := sound.exists_rowOf (x := x') member stores fun f mapped => by
      obtain ⟨raw, stored, -⟩ := again f mapped
      exact ⟨raw, stored⟩
    have writes := sound.writes_of_rowOf member stores written
    have here := sound.keyOf_eq known keyed data
    obtain ⟨-, carries⟩ := sound.keyed_cases known here
    have alone := sound.not_hasKey_of_unique member stores unique keyed identifies covers has
      fun f field raw stored => by
        obtain ⟨raw', stored', -, shape⟩ := again f (List.mem_filter.mp field).1
        cases stored.symm.trans stored'
        exact shape (by rw [Converter.isNone_of_toRaw stored, identifies f field])
    refine ⟨data, _, written, here, Store.locate_middle ?_ (fun other inside => ?_) ?_⟩
    · rwa [Ne, List.map_eq_nil_iff, Mapping.keyNames, List.map_eq_nil_iff]
    · rw [carries, ← Bool.not_eq_true, ← writes.hasKey_iff]
      exact alone other inside
    · rw [carries]
      exact writes.hasKey_iff.mp has

end Layout

end ModelStore
