import ModelStore.Mapping.Conversion
import ModelStore.Proofs.Conversion
import ModelStore.Proofs.Store.Rows

/-!
Documents there and back. Every converter reads back what it stored of the values of its logical type,
save an offset from universal time of less than a second, which the text of a time does not keep.
-/

namespace ModelStore

namespace Value

mutual

/-- Whether no part of a value is a `nan`. -/
def nanFree : Value → Bool
  | .float x => !x.isNaN
  | .list xs | .tuple xs | .set xs | .frozenset xs => nanFreeAll xs
  | .dict es => nanFreeEntries es
  | _ => true

def nanFreeAll : List Value → Bool
  | [] => true
  | x :: xs => nanFree x && nanFreeAll xs

def nanFreeEntries : List (Value × Value) → Bool
  | [] => true
  | (k, v) :: es => nanFree k && nanFree v && nanFreeEntries es

end

/-- Whether a value is no time, or one whose offset its text keeps. -/
def keepsOffset : Value → Bool
  | .datetime d => d.offset.all Iso.keepsOffset
  | _ => true

end Value

namespace Converter

/-- Whether a value is missing, or of the logical type of a converter. -/
def covers : Converter → Value → Bool
  | _, .none => true
  | .identity, v => v.nanFree
  | .string, .str _ => true
  | .integer, .int _ => true
  | .float, .float x => !x.isNaN
  | .boolean, .bool _ => true
  | .date, .date _ => true
  | .date, .datetime _ => true
  | .binary, .bytes _ => true
  | _, _ => false

/-- A value as it is read back. -/
def settled : Converter → Value → Value
  | .date, .datetime d => .datetime (Iso.settled d)
  | _, v => v

/-- Whether a value is read back as it was. -/
def keeps : Converter → Value → Bool
  | .date, v => v.keepsOffset
  | _, _ => true

variable {c : Converter} {v : Value}

theorem settled_typeName (c : Converter) (v : Value) : (c.settled v).typeName = v.typeName := by
  unfold settled
  split <;> rfl

theorem settled_eq (kept : c.keeps v = true) : c.settled v = v := by
  unfold settled
  split
  · rw [Iso.settled_eq kept]
  · rfl

/-- A time whose offset is lost is another instant. -/
theorem settled_ne (lost : c.keeps v = false) : (c.settled v == v) = false := by
  cases c with
  | date =>
    cases v with
    | datetime d =>
      change d.offset.all Iso.keepsOffset = false at lost
      change (Value.datetime (Iso.settled d) == Value.datetime d) = false
      cases zone : d.offset with
      | none =>
        rw [zone] at lost
        cases lost
      | some o =>
        rw [zone, Option.all_some] at lost
        have other : Iso.settledOffset o ≠ o := fun same => by
          rw [(Iso.settledOffset_eq_iff o).mp same] at lost
          cases lost
        have instants : (Iso.settled d).instant ≠ d.instant := by
          simp only [DateTime.instant, Iso.settled, zone, Option.map_some, Option.getD_some]
          intro same
          have local_ : (Iso.settled d).localTime = d.localTime := rfl
          simp only [Iso.settled, zone, Option.map_some] at local_
          rw [local_] at same
          omega
        have compared : (Iso.settled d).compare? d =
            some (Ord.compare (Iso.settled d).instant d.instant) := by
          simp only [DateTime.compare?, Iso.settled, zone, Option.map_some]
        rw [Value.beq_eq_eq, Value.eq, compared, beq_eq_false_iff_ne]
        exact fun same => instants (Std.LawfulEqOrd.eq_of_compare (Option.some.inj same))
    | _ => cases lost
  | _ => cases lost

/-- What a converter stores of a value of its logical type is read back. -/
theorem ofRaw_toRaw (covered : c.covers v = true) :
    ∃ raw, c.toRaw v = .ok raw ∧ c.ofRaw raw = .ok (c.settled v) := by
  cases c with
  | identity =>
    refine ⟨v, ?_, ?_⟩
    all_goals cases v <;> rfl
  | string =>
    cases v with
    | none | str _ => exact ⟨_, rfl, rfl⟩
    | _ => cases covered
  | integer =>
    cases v with
    | none | int _ => exact ⟨_, rfl, rfl⟩
    | _ => cases covered
  | float =>
    cases v with
    | none | float _ => exact ⟨_, rfl, rfl⟩
    | _ => cases covered
  | boolean =>
    cases v with
    | none => exact ⟨_, rfl, rfl⟩
    | bool b => exact ⟨_, (storedAs_bool b).stored, (storedAs_bool b).restored⟩
    | _ => cases covered
  | date =>
    cases v with
    | none => exact ⟨_, rfl, rfl⟩
    | date d => exact ⟨_, (storedAs_date d).stored, (storedAs_date d).restored⟩
    | datetime d => exact ⟨_, rfl, ofRaw_text d⟩
    | _ => cases covered
  | binary =>
    cases v with
    | none => exact ⟨_, rfl, rfl⟩
    | bytes bs => exact ⟨_, (storedAs_bytes bs).stored, (storedAs_bytes bs).restored⟩
    | _ => cases covered

end Converter

/-- Whether a converter can store a value and reads it back as it was. -/
def Converter.Restores (c : Converter) (v : Value) : Prop := c.covers v = true ∧ c.keeps v = true

theorem convertAll_back {c : Converter} {vs : List Value} (each : ∀ v ∈ vs, c.Restores v) :
    ∃ raws, convertAll .toStore c vs = .ok raws ∧ convertAll .fromStore c raws = .ok vs := by
  induction vs with
  | nil => exact ⟨[], rfl, rfl⟩
  | cons v vs ih =>
    obtain ⟨covered, kept⟩ := each v (List.mem_cons_self ..)
    obtain ⟨raw, stored, restored⟩ := Converter.ofRaw_toRaw covered
    rw [Converter.settled_eq kept] at restored
    obtain ⟨raws, stored', restored'⟩ := ih fun u member => each u (List.mem_cons_of_mem _ member)
    refine ⟨raw :: raws, ?_, ?_⟩
    · rw [convertAll, Direction.convert, stored, stored']
      rfl
    · rw [convertAll, Direction.convert, restored, restored']
      rfl

namespace Collection

variable {c : Collection}

/-- Whether the fields exist in a collection, and their values are read back as they were. -/
def Restores (c : Collection) (fs : FieldValues) : Prop :=
  ∀ e ∈ fs, ∃ f, c.getField (.str e.1) = .ok f ∧ ∀ v ∈ e.2, f.converter.Restores v

theorem convertFields_back {fs : FieldValues} (each : c.Restores fs) :
    ∃ raws, c.convertFields .toStore (FieldValues.toValue fs).entryList = .ok raws ∧
      c.convertFields .fromStore (FieldValues.toValue raws).entryList = .ok fs := by
  induction fs with
  | nil => exact ⟨[], rfl, rfl⟩
  | cons e fs ih =>
    obtain ⟨k, vs⟩ := e
    obtain ⟨f, found, values⟩ := each (k, vs) (List.mem_cons_self ..)
    obtain ⟨raws, stored, restored⟩ := convertAll_back values
    obtain ⟨rest, stored', restored'⟩ := ih fun g member => each g (List.mem_cons_of_mem _ member)
    have name := name_of_getField found
    change c.convertFields .toStore (fs.map fun e => (.str e.1, .list e.2)) = _ at stored'
    change c.convertFields .fromStore (rest.map fun e => (.str e.1, .list e.2)) = _ at restored'
    have items : ∀ us, (Value.list us).items = .ok us := fun _ => rfl
    refine ⟨(k, raws) :: rest, ?_, ?_⟩
    · change c.convertFields .toStore ((.str k, .list vs) :: fs.map fun e => (.str e.1, .list e.2)) = _
      simp only [convertFields, found, items, stored, stored', name, Bind.bind, Except.bind, Pure.pure,
        Except.pure, Error.ofFault]
    · change c.convertFields .fromStore ((.str k, .list raws) :: rest.map fun e => (.str e.1, .list e.2)) = _
      simp only [convertFields, found, items, restored, restored', name, Bind.bind, Except.bind,
        Pure.pure, Except.pure, Error.ofFault]

end Collection

namespace Layout

variable {l : Layout} {schema : Nat}

/-- Whether the collections of a document exist in a schema, and all that they hold is read back as it was. -/
def Restores (l : Layout) (schema : Nat) (d : Document) : Prop :=
  ∀ e ∈ d, ∃ c, (l.schema schema).get (.str e.1) = .ok c ∧ (l.collections.get c).Restores e.2

theorem name_of_get {s : Schema} {k : String} {c : CollectionRef} (found : s.get (.str k) = .ok c) :
    c.name = k := by
  simp only [Schema.get, Collection.lookup, Value.unhashable?, Value.text?, Option.bind_some] at found
  cases sought : s.find? k with
  | none =>
    rw [sought] at found
    cases found
  | some c' =>
    rw [sought] at found
    cases found
    exact beq_iff_eq.mp (List.find?_some (p := fun m : CollectionRef => m.name == k) sought)

theorem convert_back {d : Document} (each : l.Restores schema d) :
    ∃ raws, l.convert schema .toStore d.toValue.entryList = .ok raws ∧
      l.convert schema .fromStore (Document.toValue raws).entryList = .ok d := by
  induction d with
  | nil => exact ⟨[], rfl, rfl⟩
  | cons e d ih =>
    obtain ⟨k, fs⟩ := e
    obtain ⟨c, found, fields⟩ := each (k, fs) (List.mem_cons_self ..)
    obtain ⟨raws, stored, restored⟩ := Collection.convertFields_back fields
    obtain ⟨rest, stored', restored'⟩ := ih fun g member => each g (List.mem_cons_of_mem _ member)
    have name := name_of_get found
    change l.convert schema .toStore (d.map fun e => (.str e.1, FieldValues.toValue e.2)) = _ at stored'
    change l.convert schema .fromStore (rest.map fun e => (.str e.1, FieldValues.toValue e.2)) = _ at restored'
    refine ⟨(k, raws) :: rest, ?_, ?_⟩
    · change l.convert schema .toStore
        ((.str k, FieldValues.toValue fs) :: d.map fun e => (.str e.1, FieldValues.toValue e.2)) = _
      simp only [convert, found, stored, stored', name, Bind.bind, Except.bind, Pure.pure, Except.pure]
    · change l.convert schema .fromStore
        ((.str k, FieldValues.toValue raws) :: rest.map fun e => (.str e.1, FieldValues.toValue e.2)) = _
      simp only [convert, found, restored, restored', name, Bind.bind, Except.bind, Pure.pure, Except.pure]

/-- What is stored is read back, as a value of the same type: as it was, unless it is a time whose offset is
    lost, which becomes another instant. So documents of what is read back as it was come back the same. -/
theorem reads_back (c : Converter) (v : Value) (l : Layout) (schema : Nat) (d : Document) :
    (c.covers v = true → ∃ raw w, c.toRaw v = .ok raw ∧ c.ofRaw raw = .ok w ∧ w.typeName = v.typeName ∧
      (c.keeps v = true → w = v) ∧ (c.keeps v = false → (w == v) = false)) ∧
    (l.Restores schema d → ∃ raws, l.convert schema .toStore d.toValue.entryList = .ok raws ∧
      l.convert schema .fromStore (Document.toValue raws).entryList = .ok d) := by
  refine ⟨fun covered => ?_, convert_back⟩
  obtain ⟨raw, stored, restored⟩ := Converter.ofRaw_toRaw covered
  exact ⟨raw, c.settled v, stored, restored, Converter.settled_typeName c v, Converter.settled_eq,
    Converter.settled_ne⟩

end Layout

namespace Gallery

/-- The third of March, about an hour and a half after midnight. -/
def opening (offset : Option Int) (bound : ∀ o ∈ offset, o.natAbs < 86400000000) : DateTime :=
  ⟨⟨2023, 3, 3, by decide, by decide, by decide, by decide, by decide, by decide⟩, 1, 30, 15, 7, offset,
    by decide, by decide, by decide, by decide, bound⟩

theorem no_offset : ∀ o ∈ (none : Option Int), o.natAbs < 86400000000 := by simp

def pictures : CollectionRef := ⟨0, "pictures"⟩

def shown : CollectionField := ⟨"shown", .date, "TIMESTAMP", .date, false, .absent⟩

def image : CollectionField := ⟨"image", .binary, "BLOB", .binary, false, .absent⟩

def layout : Layout where
  schemas := [⟨[pictures]⟩]
  collections := [{ name := "pictures", fields := [shown, image] }]

/-- An image, and when it is shown: by day, at midnight, and at a time of India. -/
def document : Document :=
  [("pictures",
    [("image", [.bytes [255, 0], .none]),
     ("shown", [.date (opening none no_offset).date, .datetime (DateTime.midnight (opening none no_offset).date),
        .datetime (opening (some 19800000000) (by simp))])])]

theorem restores : layout.Restores 0 document := by
  refine List.forall_mem_singleton.mpr ⟨pictures, rfl, List.forall_mem_cons.mpr ⟨⟨image, rfl, ?_⟩, ?_⟩⟩
  · exact List.forall_mem_cons.mpr ⟨⟨rfl, rfl⟩, List.forall_mem_singleton.mpr ⟨rfl, rfl⟩⟩
  · refine List.forall_mem_singleton.mpr ⟨shown, rfl, ?_⟩
    exact List.forall_mem_cons.mpr ⟨⟨rfl, rfl⟩,
      List.forall_mem_cons.mpr ⟨⟨rfl, rfl⟩, List.forall_mem_singleton.mpr ⟨rfl, rfl⟩⟩⟩

end Gallery

open Gallery in
theorem Layout.reads_back_gallery :
    (∃ raw w, Converter.date.toRaw (.datetime (opening (some (-5400000000)) (by simp))) = .ok raw ∧
      Converter.date.ofRaw raw = .ok w ∧ w = .datetime (opening (some (-5400000000)) (by simp))) ∧
    ∃ raws, layout.convert 0 .toStore document.toValue.entryList = .ok raws ∧
      layout.convert 0 .fromStore (Document.toValue raws).entryList = .ok document := by
  obtain ⟨value, document_⟩ :=
    Layout.reads_back .date (.datetime (opening (some (-5400000000)) (by simp))) layout 0 document
  refine ⟨?_, document_ restores⟩
  obtain ⟨raw, w, stored, restored, -, same, -⟩ := value rfl
  exact ⟨raw, w, stored, restored, same rfl⟩

open Gallery in
/-- An offset of half a second is stored, but not read back. -/
theorem Layout.not_reads_back :
    Converter.date.covers (.datetime (opening (some 500000) (by simp))) = true ∧
      ¬∃ raw w, Converter.date.toRaw (.datetime (opening (some 500000) (by simp))) = .ok raw ∧
        Converter.date.ofRaw raw = .ok w ∧ (w == .datetime (opening (some 500000) (by simp))) = true := by
  refine ⟨rfl, ?_⟩
  rintro ⟨raw, w, stored, restored, same⟩
  cases stored
  rw [ofRaw_text] at restored
  cases restored
  have lost := Converter.settled_ne (c := .date) (v := .datetime (opening (some 500000) (by simp))) rfl
  exact Bool.false_ne_true (lost.symm.trans same)

end ModelStore
