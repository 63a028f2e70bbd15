import ModelStore.Model
import ModelStore.Query.Basic
import ModelStore.Store.Basic
import ModelStore.Proofs.Base64
import ModelStore.Proofs.Calendar.Iso
import ModelStore.Proofs.Outcome
import ModelStore.Proofs.Value.Equality

/-!
Conversion there and back. A value of the type of an attribute has a stored form by the converter of
a field of a matching type; the stored form is not missing, equals itself, and leads back to the
value, which the attribute accepts as it is.
-/

namespace ModelStore

namespace FieldType

/-- The converter that the memory store supplies for a type. -/
def converter : FieldType → Converter
  | .string | .text => .string
  | .integer => .integer
  | .float | .double | .real => .float
  | .boolean => .boolean
  | .date => .date
  | .binary => .binary

/-- Whether values of an attribute of the type `a` are the values of the field type. -/
def suits : FieldType → AttributeType → Bool
  | .string, .str | .text, .str => true
  | .integer, .int => true
  | .float, .float | .double, .float | .real, .float => true
  | .boolean, .bool => true
  | .date, .date | .date, .datetime => true
  | .binary, .bytes => true
  | _, _ => false

end FieldType

namespace AttributeType

/-- Whether a value is one of the type itself; a `nan` equals nothing and is left out, and so is a
    time of an offset that its text does not keep. -/
def admits : AttributeType → Value → Bool
  | .int, .int _ => true
  | .float, .float x => !x.isNaN
  | .str, .str _ => true
  | .bool, .bool _ => true
  | .date, .date _ => true
  | .datetime, .datetime d => d.offset.all Iso.keepsOffset
  | .bytes, .bytes _ => true
  | _, _ => false

end AttributeType

/-- The stored form of a value: what it is, and what it leads back to. -/
structure StoredAs (c : Converter) (a : AttributeType) (v raw : Value) : Prop where
  stored : c.toRaw v = .ok raw
  present : raw.isNone = false
  self : (raw == raw) = true
  frozen : Query.freezeValue raw = raw
  restored : c.ofRaw raw = .ok v
  accepted : a.check v = Checked.ok v

variable {t : FieldType} {a : AttributeType} {v : Value}

/-- Nothing but a missing value is stored as one. -/
theorem Converter.isNone_of_toRaw {c : Converter} {v raw : Value} (stored : c.toRaw v = .ok raw) :
    raw.isNone = v.isNone := by
  have present : v.isNone = false → c.encode v = .ok raw → raw.isNone = false := by
    intro given encoded
    cases c with
    | identity =>
      cases encoded
      exact given
    | string | boolean =>
      cases encoded
      rfl
    | integer | float | binary =>
      rcases Outcome.of_bind encoded with ⟨_, -, same⟩
      cases same
      rfl
    | date =>
      cases v with
      | date d | datetime d =>
        cases encoded
        rfl
      | _ => cases encoded
  cases v with
  | none =>
    cases stored
    rfl
  | _ => exact present rfl stored

theorem str_beq_self (s : String) : (Value.str s == Value.str s) = true := by
  rw [Value.str_beq_str, beq_self_eq_true]

theorem occursIn_letter {α : Type} [BEq α] (c : α) (cs : List α) :
    Value.occursIn [c] cs = cs.any (c == ·) := by
  induction cs with
  | nil => rfl
  | cons x cs ih => simp [Value.occursIn, List.isPrefixOf, ih]

theorem isMember_letter (cs : List Char) :
    Value.isMember (.str "T") (.str (String.ofList cs)) = .ok (cs.any ('T' == ·)) := by
  have letter : "T".toList = ['T'] := rfl
  simp only [Value.isMember, Value.text?, letter, String.toList_ofList, occursIn_letter]

/-- The text of a date does not hold the letter that starts a time. -/
theorem date_text_timed (d : Date) : Value.isMember (.str "T") (.str d.text) = .ok false := by
  have padded : ∀ width n, (Text.padded width n).any ('T' == ·) = false := fun width n => by
    rw [List.any_eq_false]
    intro c member same
    have digit := List.all_eq_true.mp (Text.all_isDigit_padded width n) c member
    rw [← beq_iff_eq.mp same] at digit
    cases digit
  rw [Date.text, isMember_letter]
  simp only [Date.isoChars, List.any_append, List.any_cons, padded]
  rfl

theorem datetime_text_timed (d : DateTime) :
    Value.isMember (.str "T") (.str d.text) = .ok true := by
  rw [DateTime.text, isMember_letter]
  simp only [DateTime.isoChars, List.any_append, List.any_cons, beq_self_eq_true, Bool.true_or,
    Bool.or_true]

theorem storedAs_date (d : Date) : StoredAs .date .date (.date d) (.str d.text) := by
  refine ⟨rfl, rfl, str_beq_self _, rfl, ?_, rfl⟩
  have read : Iso.date d.text.toList = .ok d := by
    rw [Date.text, String.toList_ofList]
    exact Iso.date_isoChars d
  simp only [Converter.ofRaw, Converter.decode, Value.dateOfIso, date_text_timed, Value.text?,
    Bind.bind, Except.bind, Bool.false_eq_true, if_false, read]

/-- Every date and time is read back, its offset as far as the text keeps it. -/
theorem ofRaw_text (d : DateTime) : Converter.date.ofRaw (.str d.text) = .ok (.datetime (Iso.settled d)) := by
  have read : Iso.dateTime d.text.toList = .ok (Iso.settled d) := by
    rw [DateTime.text, String.toList_ofList]
    exact Iso.dateTime_isoChars d
  simp only [Converter.ofRaw, Converter.decode, Value.dateOfIso, datetime_text_timed, Value.text?,
    Bind.bind, Except.bind, if_true, read]

theorem storedAs_datetime {d : DateTime} (kept : d.offset.all Iso.keepsOffset = true) :
    StoredAs .date .datetime (.datetime d) (.str d.text) := by
  refine ⟨rfl, rfl, str_beq_self _, rfl, ?_, rfl⟩
  rw [ofRaw_text, Iso.settled_eq kept]

theorem storedAs_bytes (bs : List UInt8) :
    StoredAs .binary .bytes (.bytes bs) (.str (String.ofList (Base64.encode bs))) := by
  refine ⟨rfl, rfl, str_beq_self _, rfl, ?_, rfl⟩
  have ascii : (Base64.encode bs).all Text.isAscii = true := by
    rw [List.all_eq_true]
    intro c member
    exact decide_eq_true (Base64.encode_ascii bs c member)
  simp only [Converter.ofRaw, Converter.decode, Value.bytesOfBase64, Value.text?, String.toList_ofList,
    ascii, if_true, Base64.decode_encode]
  rfl

theorem storedAs_bool (b : Bool) :
    StoredAs .boolean .bool (.bool b) (.int (if b then 1 else 0)) := by
  refine ⟨rfl, rfl, by rw [Value.int_beq_int, beq_self_eq_true], rfl, ?_, rfl⟩
  cases b <;> rfl

/-- Every value of the type of an attribute is stored by the field of the attribute. -/
theorem exists_storedAs (suits : t.suits a = true) (admits : a.admits v = true) :
    ∃ raw, StoredAs t.converter a v raw := by
  cases a with
  | int =>
    have own : t.converter = .integer := by cases t <;> first | rfl | cases suits
    rw [own]
    cases v with
    | int n => exact ⟨.int n, rfl, rfl, by rw [Value.int_beq_int, beq_self_eq_true], rfl, rfl, rfl⟩
    | _ => cases admits
  | float =>
    have own : t.converter = .float := by cases t <;> first | rfl | cases suits
    rw [own]
    cases v with
    | float x =>
      have number : x.isNaN = false := by simpa [AttributeType.admits] using admits
      exact ⟨.float x, rfl, rfl, Value.float_beq_self number, rfl, rfl, rfl⟩
    | _ => cases admits
  | str =>
    have own : t.converter = .string := by cases t <;> first | rfl | cases suits
    rw [own]
    cases v with
    | str s => exact ⟨.str s, rfl, rfl, str_beq_self s, rfl, rfl, rfl⟩
    | _ => cases admits
  | bool =>
    have own : t.converter = .boolean := by cases t <;> first | rfl | cases suits
    rw [own]
    cases v with
    | bool b => exact ⟨_, storedAs_bool b⟩
    | _ => cases admits
  | date =>
    have own : t.converter = .date := by cases t <;> first | rfl | cases suits
    rw [own]
    cases v with
    | date d => exact ⟨_, storedAs_date d⟩
    | _ => cases admits
  | datetime =>
    have own : t.converter = .date := by cases t <;> first | rfl | cases suits
    rw [own]
    cases v with
    | datetime d => exact ⟨_, storedAs_datetime admits⟩
    | _ => cases admits
  | bytes =>
    have own : t.converter = .binary := by cases t <;> first | rfl | cases suits
    rw [own]
    cases v with
    | bytes bs => exact ⟨_, storedAs_bytes bs⟩
    | _ => cases admits
  | any => cases v <;> cases admits

end ModelStore
