import ModelStore.Proofs.Filter.Comparisons
import ModelStore.Proofs.Mapping.Parsing

/-!
What a mapping reports about the values in a filter. A value that its field cannot store is reported as invalid
input under the attribute, unless it is a number beyond the range of the stored form.
-/

namespace ModelStore

/-! Which faults the converters have. -/

namespace Converter

/-- The fault of a number beyond the range of the stored form: an infinity as an integer, an integer that exceeds
    all doubles, and a count of bytes that cannot be addressed. -/
def excess? : Converter → Value → Option Fault
  | .integer, .float (.infinity _) => some .infiniteInteger
  | .float, .int n => (Binary64.ofInt? n).elim (some .floatOverflow) fun _ => none
  | .binary, .int n =>
    if n < -9223372036854775808 ∨ 9223372036854775808 ≤ n then some .countSize
    else if 9223372036854775808 - 33 ≤ n then some .countRange
    else if 140737488355328 ≤ n then some .countMemory
    else none
  | _, _ => none

end Converter

namespace Value

variable {v shown : Value} {cs : List Char} {n : Int} {f : Fault}

theorem integerOfChars_error (failed : integerOfChars shown cs = .error f) : f.isTypeOrValue = true := by
  unfold integerOfChars at failed
  split at failed <;> cases failed <;> rfl

theorem doubleOfChars_error (failed : doubleOfChars shown cs = .error f) : f.isTypeOrValue = true := by
  unfold doubleOfChars at failed
  split at failed <;> cases failed
  rfl

theorem toInteger_error :
    v.toInteger = .error f → f.isTypeOrValue = true ∨ Converter.integer.excess? v = some f := by
  intro failed
  cases v with
  | bool _ | int _ => cases failed
  | float x =>
    cases x with
    | finite negative units => cases failed
    | nan =>
      cases failed
      exact .inl rfl
    | infinity negative =>
      cases failed
      exact .inr rfl
  | bytes _ | str _ | operator _ | fieldType _ | sortOrder _ => exact .inl (integerOfChars_error failed)
  | _ =>
    cases failed
    exact .inl rfl

theorem doubleOfInt_error : doubleOfInt n = .error f ↔ Converter.float.excess? (.int n) = some f := by
  have excess : Converter.float.excess? (.int n) =
      (Binary64.ofInt? n).elim (some .floatOverflow) fun _ => Option.none := by
    unfold Converter.excess?
    with_reducible rfl
  rw [excess]
  unfold doubleOfInt
  generalize Binary64.ofInt? n = x
  cases x <;> simp

theorem toDouble_error :
    v.toDouble = .error f → f.isTypeOrValue = true ∨ Converter.float.excess? v = some f := by
  intro failed
  cases v with
  | float _ => cases failed
  | int n => exact .inr (doubleOfInt_error.mp failed)
  | bool b =>
    have small : (doubleOfInt (if b then 1 else 0)).toBool = true := by cases b <;> decide +kernel
    unfold toDouble at failed
    dsimp only at failed
    rw [failed] at small
    cases small
  | bytes _ | str _ | operator _ | fieldType _ | sortOrder _ => exact .inl (doubleOfChars_error failed)
  | _ =>
    cases failed
    exact .inl rfl

theorem toByte_error (failed : v.toByte = .error f) : f.isTypeOrValue = true := by
  have range : ∀ n : Int, (if 0 ≤ n ∧ n < 256 then .ok (UInt8.ofNat n.toNat) else .error .byteRange) =
      (.error f : Except Fault UInt8) → f.isTypeOrValue = true := by
    intro n failed
    split at failed <;> cases failed
    rfl
  cases v with
  | bool b => exact range _ failed
  | int n => exact range _ failed
  | _ =>
    cases failed
    rfl

theorem zeros_error (failed : zeros n = .error f) :
    f.isTypeOrValue = true ∨ Converter.binary.excess? (.int n) = some f := by
  have negative : f = .negativeCount ∨ Converter.binary.excess? (.int n) = some f := by
    simp only [Converter.excess?]
    unfold zeros at failed
    grind
  refine negative.imp_left ?_
  rintro rfl
  rfl

theorem zeros_of_excess (excess : Converter.binary.excess? (.int n) = some f) : zeros n = .error f := by
  simp only [Converter.excess?] at excess
  unfold zeros
  grind

theorem toBytes_error :
    v.toBytes = .error f → f.isTypeOrValue = true ∨ Converter.binary.excess? v = some f := by
  have elements : ∀ xs : List Value, xs.mapM toByte = .error f → f.isTypeOrValue = true := by
    intro xs failed
    obtain ⟨x, -, failed⟩ := Outcome.error_of_mapM failed
    exact toByte_error failed
  intro failed
  cases v with
  | bytes _ | bool _ => cases failed
  | int n => exact zeros_error failed
  | list xs | tuple xs | set xs | frozenset xs | dict xs | record xs => exact .inl (elements _ failed)
  | _ =>
    cases failed
    exact .inl rfl

end Value

namespace Converter

variable {c : Converter} {v : Value} {f : Fault}

/-- A value that is refused has a fault of type or value, or is a number beyond the range. -/
theorem toRaw_error (failed : c.toRaw v = .error f) : f.isTypeOrValue = true ∨ c.excess? v = some f := by
  have encoded : c.encode v = .error f := by
    cases v with
    | none => cases failed
    | _ => exact failed
  cases c with
  | identity | string | boolean => cases encoded
  | integer => exact Value.toInteger_error (Outcome.error_of_map encoded)
  | float => exact Value.toDouble_error (Outcome.error_of_map encoded)
  | binary => exact Value.toBytes_error (Outcome.error_of_map encoded)
  | date =>
    cases v with
    | date _ | datetime _ => cases encoded
    | _ =>
      cases encoded
      exact .inl rfl

/-- That is no fault of type or value. -/
theorem isTypeOrValue_of_excess (excess : c.excess? v = some f) : f.isTypeOrValue = false := by
  unfold excess? at excess
  split at excess
  · cases excess
    rfl
  · rename_i n
    generalize Binary64.ofInt? n = x at excess
    cases x with
    | none =>
      cases excess
      rfl
    | some x => cases excess
  · repeat' split at excess
    all_goals cases excess
    all_goals rfl
  · cases excess

theorem toRaw_of_excess (excess : c.excess? v = some f) : c.toRaw v = .error f := by
  cases c with
  | integer =>
    cases v with
    | float x =>
      cases x <;> cases excess
      rfl
    | _ => cases excess
  | float =>
    cases v with
    | int n =>
      have failed := Value.doubleOfInt_error.mpr excess
      simp only [toRaw, encode, Value.toDouble, failed]
      rfl
    | _ => cases excess
  | binary =>
    cases v with
    | int n =>
      have failed := Value.zeros_of_excess excess
      simp only [toRaw, encode, Value.toBytes, failed]
      rfl
    | _ => cases excess
  | identity | string | boolean | date => cases v <;> cases excess

end Converter

/-! Which errors the comparisons have. -/

/-- An error of the store that tells of invalid input or of an unknown attribute. -/
def Error.Reported (e : Error) : Prop := "ValidationError" ∈ e.lineage ∨ "FieldNotFoundError" ∈ e.lineage

namespace Mapping

/-- The values that a comparison converts: each member of a list, and nothing of a pattern. -/
def converted (o : Operator) (v : Value) : List Value :=
  if o.takesList then
    match v with
    | .list vs | .tuple vs | .set vs | .frozenset vs => vs
    | _ => []
  else if o == .regex then [] else [v]

/-- A comparison of an attribute with a number beyond the range of its stored form. -/
def Exceeds (m : Mapping) (key : Value) (o : Operator) (v : Value) (f : Fault) : Prop :=
  ∃ field, m.fieldByRef key = .ok field ∧ ∃ u ∈ converted o v, field.conversion.excess? u = some f

variable {m : Mapping} {key v raw : Value} {vs : List Value} {c : Converter} {o : Operator} {e : Error} {f : Fault}

theorem convertAll_eq : convertAll .toStore c vs = vs.mapM c.toRaw := by
  induction vs with
  | nil => rfl
  | cons v vs ih =>
    rw [convertAll, ih, List.mapM_cons]
    rfl

/-- An operand is made of its values once all of them are converted, unless it is no list where it has to be. -/
theorem operand_cases (key : Value) (c : Converter) (o : Operator) (v : Value) :
    (∃ issues, operand key c o v = .error (.validation issues) ∧ converted o v = []) ∨
    ∃ whole : List Value → Value, operand key c o v = whole <$> Error.ofFault ((converted o v).mapM c.toRaw) := by
  unfold operand converted
  split
  · cases v with
    | list vs | tuple vs | set vs | frozenset vs =>
      refine .inr ⟨.list, ?_⟩
      dsimp only
      rw [convertAll_eq]
    | _ => exact .inl ⟨_, rfl, rfl⟩
  · split
    · exact .inr ⟨fun _ => v, rfl⟩
    · refine .inr ⟨fun raws => raws.headD .none, ?_⟩
      rw [List.mapM_cons]
      cases c.toRaw v <;> rfl

/-- An operand that cannot be stored is reported, unless a value of it is beyond the range. -/
theorem reportedUnder_error (failed : reportedUnder key (operand key c o v) = .error e) :
    e.Reported ∨ ∃ f, (∃ u ∈ converted o v, c.excess? u = some f) ∧ e = .fault f := by
  obtain ⟨issues, made, -⟩ | ⟨whole, made⟩ := operand_cases key c o v
  · rw [made] at failed
    cases failed
    exact .inl (.inl (List.mem_cons_self ..))
  · rw [made] at failed
    cases all : (converted o v).mapM c.toRaw with
    | ok raws =>
      rw [all] at failed
      cases failed
    | error f =>
      obtain ⟨u, member, refused⟩ := Outcome.error_of_mapM all
      have outcome : whole <$> Error.ofFault (.error f) = .error (.fault f) := rfl
      rw [all, outcome, reportedUnder] at failed
      rcases Converter.toRaw_error refused with plain | excess
      · rw [if_pos plain] at failed
        cases failed
        exact .inl (.inl (List.mem_cons_self ..))
      · split at failed <;> cases failed
        · exact .inl (.inl (List.mem_cons_self ..))
        · exact .inr ⟨f, ⟨u, member, excess⟩, rfl⟩

theorem excess_of_reportedUnder (made : reportedUnder key (operand key c o v) = .ok raw) :
    ∀ u ∈ converted o v, c.excess? u = none := by
  intro u member
  cases excess : c.excess? u with
  | none => rfl
  | some f =>
    have refused := Converter.toRaw_of_excess excess
    obtain ⟨issues, -, empty⟩ | ⟨whole, stored⟩ := operand_cases key c o v
    · rw [empty] at member
      cases member
    · rw [stored] at made
      cases all : (converted o v).mapM c.toRaw with
      | ok raws =>
        obtain ⟨raw, converted⟩ := Outcome.ok_of_mapM all u member
        cases refused.symm.trans converted
      | error f' =>
        rw [all] at made
        have outcome : whole <$> Error.ofFault (.error f') = .error (.fault f') := rfl
        rw [outcome, reportedUnder] at made
        split at made <;> cases made

/-- An attribute that is not there is reported as such. -/
theorem fieldByRef_error (text : key.text?.isSome = true) (failed : m.fieldByRef key = .error e) : e.Reported := by
  have unknown : Error.Reported (.missing .field key (some m.name) m.known.keys) := by
    cases key with
    | str _ | operator _ | fieldType _ | sortOrder _ => exact .inr (List.mem_cons_self ..)
    | _ => cases text
  have hashable : key.unhashable? = none := by
    cases key with
    | str _ | operator _ | fieldType _ | sortOrder _ => rfl
    | _ => cases text
  unfold fieldByRef Collection.lookup at failed
  rw [hashable] at failed
  cases found : key.text?.bind m.known.get? with
  | some field =>
    rw [found] at failed
    cases failed
  | none =>
    rw [found] at failed
    cases failed
    exact unknown

theorem plainLeaf_error (failed : Filter.plainLeaf key o v = .error e) : e.Reported := by
  have invalid : "ValidationError" ∈ (Error.unknownOperator (Value.operator o).plainDisplay
      Query.comparisonNames).lineage := by simp [Error.lineage]
  unfold Filter.plainLeaf Query.comparisonOperator at failed
  repeat' split at failed
  all_goals cases failed
  · exact .inl invalid
  · exact .inl invalid
  · exact .inl (List.mem_cons_self ..)

/-- A comparison of an attribute fails with a report, unless a number in it is beyond the range. -/
theorem storedLeaf_error (text : key.text?.isSome = true) (failed : m.storedLeaf key o v = .error e) :
    e.Reported ∨ ∃ f, m.Exceeds key o v f ∧ e = .fault f := by
  unfold storedLeaf at failed
  cases found : m.fieldByRef key with
  | error e' =>
    rw [found] at failed
    cases failed
    exact .inl (fieldByRef_error text found)
  | ok field =>
    rw [found] at failed
    cases stored : reportedUnder key (operand key field.conversion o v) with
    | error e' =>
      simp only [Bind.bind, Except.bind, stored] at failed
      cases failed
      exact (reportedUnder_error stored).imp_right fun ⟨f, excess, same⟩ => ⟨f, ⟨field, found, excess⟩, same⟩
    | ok raw =>
      simp only [Bind.bind, Except.bind, stored] at failed
      exact .inl (plainLeaf_error failed)

theorem not_exceeds_of_storedLeaf {made : Comparison} (done : m.storedLeaf key o v = .ok made) :
    ¬m.Exceeds key o v f := by
  rintro ⟨field, found, u, member, excess⟩
  obtain ⟨field', found', rest⟩ := Outcome.of_bind done
  cases found.symm.trans found'
  obtain ⟨raw, stored, -⟩ := Outcome.of_bind rest
  cases excess.symm.trans (excess_of_reportedUnder stored u member)

/-- The fault of a number beyond the range is not reported under the attribute. -/
theorem storedLeaf_of_excess {field : MappingField} (found : m.fieldByRef key = .ok field)
    (single : o.takesList = false) (plain : (o == .regex) = false) (excess : field.conversion.excess? v = some f) :
    m.storedLeaf key o v = .error (.fault f) := by
  have stored : operand key field.conversion o v = .error (.fault f) := by
    rw [operand_single single plain, Converter.toRaw_of_excess excess]
    rfl
  have kept : reportedUnder key (.error (.fault f) : Except Error Value) = .error (.fault f) := by
    rw [reportedUnder, Converter.isTypeOrValue_of_excess excess]
    rfl
  simp only [storedLeaf, found, stored, kept, Bind.bind, Except.bind]

end Mapping

end ModelStore
