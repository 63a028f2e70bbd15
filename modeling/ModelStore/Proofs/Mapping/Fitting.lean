import ModelStore.Proofs.Conversion
import ModelStore.Proofs.Filter.Clauses
import ModelStore.Proofs.Mapping.Fields

/-!
Models that fit their mappings, and the values that attributes hold. Such a value is stored, restored
and accepted as it is.
-/

namespace ModelStore

/-- Whether an attribute holds a value: one of its type, or none if that is allowed. -/
def Attribute.admits (a : Attribute) (v : Value) : Bool := a.type.admits v || v.isNone && a.nullable

/-- A value and its stored form, which leads back to what the attribute accepts. -/
structure Attribute.Keeps (a : Attribute) (c : Converter) (v raw : Value) : Prop where
  flat : Filter.isFlat v = true
  stored : c.toRaw v = .ok raw
  self : (raw == raw) = true
  frozen : Query.freezeValue raw = raw
  restored : c.ofRaw raw = .ok v
  accepted : a.check v = Checked.ok v

theorem AttributeType.not_admits_none (t : AttributeType) : t.admits .none = false := by
  cases t <;> rfl

theorem AttributeType.flat_of_admits {t : AttributeType} {v : Value} (typed : t.admits v = true) :
    Filter.isFlat v = true := by
  cases v with
  | dict _ | list _ | tuple _ => cases t <;> cases typed
  | _ => rfl

theorem Attribute.exists_keeps {a : Attribute} {t : FieldType} {v : Value}
    (suits : t.suits a.type = true) (admits : a.admits v = true) : ∃ raw, a.Keeps t.converter v raw := by
  rcases Bool.or_eq_true_iff.mp admits with typed | missing
  · obtain ⟨raw, kept⟩ := exists_storedAs suits typed
    refine ⟨raw, AttributeType.flat_of_admits typed, kept.stored, kept.self, kept.frozen, kept.restored, ?_⟩
    unfold Attribute.check
    split
    · have present : Check.nullable a.type.check v = Checked.ok (some v) := by
        unfold Check.nullable
        split
        · rw [AttributeType.not_admits_none] at typed
          exact (Bool.false_ne_true typed).elim
        · rw [kept.accepted]
          rfl
      rw [present]
      rfl
    · exact kept.accepted
  · obtain ⟨none, nullable⟩ := Bool.and_eq_true_iff.mp missing
    cases v with
    | none =>
      refine ⟨.none, rfl, rfl, Value.none_beq_none, rfl, rfl, ?_⟩
      rw [Attribute.check, if_pos nullable]
      rfl
    | _ => cases none

/-- The model declares exactly the attributes that are mapped along the chain, each of the type of its
    field, and the converters are those that the store supplies. -/
structure Mapping.Fits (m : Mapping) : Prop where
  distinct : (m.model.attributes.map (·.name)).Nodup
  mapped : ∀ a ∈ m.model.attributes, ∃ f ∈ m.allFields, f.ref = a.name
  declared : ∀ f ∈ m.allFields, ∃ a ∈ m.model.attributes, a.name = f.ref
  suits : ∀ a ∈ m.model.attributes, ∀ f ∈ m.allFields, f.ref = a.name → f.type.suits a.type = true
  converter : ∀ f ∈ m.allFields, f.conversion = f.type.converter
  named : ∀ f ∈ m.allFields, f.name.isEmpty = false
  plain : ∀ f ∈ m.allFields, f.ref.startsWith "$" = false
  sequence : ∀ f ∈ m.allFields, f.sequence.isPresent = true → f.type = .integer

instance (m : Mapping) : Decidable m.Fits :=
  decidable_of_iff
    ((m.model.attributes.map (·.name)).Nodup ∧
      (∀ a ∈ m.model.attributes, ∃ f ∈ m.allFields, f.ref = a.name) ∧
      (∀ f ∈ m.allFields, ∃ a ∈ m.model.attributes, a.name = f.ref) ∧
      (∀ a ∈ m.model.attributes, ∀ f ∈ m.allFields, f.ref = a.name → f.type.suits a.type = true) ∧
      (∀ f ∈ m.allFields, f.conversion = f.type.converter) ∧
      (∀ f ∈ m.allFields, f.name.isEmpty = false) ∧
      (∀ f ∈ m.allFields, f.ref.startsWith "$" = false) ∧
      ∀ f ∈ m.allFields, f.sequence.isPresent = true → f.type = .integer)
    ⟨fun ⟨distinct, mapped, declared, suits, converter, named, plain, sequence⟩ =>
      ⟨distinct, mapped, declared, suits, converter, named, plain, sequence⟩,
      fun h => ⟨h.distinct, h.mapped, h.declared, h.suits, h.converter, h.named, h.plain, h.sequence⟩⟩

/-- What of this does not depend on how the fields are named. -/
structure Mapping.Agrees (m : Mapping) : Prop where
  distinct : (m.model.attributes.map (·.name)).Nodup
  mapped : ∀ a ∈ m.model.attributes, ∃ f ∈ m.allFields, f.ref = a.name
  declared : ∀ f ∈ m.allFields, ∃ a ∈ m.model.attributes, a.name = f.ref
  suits : ∀ a ∈ m.model.attributes, ∀ f ∈ m.allFields, f.ref = a.name → f.type.suits a.type = true
  converter : ∀ f ∈ m.allFields, f.conversion = f.type.converter
  sequence : ∀ f ∈ m.allFields, f.sequence.isPresent = true → f.type = .integer

/-- Only whole numbers are generated. -/
theorem Mapping.Agrees.type_of_sequence {m : Mapping} {f : MappingField} {a : Attribute} (agrees : m.Agrees)
    (mapped : f ∈ m.allFields) (declared : a ∈ m.model.attributes) (same : f.ref = a.name)
    (generated : f.sequence.isPresent = true) : a.type = .int := by
  have suits := agrees.suits a declared f mapped same
  rw [agrees.sequence f mapped generated] at suits
  cases type : a.type <;> rw [type] at suits <;> first | rfl | cases suits

namespace Mapping.Fits

theorem agrees {m : Mapping} (fits : m.Fits) : m.Agrees :=
  ⟨fits.distinct, fits.mapped, fits.declared, fits.suits, fits.converter, fits.sequence⟩

variable {m : Mapping} {f : MappingField} {a : Attribute} {v : Value}

theorem exists_keeps (fits : m.Fits) (field : f ∈ m.allFields) (member : a ∈ m.model.attributes)
    (same : f.ref = a.name) (admits : a.admits v = true) : ∃ raw, a.Keeps f.conversion v raw := by
  rw [fits.converter f field]
  exact Attribute.exists_keeps (fits.suits a member f field same) admits

theorem admits_int (fits : m.Fits) (field : f ∈ m.allFields) (member : a ∈ m.model.attributes)
    (same : f.ref = a.name) (generated : f.sequence.isPresent = true) (n : Int) :
    a.admits (.int n) = true := by
  rw [Attribute.admits, fits.agrees.type_of_sequence field member same generated]
  rfl

end Mapping.Fits

/-- The fields of primary keys are declared at the top. -/
def Layout.KeysOnTop (l : Layout) (ref : CollectionRef) : Prop :=
  ∀ m ∈ l.family ref, m.ancestors ≠ [] → ∀ f ∈ m.fields, f.primaryKey = false

/-- The mappings of a collection, declared on one driver and one schema, tell their siblings apart, fit
    their models, and leave the primary key to the one at the top. -/
structure Layout.Hierarchy (l : Layout) (driver schema : Nat) (ref : CollectionRef) : Prop where
  declared : l.Declared driver schema
  differ : l.SiblingsDiffer ref
  fits : ∀ m ∈ l.family ref, m.Fits
  keys : l.KeysOnTop ref

end ModelStore
