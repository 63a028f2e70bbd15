import ModelStore.Proofs.Filter.Accepted
import ModelStore.Proofs.Mapping.Parsing
import ModelStore.Proofs.Value.Stored

/-!
Conditions on instances and on the rows they are stored in. A comparison that suits the type of an
attribute is the same on an instance and on its row.
-/

namespace ModelStore

open Query (freezeValue)

/-- Whether an attribute holds a value: one of its type that has an exact stored form, or none if that is
    allowed. -/
def Attribute.holds (a : Attribute) (v : Value) : Bool := a.type.exact v || v.isNone && a.nullable

/-- Whether the comparison of an instance holds; what cannot be compared is not true. -/
def Entity.tells (x : Entity) : Filter.Truth := fun field o v =>
  field.text?.any fun name => match Evaluator.default.compare (.operator o) (x.get name) v with
    | .ok b => b
    | .error _ => false

/-- Whether a filter is true of an instance. -/
def Entity.satisfies (x : Entity) (filter : Value) : Bool := Filter.means x.tells .none filter

/-- Whether a comparison is one of an attribute of the model with an operand of its type. -/
def Mapping.compares (m : Mapping) : Filter.Truth := fun field o v =>
  field.text?.any fun name => m.model.attributes.any fun a => a.name == name && a.type.compares o v

/-- Whether a row holds what an instance has for the fields of a mapping. -/
def Mapping.Describes (m : Mapping) (row : Row) (x : Entity) : Prop :=
  ∀ f ∈ m.allFields, ∀ a ∈ m.model.attributes, a.name = f.ref →
    a.type.takes (x.get f.ref) = true ∧ row.column f.name = (x.get f.ref).stored

/-- An evaluator whose comparisons are the default ones, but maybe for patterns. -/
def Evaluator.Standard (e : Evaluator) : Prop :=
  ∀ o ∈ Operator.comparisons, o ≠ .regex → e.compare (.operator o) = default.compare (.operator o)

theorem Evaluator.Standard.equates {e : Evaluator} (standard : e.Standard) : e.Equates := by
  intro v w
  rw [standard .eq (by decide) (by decide)]
  exact default_equates v w

variable {a : Attribute} {t : FieldType} {v : Value} {o : Operator}

theorem Attribute.takes_of_holds (holds : a.holds v = true) : a.type.takes v = true := by
  rcases Bool.or_eq_true_iff.mp holds with exact | missing
  · exact Bool.or_eq_true_iff.mpr (.inl exact)
  · exact Bool.or_eq_true_iff.mpr (.inr (Bool.and_eq_true_iff.mp missing).1)

theorem Attribute.keeps_of_holds (suits : t.suits a.type = true) (holds : a.holds v = true) :
    a.Keeps t.converter v v.stored := by
  have admits : a.admits v = true := by
    rcases Bool.or_eq_true_iff.mp holds with exact | missing
    · exact Bool.or_eq_true_iff.mpr (.inl (AttributeType.admits_of_exact exact))
    · exact Bool.or_eq_true_iff.mpr (.inr missing)
  rcases exists_keeps suits admits with ⟨raw, kept⟩
  cases (toRaw_takes suits (takes_of_holds holds)).symm.trans kept.stored
  exact kept

theorem AttributeType.comparison_of_compares {b : AttributeType} (compares : b.compares o v = true) :
    o.isLogical = false ∧ o ∈ Operator.comparisons ∧ o ≠ .regex := by
  cases o with
  | regex | and | or | not => cases compares
  | _ => exact ⟨rfl, by decide, by decide⟩

namespace Mapping

variable {l : Layout} {schema : Nat} {m : Mapping} {field w : Value}

theorem compares_cases (fits : m.Fits) (compares : m.compares field o w = true) :
    ∃ f ∈ m.allFields, ∃ a ∈ m.model.attributes, a.name = f.ref ∧ field.text? = some f.ref ∧
      a.type.compares o w = true := by
  rcases (Option.any_eq_true ..).mp compares with ⟨name, text, found⟩
  rcases List.any_eq_true.mp found with ⟨a, declared, same⟩
  obtain ⟨named, suits⟩ := Bool.and_eq_true_iff.mp same
  rcases fits.mapped a declared with ⟨f, mapped, ref⟩
  refine ⟨f, mapped, a, declared, ref.symm, ?_, suits⟩
  rw [text, ref, beq_iff_eq.mp named]

/-- The comparison of an attribute is one of its field with the stored form of the operand. -/
theorem storedLeaf_of_compares (sound : l.Sound schema) (known : m ∈ l.mappings) (fits : m.Fits)
    (compares : m.compares field o w = true) :
    ∃ f ∈ m.allFields, ∃ a ∈ m.model.attributes, a.name = f.ref ∧ field.text? = some f.ref ∧
      a.type.compares o w = true ∧ m.storedLeaf field o w = .ok ⟨o, .str f.name, freezeValue (o.stored w)⟩ := by
  rcases compares_cases fits compares with ⟨f, mapped, a, declared, same, text, suits⟩
  have operand : Mapping.operand field f.conversion o w = .ok (o.stored w) := by
    rw [fits.converter f mapped]
    exact operand_stored (fits.suits a declared f mapped same.symm) suits field
  exact ⟨f, mapped, a, declared, same, text, suits, storedLeaf_eq sound known mapped (fits.named f mapped) text
    (AttributeType.comparison_of_compares suits).1 operand⟩

/-- A comparison is the same on a row and on the instance that it describes. -/
theorem satisfies_leaf {e : Evaluator} {row : Row} {x : Entity} {c : Comparison} (sound : l.Sound schema)
    (known : m ∈ l.mappings) (fits : m.Fits) (standard : e.Standard) (describes : m.Describes row x)
    (compares : m.compares field o w = true) (made : m.storedLeaf field o w = .ok c) :
    e.satisfies row.columnOf (.comparison c) = .ok (x.tells field o w) := by
  rcases storedLeaf_of_compares sound known fits compares with
    ⟨f, mapped, a, declared, same, text, suits, leaf⟩
  cases leaf.symm.trans made
  obtain ⟨takes, column⟩ := describes f mapped a declared same
  obtain ⟨-, listed, plain⟩ := AttributeType.comparison_of_compares suits
  obtain ⟨agree, b, told⟩ := compare_stored takes suits
  have here : row.columnOf (.str f.name) = .ok (x.get f.ref).stored := by
    rw [← column]
    rfl
  rw [Evaluator.satisfies, here, standard o listed plain, Entity.tells, text, Option.any_some, told, ← told,
    ← agree]
  rfl

/-- A filter whose comparisons suit the attributes has clauses, and a row satisfies them exactly if the
    filter is true of the instance that the row describes. -/
theorem clauses_of_compares {filter : Value} (sound : l.Sound schema) (known : m ∈ l.mappings)
    (fits : m.Fits) (suits : Filter.suits m.compares .none filter = true)
    (solid : Filter.isSolid filter = true) :
    ∃ cs, Filter.clauses m.storedLeaf .none filter = .ok cs ∧
      ∀ (e : Evaluator) (row : Row) (x : Entity), e.Standard → m.Describes row x →
        e.satisfiesAll row.columnOf cs = .ok (x.satisfies filter) := by
  have made : ∀ field o w, m.compares field o w = true → ∃ c, m.storedLeaf field o w = .ok c := by
    intro field o w compares
    rcases storedLeaf_of_compares sound known fits compares with ⟨f, -, a, -, -, -, -, leaf⟩
    exact ⟨_, leaf⟩
  rcases Filter.clauses_of_suits suits solid made with ⟨cs, found, told⟩
  refine ⟨cs, found, fun e row x standard describes => told e row.columnOf x.tells ?_⟩
  intro field o w c compares leaf
  exact satisfies_leaf sound known fits standard describes compares leaf

end Mapping

end ModelStore
