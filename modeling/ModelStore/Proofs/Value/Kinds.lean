import ModelStore.Mapping.Basic
import ModelStore.Proofs.Conversion
import ModelStore.Proofs.Evaluator

/-!
Kinds of stored values. Values of one kind can be put in order, and a converter stores values of one kind only,
apart from missing ones; so its values can be compared with each other.
-/

namespace ModelStore

/-- What a value is to the order of values. -/
inductive Kind where
  | number
  | text
  deriving DecidableEq

def Kind.admits : Kind → Value → Bool
  | .number, v => v.number?.isSome
  | .text, v => v.text?.isSome

/-- The kind of what a converter stores, if that is of one. -/
def Converter.kind? : Converter → Option Kind
  | .identity => none
  | .string | .date | .binary => some .text
  | .integer | .float | .boolean => some .number

/-- The kind of the values of a column: among texts, the numbers of a sequence make two kinds. -/
def MappingField.kind? (f : MappingField) : Option Kind :=
  f.conversion.kind?.filter fun k => !f.sequence.isPresent || k == .number

namespace Value

/-- Whether a value is missing or of a kind. -/
def Suits (k : Kind) (v : Value) : Prop := v.isNone = true ∨ k.admits v = true

variable {k : Kind} {c : Converter} {v w raw : Value}

theorem number?_of_text? {s : String} (text : v.text? = some s) : v.number? = Option.none := by
  cases v <;> first | rfl | cases text

theorem freeze_of_admits (hv : k.admits v = true) : Query.freezeValue v = v := by
  cases k <;> cases v <;> first | rfl | cases hv

theorem exists_compareScalars (hv : k.admits v = true) (hw : k.admits w = true) (r : Relation) :
    ∃ o, compareScalars r v w = .ok o := by
  cases k with
  | number =>
    obtain ⟨m, hm⟩ := Option.isSome_iff_exists.mp hv
    obtain ⟨n, hn⟩ := Option.isSome_iff_exists.mp hw
    exact ⟨m.compare? n, by simp [compareScalars, hm, hn]⟩
  | text =>
    obtain ⟨s, hs⟩ := Option.isSome_iff_exists.mp hv
    obtain ⟨t, ht⟩ := Option.isSome_iff_exists.mp hw
    exact ⟨some (compare s t), by simp [compareScalars, number?_of_text? hs, hs, ht]⟩

theorem holds_eq (hv : k.admits v = true) (r : Relation) (w : Value) :
    v.holds r w = (do return (← compareScalars r v w).any r.accepts) := by
  cases k <;> cases v <;> cases hv
  all_goals
    rw [holds]
    all_goals exact fun _ _ h => nomatch h

theorem exists_holds (hv : k.admits v = true) (hw : k.admits w = true) (r : Relation) :
    ∃ b, v.holds r w = .ok b := by
  obtain ⟨o, compared⟩ := exists_compareScalars hv hw r
  rw [holds_eq hv, compared]
  exact ⟨o.any r.accepts, rfl⟩

theorem suits_of_toRaw (kind : c.kind? = some k) (stored : c.toRaw v = .ok raw) : raw.Suits k := by
  by_cases missing : v.isNone = true
  · exact .inl ((Converter.isNone_of_toRaw stored).trans missing)
  right
  have encoded : c.encode v = .ok raw := by
    cases v with
    | none => exact (missing rfl).elim
    | _ => exact stored
  cases c with
  | identity => cases kind
  | string | boolean =>
    cases kind
    cases encoded
    rfl
  | integer | float | binary =>
    cases kind
    obtain ⟨n, -, rfl⟩ := Outcome.of_map encoded
    rfl
  | date =>
    cases kind
    cases v <;> cases encoded <;> rfl

end Value

namespace Comparator

variable {k : Kind} {v w : Value}

/-- Values of one kind are in an order relation or not, and a missing one is in none. -/
theorem exists_ordered (hv : v.Suits k) (hw : k.admits w = true) (r : Relation) : ∃ b, ordered r v w = .ok b := by
  unfold ordered
  by_cases missing : v.isNone = true
  · exact ⟨false, if_pos missing⟩
  · rw [if_neg missing]
    exact Value.exists_holds (hv.resolve_left missing) hw r

end Comparator

/-- A comparison can be made unless it searches for a pattern: a member is sought in a tuple, and an order is
    asked for of values of one kind. -/
theorem Evaluator.exists_compare {o : Operator} {v w : Value} (comparison : o ∈ Operator.comparisons)
    (plain : o ≠ .regex) (listed : o.takesList = true → ∃ vs, w = .tuple vs)
    (suits : Comparator.isOrdering o = true → ∃ k : Kind, v.Suits k ∧ k.admits w = true) :
    ∃ b, Evaluator.default.compare (.operator o) v w = .ok b := by
  cases o with
  | and | or | not => exact absurd comparison (by decide)
  | regex => exact (plain rfl).elim
  | eq | neq =>
    rw [default_compare rfl]
    exact ⟨_, rfl⟩
  | isIn | notIn =>
    obtain ⟨vs, rfl⟩ := listed rfl
    rw [default_compare rfl]
    exact ⟨_, rfl⟩
  | gt | gte | lt | lte =>
    obtain ⟨k, hv, hw⟩ := suits rfl
    rw [default_compare rfl]
    exact Comparator.exists_ordered hv hw _

end ModelStore
