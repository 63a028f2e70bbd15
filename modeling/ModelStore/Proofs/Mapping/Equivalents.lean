import ModelStore.Proofs.Filter.Disjunction
import ModelStore.Proofs.Mapping.Keys
import ModelStore.Proofs.Mapping.Options
import ModelStore.Proofs.Mapping.Reporting
import ModelStore.Proofs.Value.Symmetry

/-!
Filters that ask for the same in other words. They may be read into the same clauses, or into other ones that are as
true of every row; a search then comes to the same rows, or it fails in the same way.
-/

namespace ModelStore

open Query (freezeValue)

variable {e : Evaluator} {m : Mapping} {f : MappingField} {name : String} {v w r : Value} {vs : List Value}
  {o : Operator}

/-- Whether some operators compare as they do by default. -/
def Evaluator.Keeps (e : Evaluator) (os : List Operator) : Prop :=
  ∀ o ∈ os, e.compare (.operator o) = default.compare (.operator o)

theorem Evaluator.Keeps.notIn (keeps : e.Keeps [.isIn, .notIn]) (a b : Value) :
    e.compare (.operator .notIn) a b = (!·) <$> e.compare (.operator .isIn) a b := by
  rw [keeps .notIn (by simp), keeps .isIn (by simp), default_compare rfl, default_compare rfl]
  rfl

theorem Evaluator.Keeps.neq (keeps : e.Keeps [.eq, .neq]) (a b : Value) :
    e.compare (.operator .neq) a b = (!·) <$> e.compare (.operator .eq) a b := by
  rw [keeps .neq (by simp), keeps .eq (by simp), default_compare rfl, default_compare rfl]
  rfl

namespace Filter

variable {leaf : Leaf}

/-- A filter with one entry. -/
def one (k : String) (v : Value) : Value := .dict [(.str k, v)]

section Column

variable {n : String} {o' : Operator} {raw : Value → Value}

end Column

end Filter

namespace Store

variable {s : Store} {cs : Catalog} {c d : Clause} {rows : List Row}

end Store

namespace Mapping

open ModelStore.Filter (one)

variable {schema : Nat} {ref : CollectionRef} {s : Store} {cs : Catalog} {options : Value} {a b : Value}

section Column

variable (found : m.fieldByRef (.str name) = .ok f)

include found

variable {t : String} {raw : Value → Value} (converted : ∀ v ∈ vs, f.conversion.toRaw v = .ok (raw v))

include converted

variable (key : Filter.role (.str name) = .field)

include key

end Column

end Mapping

end ModelStore
