import Mathlib
import ModelStore.Value.Equality

/-! Equality of values of one sort is equality of what they hold. -/

namespace ModelStore

theorem Binary64.compare?_self {x : Binary64} (number : x.isNaN = false) :
    x.compare? x = some .eq := by
  cases x with
  | nan => cases number
  | infinity a => cases a <;> rfl
  | finite a units => simp [compare?]

namespace Value

theorem beq_eq_eq (v w : Value) : (v == w) = eq v w := rfl

theorem isNone_iff {v : Value} : v.isNone = true ↔ v = .none := by
  cases v <;> simp [isNone]

theorem none_beq_none : (Value.none == Value.none) = true := by
  rw [beq_eq_eq, eq]

theorem str_beq_str (s t : String) : (Value.str s == Value.str t) = (s == t) := by
  have symmetric : (t == s) = (s == t) := Bool.beq_comm
  rw [beq_eq_eq, eq, text?]
  simp [symmetric]

theorem none_beq_int (n : Int) : (Value.none == Value.int n) = false := by
  rw [beq_eq_eq]
  simp [eq]

theorem str_beq_none (s : String) : (Value.str s == Value.none) = false := by
  rw [beq_eq_eq, eq]
  rfl

theorem str_beq_unique {s t : String} {v : Value} (first : (Value.str s == v) = true)
    (second : (Value.str t == v) = true) : s = t := by
  rw [beq_eq_eq, eq, beq_iff_eq] at first second
  exact Option.some.inj (first.symm.trans second)

theorem int_beq_int (m n : Int) : (Value.int m == Value.int n) = (m == n) := by
  rw [beq_eq_eq, eq]
  simp only [number?, Option.any_some, Number.compare?]
  by_cases same : m = n
  · simp [same]
  · have order : compare m n ≠ .eq := fun h => same (Std.LawfulEqOrd.eq_of_compare h)
    rw [beq_eq_false_iff_ne.mpr same, beq_eq_false_iff_ne]
    exact fun h => order (Option.some.inj h)

theorem float_beq_self {x : Binary64} (number : x.isNaN = false) :
    (Value.float x == Value.float x) = true := by
  rw [beq_eq_eq, eq]
  simp only [number?, Option.any_some, Number.compare?, Binary64.compare?_self number, beq_self_eq_true]

end Value

end ModelStore
