import ModelStore.Proofs.Value.Transitivity

/-!
Values that equal themselves: all that can be stored, however nested, as long as no part is a `nan`.
-/

namespace ModelStore

theorem DateTime.compare?_self (d : DateTime) : d.compare? d = some .eq := by
  cases offset : d.offset with
  | none => simp [compare?, offset, Date.compare]
  | some o => simp [compare?, offset]

namespace Value

/-- Stored values without a `nan`: scalars, and containers of such values. -/
inductive Raw : Value → Prop where
  | none : Raw .none
  | text {v : Value} {s : String} (text : v.text? = some s) : Raw v
  | bool (b : Bool) : Raw (.bool b)
  | int (n : Int) : Raw (.int n)
  | float {x : Binary64} (number : x.isNaN = false) : Raw (.float x)
  | bytes (bs : List UInt8) : Raw (.bytes bs)
  | date (d : Date) : Raw (.date d)
  | datetime (d : DateTime) : Raw (.datetime d)
  | list {xs : List Value} (parts : ∀ x ∈ xs, Raw x) : Raw (.list xs)
  | tuple {xs : List Value} (parts : ∀ x ∈ xs, Raw x) : Raw (.tuple xs)
  | set {xs : List Value} (parts : ∀ x ∈ xs, Raw x) : Raw (.set xs)
  | frozenset {xs : List Value} (parts : ∀ x ∈ xs, Raw x) : Raw (.frozenset xs)
  | dict {es : List (Value × Value)} (keys : ∀ e ∈ es, Raw e.1) (values : ∀ e ∈ es, Raw e.2) : Raw (.dict es)

variable {xs : List Value}

theorem eqAll_self (parts : ∀ x ∈ xs, eq x x = true) : eqAll xs xs = true := by
  induction xs with
  | nil => rw [eqAll]
  | cons x xs ih =>
    rw [eqAll, parts x (List.mem_cons_self ..), Bool.true_and]
    exact ih fun y member => parts y (List.mem_cons_of_mem _ member)

/-- Each member of a container is found in the container itself. -/
theorem inclusions_self {α : Type} {r : α → α → Bool} {xs : List α} (parts : ∀ x ∈ xs, r x x = true) :
    (xs.length == xs.length && (xs.all fun x => xs.any (r x)) && xs.all fun y => xs.any fun x => r x y) = true := by
  have there : (xs.all fun x => xs.any (r x)) = true :=
    List.all_eq_true.mpr fun x member => List.any_eq_true.mpr ⟨x, member, parts x member⟩
  have back : (xs.all fun y => xs.any fun x => r x y) = true :=
    List.all_eq_true.mpr fun x member => List.any_eq_true.mpr ⟨x, member, parts x member⟩
  rw [beq_self_eq_true, there, back, Bool.true_and, Bool.true_and]

theorem Raw.eq_self {v : Value} (raw : v.Raw) : eq v v = true := by
  induction raw with
  | none => rw [eq]
  | @text v s text => exact (beq_of_text? text v).trans (beq_iff_eq.mpr text)
  | bool b => exact (beq_of_number? (v := .bool b) rfl (.bool b)).trans (by simp [number?, Number.compare?])
  | int n => exact (int_beq_int n n).trans (beq_self_eq_true n)
  | float number => exact float_beq_self number
  | bytes bs => rw [eq, beq_self_eq_true]
  | date d => rw [eq, beq_self_eq_true]
  | datetime d => rw [eq, DateTime.compare?_self, beq_self_eq_true]
  | list parts ih | tuple parts ih =>
    rw [eq]
    exact eqAll_self ih
  | set parts ih | frozenset parts ih =>
    rw [eq, subset_eq, anyEq_eq]
    exact inclusions_self ih
  | dict keys values keys_ih values_ih =>
    rw [eq, eqEntries_eq, anyEqEntry_eq]
    exact inclusions_self fun e member => by rw [eqEntry, keys_ih e member, values_ih e member, Bool.and_self]

/-- A value without a `nan` equals itself. -/
theorem Raw.beq_self {v : Value} (raw : v.Raw) : (v == v) = true := raw.eq_self

end Value

end ModelStore
