import ModelStore.Proofs.Value.Symmetry

/-!
Values that equal one and the same scalar equal each other: texts by their characters, and numbers of all
kinds by their place on the number line.
-/

namespace ModelStore

namespace Number

/-- Where a number is: an end of the line, or so many units from zero. -/
def place : Number → Option (Bool ⊕ Int)
  | .whole n => some (.inr (n * Binary64.one))
  | .double .nan => none
  | .double (.infinity negative) => some (.inl negative)
  | .double (.finite negative units) => some (.inr (Binary64.signed negative units))

theorem one_ne_zero : (Binary64.one : Int) ≠ 0 := by
  delta Binary64.one
  generalize 1074 = k
  exact Int.natCast_ne_zero.mpr (Nat.ne_of_gt (Nat.two_pow_pos k))

theorem exists_place {α : Type} {x y : α} : (∃ p, some x = some p ∧ some y = some p) ↔ x = y :=
  ⟨fun ⟨_, first, second⟩ => Option.some.inj (first.trans second.symm), fun same => ⟨y, by rw [same], rfl⟩⟩

theorem compare_beq_iff (a b : Int) : some (Ord.compare a b) = some Ordering.eq ↔ a = b := by
  rw [Option.some_inj, Int.compare_eq_eq]

theorem compareInt?_eq_iff (x : Binary64) (n : Int) :
    x.compareInt? n = some .eq ↔ ∃ p, (Number.double x).place = some p ∧ (Number.whole n).place = some p := by
  cases x with
  | nan => exact iff_of_false (fun same => nomatch same) fun ⟨_, absent, _⟩ => nomatch absent
  | infinity a =>
    refine iff_of_false (fun same => ?_) fun ⟨_, first, second⟩ => nomatch first.trans second.symm
    cases a <;> cases same
  | finite a t =>
    change some (Ord.compare (Binary64.signed a t) (n * Binary64.one)) = some Ordering.eq ↔
      ∃ p, some (Sum.inr (Binary64.signed a t)) = some p ∧ some (Sum.inr (n * (Binary64.one : Int))) = some p
    rw [compare_beq_iff, exists_place, Sum.inr.injEq]

theorem compare?_eq_iff (m n : Number) : m.compare? n = some .eq ↔ ∃ p, m.place = some p ∧ n.place = some p := by
  cases m with
  | whole a =>
    cases n with
    | whole b =>
      change some (Ord.compare a b) = some Ordering.eq ↔ ∃ p, some (Sum.inr (a * (Binary64.one : Int))) = some p ∧
        some (Sum.inr (b * (Binary64.one : Int))) = some p
      rw [compare_beq_iff, exists_place, Sum.inr.injEq, mul_left_inj' one_ne_zero]
    | double y =>
      have swapped := compareInt?_eq_iff y a
      change (y.compareInt? a).map Ordering.swap = some .eq ↔ _
      rw [exists_congr fun p => and_comm, ← swapped]
      cases y.compareInt? a with
      | none => rfl
      | some o => cases o <;> decide
  | double x =>
    cases n with
    | whole b => exact compareInt?_eq_iff x b
    | double y =>
      change x.compare? y = some .eq ↔ _
      cases x with
      | nan => exact iff_of_false (by cases y <;> nofun) fun ⟨_, absent, _⟩ => nomatch absent
      | infinity a =>
        cases y with
        | nan => exact iff_of_false nofun fun ⟨_, _, absent⟩ => nomatch absent
        | infinity b =>
          change some (Ord.compare (Binary64.signed a 1) (Binary64.signed b 1)) = some Ordering.eq ↔
            ∃ p, some (Sum.inl a : Bool ⊕ Int) = some p ∧ some (Sum.inl b) = some p
          rw [exists_place]
          cases a <;> cases b <;> decide
        | finite b u =>
          refine iff_of_false (fun same => ?_) fun ⟨_, first, second⟩ => nomatch first.trans second.symm
          cases a <;> cases same
      | finite a t =>
        cases y with
        | nan => exact iff_of_false nofun fun ⟨_, _, absent⟩ => nomatch absent
        | infinity b =>
          refine iff_of_false (fun same => ?_) fun ⟨_, first, second⟩ => nomatch first.trans second.symm
          cases b <;> cases same
        | finite b u =>
          change some (Ord.compare (Binary64.signed a t) (Binary64.signed b u)) = some Ordering.eq ↔
            ∃ p, some (Sum.inr (Binary64.signed a t) : Bool ⊕ Int) = some p ∧
              some (Sum.inr (Binary64.signed b u)) = some p
          rw [compare_beq_iff, exists_place, Sum.inr.injEq]

end Number

namespace Value

/-- A text, or a number. -/
def isScalar (v : Value) : Bool := v.text?.isSome || v.number?.isSome

variable {v w r : Value} {s : String} {n : Number}

theorem beq_of_text? (text : v.text? = some s) (w : Value) : (v == w) = (w.text? == some s) := by
  rw [beq_eq_eq]
  cases v with
  | str _ | operator _ | fieldType _ | sortOrder _ =>
    cases text
    rw [eq]
  | _ => cases text

theorem beq_of_number? (number : v.number? = some n) (w : Value) :
    (v == w) = w.number?.any fun p => n.compare? p == some .eq := by
  rw [beq_eq_eq]
  cases v with
  | bool _ | int _ | float _ =>
    cases number
    rw [eq]
  | _ => cases number

theorem beq_of_beq_scalar (scalar : r.isScalar = true) (first : (v == r) = true) (second : (w == r) = true) :
    (v == w) = true := by
  rw [beq_swap] at first second
  rcases Bool.or_eq_true_iff.mp scalar with text | number
  · obtain ⟨s, text⟩ := Option.isSome_iff_exists.mp text
    rw [beq_of_text? text, beq_iff_eq] at first second
    rw [beq_of_text? first, second, beq_self_eq_true]
  · obtain ⟨n, number⟩ := Option.isSome_iff_exists.mp number
    rw [beq_of_number? number, Option.any_eq_true] at first second
    obtain ⟨p, left, first⟩ := first
    obtain ⟨q, right, second⟩ := second
    obtain ⟨i, there, here⟩ := (Number.compare?_eq_iff n p).mp (beq_iff_eq.mp first)
    obtain ⟨j, there', here'⟩ := (Number.compare?_eq_iff n q).mp (beq_iff_eq.mp second)
    cases there.symm.trans there'
    rw [beq_of_number? left, right, Option.any_some, beq_iff_eq]
    exact (Number.compare?_eq_iff p q).mpr ⟨i, here, here'⟩

end Value

end ModelStore
