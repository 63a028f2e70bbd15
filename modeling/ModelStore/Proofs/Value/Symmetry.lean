import ModelStore.Proofs.Value.Equality

/-!
Equality of values is symmetric: numbers and times compare alike from either side, and so do the
parts of containers.
-/

namespace ModelStore

theorem Binary64.compare?_swap (x y : Binary64) : (x.compare? y).map Ordering.swap = y.compare? x := by
  cases x with
  | nan => cases y <;> rfl
  | infinity a =>
    cases y with
    | nan => rfl
    | infinity b => cases a <;> cases b <;> rfl
    | finite b n => cases a <;> rfl
  | finite a m =>
    cases y with
    | nan => rfl
    | infinity b => cases b <;> rfl
    | finite b n => exact congrArg some Std.OrientedCmp.eq_swap.symm

theorem Number.compare?_swap (m n : Number) : (m.compare? n).map Ordering.swap = n.compare? m := by
  cases m with
  | whole m =>
    cases n with
    | whole n => exact congrArg some Std.OrientedCmp.eq_swap.symm
    | double y =>
      change ((y.compareInt? m).map Ordering.swap).map Ordering.swap = y.compareInt? m
      cases y.compareInt? m with
      | none => rfl
      | some o => cases o <;> rfl
  | double x =>
    cases n with
    | whole n => rfl
    | double y => exact Binary64.compare?_swap x y

theorem map_swap_beq_eq (o : Option Ordering) : (o.map Ordering.swap == some .eq) = (o == some .eq) := by
  cases o with
  | none => rfl
  | some o => cases o <;> rfl

theorem Number.compare?_beq_swap (m n : Number) :
    (m.compare? n == some .eq) = (n.compare? m == some .eq) := by
  rw [← Number.compare?_swap m n, map_swap_beq_eq]

theorem Date.compare_swap (d e : Date) : (d.compare e).swap = e.compare d := by
  simp only [Date.compare, Ordering.swap_then, ← Std.OrientedCmp.eq_swap]

theorem DateTime.compare?_swap (d e : DateTime) : (d.compare? e).map Ordering.swap = e.compare? d := by
  unfold compare?
  cases d.offset with
  | none =>
    cases e.offset with
    | none =>
      simp only [Option.map_some, Ordering.swap_then, Date.compare_swap, ← Std.OrientedCmp.eq_swap]
    | some o => rfl
  | some o =>
    cases e.offset with
    | none => rfl
    | some o => simp only [Option.map_some, ← Std.OrientedCmp.eq_swap]

namespace Value

theorem subset_eq (xs ys : List Value) : subset xs ys = xs.all fun x => ys.any (eq x) := by
  induction xs with
  | nil => rw [subset, List.all_nil]
  | cons x xs ih => rw [subset, List.all_cons, ih]

theorem anyEq_eq (xs : List Value) : anyEq xs = fun y => xs.any fun x => eq x y := by
  funext y
  induction xs with
  | nil => rw [anyEq, List.any_nil]
  | cons x xs ih => rw [anyEq, List.any_cons, ih]

/-- Whether two entries have equal keys and equal values. -/
def eqEntry (e f : Value × Value) : Bool := eq e.1 f.1 && eq e.2 f.2

theorem eqEntries_eq (es fs : List (Value × Value)) :
    eqEntries es fs = es.all fun e => fs.any (eqEntry e) := by
  induction es with
  | nil => rw [eqEntries, List.all_nil]
  | cons e es ih =>
    rw [eqEntries, List.all_cons, ih]
    rfl

theorem anyEqEntry_eq (es : List (Value × Value)) : anyEqEntry es = fun f => es.any fun e => eqEntry e f := by
  funext f
  induction es with
  | nil => rw [anyEqEntry, List.any_nil]
  | cons e es ih =>
    rw [anyEqEntry, List.any_cons, ih]
    rfl

/-- Inclusion in both directions is symmetric if the relation is, of the members of one side. -/
theorem inclusions_swap {α : Type} {r : α → α → Bool} {xs : List α} (comm : ∀ x ∈ xs, ∀ y, r x y = r y x)
    (ys : List α) :
    (xs.length == ys.length && (xs.all fun x => ys.any (r x)) && ys.all fun y => xs.any fun x => r x y) =
      (ys.length == xs.length && (ys.all fun y => xs.any (r y)) && xs.all fun x => ys.any fun y => r y x) := by
  have lengths : (ys.length == xs.length) = (xs.length == ys.length) := BEq.comm
  have there : (xs.all fun x => ys.any fun y => r y x) = xs.all fun x => ys.any (r x) := by
    rw [Bool.eq_iff_iff]
    simp only [List.all_eq_true, List.any_eq_true]
    refine forall₂_congr fun x member => exists_congr fun y => and_congr_right fun _ => ?_
    rw [comm x member y]
  have back : (ys.all fun y => xs.any (r y)) = ys.all fun y => xs.any fun x => r x y := by
    rw [Bool.eq_iff_iff]
    simp only [List.all_eq_true, List.any_eq_true]
    refine forall₂_congr fun y _ => exists_congr fun x => and_congr_right fun member => ?_
    rw [comm x member y]
  rw [lengths, there, back, Bool.and_right_comm]

mutual

/-- Equality does not depend on the side. -/
theorem eq_swap : ∀ v w : Value, eq v w = eq w v
  | .none, w => by cases w <;> simp [eq, number?, text?]
  | .bool _, w | .int _, w | .float _, w => by
    cases w <;> simp [eq, number?, text?, Number.compare?_beq_swap]
  | .str _, w | .operator _, w | .fieldType _, w | .sortOrder _, w => by
    cases w <;> simp [eq, number?, text?, BEq.comm]
  | .bytes _, w | .date _, w | .record _, w | .model _ _, w | .object _, w | .converter _, w => by
    cases w <;> simp [eq, number?, text?, BEq.comm]
  | .datetime d, w => by
    cases w with
    | datetime e => rw [eq, eq, ← DateTime.compare?_swap d e, map_swap_beq_eq]
    | _ => simp [eq, number?, text?]
  | .list xs, w | .tuple xs, w => by cases w <;> simp [eq, number?, text?, eqAll_swap xs]
  | .set xs, w | .frozenset xs, w => by
    cases w with
    | set ys | frozenset ys =>
      simp only [eq, subset_eq, anyEq_eq]
      exact inclusions_swap (members_swap xs) ys
    | _ => simp [eq, number?, text?]
  | .dict es, w => by
    cases w with
    | dict fs =>
      simp only [eq, eqEntries_eq, anyEqEntry_eq]
      exact inclusions_swap (entries_swap es) fs
    | _ => simp [eq, number?, text?]

theorem eqAll_swap : ∀ xs ys : List Value, eqAll xs ys = eqAll ys xs
  | [], [] => rfl
  | [], _ :: _ => by rw [eqAll, eqAll] <;> simp
  | _ :: _, [] => by rw [eqAll, eqAll] <;> simp
  | x :: xs, y :: ys => by rw [eqAll, eqAll, eq_swap x y, eqAll_swap xs ys]

theorem members_swap : ∀ xs : List Value, ∀ x ∈ xs, ∀ y, eq x y = eq y x
  | [] => List.forall_mem_nil _
  | x :: xs => List.forall_mem_cons.mpr ⟨eq_swap x, members_swap xs⟩

theorem entries_swap : ∀ es : List (Value × Value), ∀ e ∈ es, ∀ f, eqEntry e f = eqEntry f e
  | [] => List.forall_mem_nil _
  | (k, v) :: es =>
    List.forall_mem_cons.mpr
      ⟨fun f => by rw [eqEntry, eqEntry, eq_swap k f.1, eq_swap v f.2], entries_swap es⟩

end

theorem beq_swap (v w : Value) : (v == w) = (w == v) := eq_swap v w

end Value

end ModelStore
