import ModelStore.Proofs.Calendar.Iso

/-!
The order of ISO texts. Digits of one width are in the order of their numbers, so that the texts of
dates are in the order of the dates, and those of naive times in the order of the times.
-/

namespace ModelStore

namespace Text

theorem list_lt_iff (xs ys : List Char) : xs < ys ↔ compare xs ys = .lt := by
  induction xs generalizing ys with
  | nil =>
    cases ys with
    | nil => exact ⟨(fun less => nomatch less), (fun same => nomatch same)⟩
    | cons y ys => exact ⟨fun _ => rfl, fun _ => List.nil_lt_cons y ys⟩
  | cons x xs ih =>
    cases ys with
    | nil => exact ⟨(fun less => nomatch less), (fun same => nomatch same)⟩
    | cons y ys =>
      have first : compare x y = .lt ↔ x < y := compareOfLessAndEq_eq_lt
      have same : compare x y = .eq ↔ x = y :=
        ⟨Std.LawfulEqOrd.eq_of_compare, fun same => same ▸ Std.ReflOrd.compare_self⟩
      rw [List.cons_lt_cons_iff, List.compare_cons_cons, Ordering.then_eq_lt, first, same, ih]

theorem compare_ofList (xs ys : List Char) :
    compare (String.ofList xs) (String.ofList ys) = compare xs ys := by
  have less : String.ofList xs < String.ofList ys ↔ compare xs ys = .lt := by
    rw [String.lt_iff, String.toList_ofList, String.toList_ofList, list_lt_iff]
  change compareOfLessAndEq (String.ofList xs) (String.ofList ys) = _
  unfold compareOfLessAndEq
  cases order : compare xs ys with
  | lt => rw [if_pos (less.mpr order)]
  | eq =>
    cases Std.LawfulEqOrd.eq_of_compare order
    rw [if_neg (String.lt_irrefl _), if_pos rfl]
  | gt =>
    rw [if_neg (fun smaller => by cases order.symm.trans (less.mp smaller)), if_neg]
    intro same
    have equal : xs = ys := by
      rw [← String.toList_ofList (l := xs), same, String.toList_ofList]
    rw [equal, Std.ReflOrd.compare_self] at order
    cases order

/-- Texts of which the first parts have one length are in the order of these, and then of the rest. -/
theorem compare_append {as bs : List Char} (length : as.length = bs.length) (xs ys : List Char) :
    compare (as ++ xs) (bs ++ ys) = (compare as bs).then (compare xs ys) := by
  induction as generalizing bs with
  | nil =>
    cases bs with
    | nil => rfl
    | cons b bs => cases length
  | cons a as ih =>
    cases bs with
    | nil => cases length
    | cons b bs =>
      rw [List.cons_append, List.cons_append, List.compare_cons_cons, List.compare_cons_cons,
        ih (Nat.succ.inj length), Ordering.then_assoc]

theorem compare_mul_add {k a b c d : Nat} (low : b < k) (low' : d < k) :
    compare (a * k + b) (c * k + d) = (compare a c).then (compare b d) := by
  rcases Nat.lt_trichotomy a c with less | rfl | more
  · have bound := Nat.mul_le_mul_right k less
    rw [Nat.succ_mul] at bound
    rw [Nat.compare_eq_lt.mpr less]
    exact Nat.compare_eq_lt.mpr (by omega)
  · rw [Nat.compare_eq_eq.mpr rfl]
    show compare (a * k + b) (a * k + d) = compare b d
    rw [Nat.compare_eq_ite_lt, Nat.compare_eq_ite_lt]
    simp only [Nat.add_lt_add_iff_left]
  · have bound := Nat.mul_le_mul_right k more
    rw [Nat.succ_mul] at bound
    rw [Nat.compare_eq_gt.mpr more]
    exact Nat.compare_eq_gt.mpr (by omega)

theorem compare_digitChar {m n : Nat} (low : m < 10) (low' : n < 10) :
    compare (Nat.digitChar m) (Nat.digitChar n) = compare m n := by
  have all : ∀ m n : Fin 10, compare (Nat.digitChar m) (Nat.digitChar n) = compare m.val n.val := by
    decide
  exact all ⟨m, low⟩ ⟨n, low'⟩

theorem compare_padded {width m n : Nat} (low : m < 10 ^ width) (low' : n < 10 ^ width) :
    compare (padded width m) (padded width n) = compare m n := by
  induction width generalizing m n with
  | zero =>
    have zero : m = 0 ∧ n = 0 := by
      rw [Nat.pow_zero] at low low'
      omega
    rw [zero.1, zero.2]
    rfl
  | succ width ih =>
    rw [Nat.pow_succ] at low low'
    have front := ih (m := m / 10) (n := n / 10) (by omega) (by omega)
    have last := compare_digitChar (Nat.mod_lt m (by decide : 0 < 10)) (Nat.mod_lt n (by decide : 0 < 10))
    have length : (padded width (m / 10)).length = (padded width (n / 10)).length := by
      rw [length_padded, length_padded]
    have whole := compare_mul_add (a := m / 10) (c := n / 10) (Nat.mod_lt m (by decide : 0 < 10))
      (Nat.mod_lt n (by decide : 0 < 10))
    rw [Nat.mul_comm, Nat.div_add_mod, Nat.mul_comm, Nat.div_add_mod] at whole
    rw [padded, padded, compare_append length, front, List.compare_cons_cons, last, whole]
    show _ = (compare (m / 10) (n / 10)).then (compare (m % 10) (n % 10))
    rw [show compare ([] : List Char) [] = .eq from rfl, Ordering.then_eq]

theorem compare_padded_append {width m n : Nat} (low : m < 10 ^ width) (low' : n < 10 ^ width)
    (xs ys : List Char) :
    compare (padded width m ++ xs) (padded width n ++ ys) = (compare m n).then (compare xs ys) := by
  rw [compare_append (by rw [length_padded, length_padded]), compare_padded low low']

theorem compare_mark (c : Char) (xs ys : List Char) : compare (c :: xs) (c :: ys) = compare xs ys := by
  rw [List.compare_cons_cons, Std.ReflOrd.compare_self]
  rfl

end Text

open Text (padded compare_padded compare_padded_append compare_mark compare_mul_add)

namespace Date

theorem compare_isoChars (d e : Date) : Ord.compare d.isoChars e.isoChars = d.compare e := by
  rw [isoChars, isoChars, List.append_assoc, List.append_assoc,
    compare_padded_append (Iso.year_lt d) (Iso.year_lt e), List.cons_append, List.cons_append, compare_mark,
    compare_padded_append (Iso.month_lt d) (Iso.month_lt e), compare_mark,
    compare_padded (Iso.day_lt d) (Iso.day_lt e)]
  rfl

theorem compare_text (d e : Date) : Ord.compare d.text e.text = d.compare e := by
  rw [text, text, Text.compare_ofList, compare_isoChars]

end Date

namespace DateTime

/-- A fraction that is left out is the least. -/
theorem compare_fractionChars {m n : Nat} (low : m < 10 ^ 6) (low' : n < 10 ^ 6) :
    Ord.compare (fractionChars m) (fractionChars n) = Ord.compare m n := by
  unfold fractionChars
  by_cases zero : m = 0
  · by_cases zero' : n = 0
    · rw [zero, zero']
      rfl
    · rw [if_pos (beq_iff_eq.mpr zero), if_neg (by simpa using zero'), zero]
      exact (Nat.compare_eq_lt.mpr (Nat.pos_of_ne_zero zero')).symm
  · by_cases zero' : n = 0
    · rw [if_neg (by simpa using zero), if_pos (beq_iff_eq.mpr zero'), zero']
      exact (Nat.compare_eq_gt.mpr (Nat.pos_of_ne_zero zero)).symm
    · rw [if_neg (by simpa using zero), if_neg (by simpa using zero'), compare_mark,
        compare_padded low low']

/-- Hours, minutes and seconds in two digits each are in the order of the seconds since midnight. -/
theorem compare_seconds (d e : DateTime) (xs ys : List Char) :
    Ord.compare (padded 2 d.hour ++ ':' :: (padded 2 d.minute ++ ':' :: (padded 2 d.second ++ xs)))
        (padded 2 e.hour ++ ':' :: (padded 2 e.minute ++ ':' :: (padded 2 e.second ++ ys))) =
      (Ord.compare ((d.hour * 60 + d.minute) * 60 + d.second) ((e.hour * 60 + e.minute) * 60 + e.second)).then
        (Ord.compare xs ys) := by
  have hour := d.hour_lt
  have hour' := e.hour_lt
  have minute := d.minute_lt
  have minute' := e.minute_lt
  have second := d.second_lt
  have second' := e.second_lt
  rw [compare_mul_add second second', compare_mul_add minute minute', compare_padded_append (by omega) (by omega),
    compare_mark, compare_padded_append (by omega) (by omega), compare_mark,
    compare_padded_append (by omega) (by omega), Ordering.then_assoc, Ordering.then_assoc]

theorem compare_clockChars (d e : DateTime) :
    Ord.compare d.clockChars e.clockChars = Ord.compare d.timeOfDay e.timeOfDay := by
  rw [timeOfDay, timeOfDay, compare_mul_add d.microsecond_lt e.microsecond_lt, clockChars, clockChars]
  simp only [List.append_assoc, List.cons_append]
  rw [compare_seconds, compare_fractionChars d.microsecond_lt e.microsecond_lt]

/-- Naive times have texts in the order of the times. -/
theorem compare_text {d e : DateTime} (naive : d.offset = none) (naive' : e.offset = none) :
    d.compare? e = some (Ord.compare d.text e.text) := by
  have dates : d.date.isoChars.length = e.date.isoChars.length := by
    rw [Iso.length_isoChars, Iso.length_isoChars]
  rw [compare?, naive, naive', text, text, Text.compare_ofList, isoChars, isoChars, naive, naive']
  simp only [Option.map_none, Option.getD_none, List.append_nil]
  rw [Text.compare_append dates, Date.compare_isoChars, compare_mark, compare_clockChars]

end DateTime

end ModelStore
