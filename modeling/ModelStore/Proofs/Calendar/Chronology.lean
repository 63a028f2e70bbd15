import ModelStore.Proofs.Calendar.Order

/-!
The order of dates and times on one time line. Dates are in the order of their day numbers and times in that of the
local clock, and the texts of times with offsets are in the order of the local clock, too, and of their offsets only
after that: for one offset this is the order of the instants.
-/

namespace ModelStore

open Text (compare_mul_add compare_padded_append compare_mark)

/-- Numbers that lie in blocks of any sizes are in the order of the blocks, and then of the places in them. -/
theorem compare_blocks {start : Nat → Nat} (rising : Monotone start) {a b c d : Nat} (low : 0 < b)
    (high : start a + b ≤ start (a + 1)) (low' : 0 < d) (high' : start c + d ≤ start (c + 1)) :
    compare (start a + b) (start c + d) = (compare a c).then (compare b d) := by
  rcases Nat.lt_trichotomy a c with less | rfl | more
  · have later : start (a + 1) ≤ start c := rising (Nat.succ_le_of_lt less)
    rw [Nat.compare_eq_lt.mpr less]
    exact Nat.compare_eq_lt.mpr (by omega)
  · rw [Nat.compare_eq_eq.mpr rfl, Ordering.eq_then]
    rw [Nat.compare_eq_ite_lt, Nat.compare_eq_ite_lt]
    simp only [Nat.add_lt_add_iff_left]
  · have later : start (c + 1) ≤ start a := rising (Nat.succ_le_of_lt more)
    rw [Nat.compare_eq_gt.mpr more]
    exact Nat.compare_eq_gt.mpr (by omega)

theorem compare_natCast (m n : Nat) : compare (m : Int) (n : Int) = compare m n := by
  rw [Int.compare_eq_ite_lt, Nat.compare_eq_ite_lt]
  simp only [Int.ofNat_lt]

namespace Date

/-! Days are numbered without gaps. -/

/-- The days of the first months of a year. -/
def daysOfMonths (year months : Nat) : Nat :=
  (List.range months).foldl (fun days m => days + daysInMonth year (m + 1)) 0

theorem daysOfMonths_succ (year months : Nat) :
    daysOfMonths year (months + 1) = daysOfMonths year months + daysInMonth year (months + 1) := by
  rw [daysOfMonths, List.range_succ, List.foldl_append]
  rfl

theorem daysOfMonths_monotone (year : Nat) : Monotone (daysOfMonths year) := by
  refine monotone_nat_of_le_succ fun months => ?_
  rw [daysOfMonths_succ]
  exact Nat.le_add_right ..

theorem daysOfMonths_year (year : Nat) : daysOfMonths year 12 = if isLeapYear year then 366 else 365 := by
  simp only [daysOfMonths_succ, daysInMonth]
  cases isLeapYear year <;> rfl

theorem isLeapYear_iff (year : Nat) :
    isLeapYear year = true ↔ 4 ∣ year ∧ (¬100 ∣ year ∨ 400 ∣ year) := by
  simp only [isLeapYear, Bool.and_eq_true, Bool.or_eq_true, beq_iff_eq, bne_iff_ne, ne_eq, Nat.dvd_iff_mod_eq_zero]

theorem daysBefore_succ {year : Nat} (first : 1 ≤ year) :
    daysBefore (year + 1) = daysBefore year + daysOfMonths year 12 := by
  obtain ⟨past, rfl⟩ := Nat.exists_eq_add_of_le' first
  have century : 100 ∣ past + 1 → 4 ∣ past + 1 := Nat.dvd_trans (by decide)
  have cycle : 400 ∣ past + 1 → 100 ∣ past + 1 := Nat.dvd_trans (by decide)
  have fewer : past / 100 ≤ past / 4 := by omega
  rw [daysOfMonths_year]
  simp only [isLeapYear_iff, daysBefore, Nat.add_sub_cancel, Nat.succ_div]
  by_cases quarter : 4 ∣ past + 1
  · by_cases hundred : 100 ∣ past + 1
    · by_cases whole : 400 ∣ past + 1
      · simp only [quarter, hundred, whole, if_true, not_true, false_or, and_self]
        omega
      · simp only [quarter, hundred, whole, if_true, if_false, not_true, false_or, and_false]
        omega
    · simp only [quarter, hundred, mt cycle hundred, if_true, if_false, not_false_eq_true, true_or, and_self]
      omega
  · simp only [quarter, mt century quarter, mt cycle (mt century quarter), if_false, false_and]
    omega

theorem daysBefore_monotone : Monotone daysBefore := by
  refine monotone_nat_of_le_succ fun year => ?_
  cases year with
  | zero => exact Nat.le_refl _
  | succ past =>
    rw [daysBefore_succ (Nat.le_add_left 1 past)]
    exact Nat.le_add_right ..

theorem dayOfYear_eq (d : Date) : dayOfYear d.year d.month d.day = daysOfMonths d.year (d.month - 1) + d.day := rfl

theorem dayOfYear_le (d : Date) : dayOfYear d.year d.month d.day ≤ daysOfMonths d.year 12 := by
  have positive := d.month_pos
  have within := daysOfMonths_monotone d.year d.month_le
  have month := daysOfMonths_succ d.year (d.month - 1)
  have day := d.day_le
  rw [Nat.sub_add_cancel positive] at month
  rw [dayOfYear_eq]
  omega

/-- Dates are in the order of their day numbers. -/
theorem compare_ordinal (d e : Date) : Ord.compare d.ordinal e.ordinal = d.compare e := by
  have place (d : Date) : 0 < dayOfYear d.year d.month d.day ∧
      daysBefore d.year + dayOfYear d.year d.month d.day ≤ daysBefore (d.year + 1) := by
    have positive := d.day_pos
    have within := d.dayOfYear_le
    rw [daysBefore_succ d.year_pos]
    rw [dayOfYear_eq] at within ⊢
    omega
  have month (d : Date) :
      daysOfMonths d.year (d.month - 1) + d.day ≤ daysOfMonths d.year (d.month - 1 + 1) := by
    have within := d.day_le
    have positive := d.month_pos
    rw [daysOfMonths_succ, Nat.sub_add_cancel positive]
    omega
  rw [ordinal, ordinal, compare_blocks daysBefore_monotone (place d).1 (place d).2 (place e).1 (place e).2]
  by_cases year : d.year = e.year
  · have months : Ord.compare (d.month - 1) (e.month - 1) = Ord.compare d.month e.month := by
      have first := d.month_pos
      have second := e.month_pos
      rw [Nat.compare_eq_ite_lt, Nat.compare_eq_ite_lt]
      simp only [show (d.month - 1 < e.month - 1) = (d.month < e.month) by grind,
        show (e.month - 1 < d.month - 1) = (e.month < d.month) by grind]
    have within := month d
    rw [dayOfYear_eq, dayOfYear_eq, compare]
    rw [year] at within ⊢
    rw [compare_blocks (daysOfMonths_monotone e.year) d.day_pos within e.day_pos (month e), months]
  · have apart : Ord.compare d.year e.year ≠ .eq := fun same => year (Nat.compare_eq_eq.mp same)
    rw [compare]
    cases order : Ord.compare d.year e.year with
    | eq => exact (apart order).elim
    | lt | gt => rfl

end Date

namespace DateTime

theorem timeOfDay_lt (d : DateTime) : d.timeOfDay < 86400000000 := by
  have hour := d.hour_lt
  have minute := d.minute_lt
  have second := d.second_lt
  have micro := d.microsecond_lt
  rw [timeOfDay]
  omega

/-- The local clock goes on with the dates. -/
theorem compare_localTime (d e : DateTime) :
    Ord.compare d.localTime e.localTime =
      (d.date.compare e.date).then (Ord.compare d.timeOfDay e.timeOfDay) := by
  have whole (d : DateTime) : d.localTime = ((d.date.ordinal * 86400000000 + d.timeOfDay : Nat) : Int) := by
    rw [localTime]
    omega
  rw [whole, whole, compare_natCast, compare_mul_add d.timeOfDay_lt e.timeOfDay_lt, Date.compare_ordinal]

theorem compare_instant {d e : DateTime} (same : d.offset = e.offset) :
    Ord.compare d.instant e.instant = Ord.compare d.localTime e.localTime := by
  rw [instant, instant, same, Int.compare_eq_ite_lt, Int.compare_eq_ite_lt]
  simp only [Int.sub_lt_sub_right_iff]

/-- Times of one offset, or of none, compare as instants. -/
theorem compare?_instant {d e : DateTime} (same : d.offset = e.offset) :
    d.compare? e = some (Ord.compare d.instant e.instant) := by
  cases zone : d.offset with
  | none => rw [compare?, zone, ← same, zone, compare_instant same, compare_localTime]
  | some o => rw [compare?, zone, ← same, zone]

/-! Texts with offsets. -/

/-- The order of offsets as they are written: those from zero on before the negative ones, then by their size. -/
def compareOffsets (o p : Int) : Ordering :=
  (Ord.compare (decide (o < 0)) (decide (p < 0))).then (Ord.compare o.natAbs p.natAbs)

/-- Seconds of an offset and their fraction, left out when both are zero. -/
def offsetTail (seconds fraction : Nat) : List Char :=
  if seconds == 0 && fraction == 0 then [] else ':' :: Text.padded 2 seconds ++ fractionChars fraction

theorem compare_offsetTail {s f s' f' : Nat} (second : s < 60) (second' : s' < 60) (micro : f < 10 ^ 6)
    (micro' : f' < 10 ^ 6) :
    Ord.compare (offsetTail s f) (offsetTail s' f') = (Ord.compare s s').then (Ord.compare f f') := by
  rw [← compare_mul_add micro micro']
  have zero (s f : Nat) : (s == 0 && f == 0) = decide (s * 10 ^ 6 + f = 0) := by
    rw [Bool.eq_iff_iff]
    simp only [Bool.and_eq_true, beq_iff_eq, decide_eq_true_eq]
    omega
  unfold offsetTail
  rw [zero, zero]
  by_cases whole : s * 10 ^ 6 + f = 0
  · by_cases whole' : s' * 10 ^ 6 + f' = 0
    · simp only [whole, whole', decide_true, if_true]
      rfl
    · simp only [whole, whole', decide_true, decide_false, if_true, if_false, Bool.false_eq_true]
      exact (Nat.compare_eq_lt.mpr (Nat.pos_of_ne_zero whole')).symm
  · by_cases whole' : s' * 10 ^ 6 + f' = 0
    · simp only [whole, whole', decide_true, decide_false, if_true, if_false, Bool.false_eq_true]
      exact (Nat.compare_eq_gt.mpr (Nat.pos_of_ne_zero whole)).symm
    · simp only [whole, whole', decide_false, Bool.false_eq_true, if_false]
      rw [List.cons_append, List.cons_append, compare_mark, compare_padded_append (by omega) (by omega),
        compare_fractionChars micro micro', compare_mul_add micro micro']

theorem offsetChars_eq (o : Int) :
    offsetChars o = (if o < 0 then '-' else '+') :: (Text.padded 2 (o.natAbs / 3600000000) ++
      ':' :: (Text.padded 2 (o.natAbs / 60000000 % 60) ++
        offsetTail (o.natAbs / 1000000 % 60) (o.natAbs % 1000000))) := by
  simp only [offsetChars, offsetTail, List.cons_append, List.append_assoc]

theorem compare_offsetChars {o p : Int} (day : o.natAbs < 86400000000) (day' : p.natAbs < 86400000000) :
    Ord.compare (offsetChars o) (offsetChars p) = compareOffsets o p := by
  have sign : Ord.compare (if o < 0 then '-' else '+') (if p < 0 then '-' else '+') =
      Ord.compare (decide (o < 0)) (decide (p < 0)) := by
    by_cases negative : o < 0 <;> by_cases negative' : p < 0 <;> simp only [negative, negative'] <;> decide
  have parts (n : Nat) : n = ((n / 3600000000 * 60 + n / 60000000 % 60) * 60 + n / 1000000 % 60) * 10 ^ 6 +
      n % 1000000 := by
    omega
  have size : Ord.compare o.natAbs p.natAbs =
      (Ord.compare (o.natAbs / 3600000000) (p.natAbs / 3600000000)).then
        ((Ord.compare (o.natAbs / 60000000 % 60) (p.natAbs / 60000000 % 60)).then
          ((Ord.compare (o.natAbs / 1000000 % 60) (p.natAbs / 1000000 % 60)).then
            (Ord.compare (o.natAbs % 1000000) (p.natAbs % 1000000)))) := by
    rw [congrArg₂ Ord.compare (parts o.natAbs) (parts p.natAbs), compare_mul_add (by omega) (by omega),
      compare_mul_add (by omega) (by omega), compare_mul_add (by omega) (by omega), Ordering.then_assoc,
      Ordering.then_assoc]
  rw [offsetChars_eq, offsetChars_eq, List.compare_cons_cons, sign, compareOffsets, size,
    compare_padded_append (by omega) (by omega), compare_mark, compare_padded_append (by omega) (by omega),
    compare_offsetTail (by omega) (by omega) (by omega) (by omega)]

/-- A time without a fraction is written with its offset right away, of which the sign comes before the point. -/
theorem compare_fraction_offset {m n : Nat} {o p : Int} (low : m < 10 ^ 6) (low' : n < 10 ^ 6) :
    Ord.compare (fractionChars m ++ offsetChars o) (fractionChars n ++ offsetChars p) =
      (Ord.compare m n).then (Ord.compare (offsetChars o) (offsetChars p)) := by
  have first (o : Int) (rest : List Char) : Ord.compare (offsetChars o) ('.' :: rest) = .lt := by
    rw [offsetChars_eq, List.compare_cons_cons]
    split <;> rfl
  have last (o : Int) (rest : List Char) : Ord.compare ('.' :: rest) (offsetChars o) = .gt := by
    rw [offsetChars_eq, List.compare_cons_cons]
    split <;> rfl
  unfold fractionChars
  by_cases zero : m = 0
  · by_cases zero' : n = 0
    · rw [zero, zero']
      rfl
    · rw [if_pos (beq_iff_eq.mpr zero), if_neg (by simpa using zero'), zero,
        Nat.compare_eq_lt.mpr (Nat.pos_of_ne_zero zero')]
      exact first o _
  · by_cases zero' : n = 0
    · rw [if_neg (by simpa using zero), if_pos (beq_iff_eq.mpr zero'), zero',
        Nat.compare_eq_gt.mpr (Nat.pos_of_ne_zero zero)]
      exact last p _
    · rw [if_neg (by simpa using zero), if_neg (by simpa using zero'), List.cons_append, List.cons_append,
        compare_mark, compare_padded_append low low']

/-- The texts of aware times are in the order of the local clocks, and then of the offsets. -/
theorem compare_text_aware {d e : DateTime} {o p : Int} (zone : d.offset = some o) (zone' : e.offset = some p) :
    Ord.compare d.text e.text = (Ord.compare d.localTime e.localTime).then (compareOffsets o p) := by
  have dates : d.date.isoChars.length = e.date.isoChars.length := by
    rw [Iso.length_isoChars, Iso.length_isoChars]
  have offsets := compare_offsetChars (d.offset_lt o zone) (e.offset_lt p zone')
  rw [compare_localTime, timeOfDay, timeOfDay, compare_mul_add d.microsecond_lt e.microsecond_lt, text, text,
    Text.compare_ofList, isoChars, isoChars, zone, zone', clockChars, clockChars]
  simp only [Option.map_some, Option.getD_some, List.append_assoc, List.cons_append]
  rw [Text.compare_append dates, Date.compare_isoChars, compare_mark, compare_seconds,
    compare_fraction_offset d.microsecond_lt e.microsecond_lt, offsets, Ordering.then_assoc, Ordering.then_assoc]

theorem compareOffsets_eq_eq {o p : Int} : compareOffsets o p = .eq ↔ o = p := by
  rw [compareOffsets, Ordering.then_eq_eq, Std.LawfulEqOrd.compare_eq_iff_eq, Std.LawfulEqOrd.compare_eq_iff_eq,
    decide_eq_decide]
  omega

/-- For one offset the texts are in the order of the instants. -/
theorem compare_text_instant {d e : DateTime} (same : d.offset = e.offset) :
    Ord.compare d.text e.text = Ord.compare d.instant e.instant := by
  cases zone : d.offset with
  | none => exact Option.some.inj ((compare_text zone (same.symm.trans zone)).symm.trans (compare?_instant same))
  | some o =>
    rw [compare_text_aware zone (same.symm.trans zone), compareOffsets_eq_eq.mpr rfl, Ordering.then_eq,
      compare_instant same]

end DateTime

end ModelStore
