import ModelStore.Calendar.Iso
import ModelStore.Proofs.Text.Decimal

/-!
Dates and times are read back from their ISO text. The offset of an aware time is read back if it is
zero or at least a second; a smaller one is read as zero.
-/

namespace ModelStore.Iso

open Text (padded readDigits readDigits_padded length_padded all_isDigit_padded)

/-- Digits and the marks of dates and times take up one unit each. -/
def isPlain (c : Char) : Bool := c.toNat < 128

theorem units_plain {cs : List Char} (plain : cs.all isPlain = true) : units cs = cs := by
  induction cs with
  | nil => rfl
  | cons c cs ih =>
    rw [List.all_cons, Bool.and_eq_true] at plain
    have size : c.utf8Size = 1 := by
      have bound : c.toNat < 128 := by simpa [isPlain] using plain.1
      rw [Char.utf8Size]
      split
      · rfl
      · rename_i large
        exact absurd (UInt32.le_iff_toNat_le.mpr (by
          change c.toNat ≤ 127
          omega)) large
    have rest := ih plain.2
    rw [units] at rest ⊢
    rw [List.flatMap_cons, size, rest]
    rfl

theorem isPlain_of_isDigit {c : Char} (digit : c.isDigit = true) : isPlain c = true := by
  simp only [Char.isDigit, Bool.and_eq_true, decide_eq_true_eq] at digit
  have bound : c.toNat ≤ 57 := UInt32.le_iff_toNat_le.mp digit.2
  simp only [isPlain, decide_eq_true_eq]
  omega

theorem all_isPlain_padded (width n : Nat) : (padded width n).all isPlain = true := by
  rw [List.all_eq_true]
  intro c member
  exact isPlain_of_isDigit (List.all_eq_true.mp (all_isDigit_padded width n) c member)

/-! Dates. -/

theorem year_lt (d : Date) : d.year < 10 ^ 4 := by
  have bound := d.year_le
  omega

theorem month_lt (d : Date) : d.month < 10 ^ 2 := by
  have bound := d.month_le
  omega

theorem daysInMonth_le (year month : Nat) : daysInMonth year month ≤ 31 := by
  unfold daysInMonth
  split
  · split <;> omega
  · split <;> omega

theorem day_lt (d : Date) : d.day < 10 ^ 2 := by
  have bound := d.day_le
  have month := daysInMonth_le d.year d.month
  omega

theorem ofParts_parts (d : Date) : Date.ofParts d.year d.month d.day = .ok d := by
  rw [Date.ofParts, dif_pos ⟨d.year_pos, d.year_le⟩, dif_pos ⟨d.month_pos, d.month_le⟩,
    dif_pos ⟨d.day_pos, d.day_le⟩]

/-- The month is written by digits, so that no week is read in its place. -/
theorem padded_two (n : Nat) :
    padded 2 n = [Nat.digitChar (n / 10 % 10), Nat.digitChar (n % 10)] := rfl

theorem digitChar_ne {n : Nat} {c : Char} (mark : c.isDigit = false) : Nat.digitChar (n % 10) ≠ c := by
  rintro rfl
  have digit := Text.isDigit_digitChar (Nat.mod_lt n (by decide : 0 < 10))
  rw [digit] at mark
  cases mark

theorem dateParts?_isoChars (d : Date) (length : Nat) (rest : List Char) :
    dateParts? length (d.isoChars ++ rest) = some (d.year, d.month, d.day) := by
  have text : d.isoChars ++ rest =
      padded 4 d.year ++ ('-' :: (padded 2 d.month ++ ('-' :: (padded 2 d.day ++ rest)))) := by
    simp only [Date.isoChars, List.append_assoc, List.cons_append]
  rw [text, dateParts?, readDigits_padded (year_lt d)]
  simp only [Option.bind_eq_bind, Option.bind_some]
  split
  · rename_i week found
    rw [padded_two] at found
    exact absurd (List.cons.inj found).1 (digitChar_ne (by decide))
  · rw [readDigits_padded (month_lt d)]
    simp only [Option.bind_some, if_true]
    rw [readDigits_padded (day_lt d)]
    rfl

theorem all_isPlain_isoChars (d : Date) : d.isoChars.all isPlain = true := by
  simp only [Date.isoChars, List.all_append, List.all_cons, all_isPlain_padded]
  decide

theorem length_isoChars (d : Date) : d.isoChars.length = 10 := by
  simp only [Date.isoChars, List.length_append, List.length_cons, length_padded]

theorem date_isoChars (d : Date) : date d.isoChars = .ok d := by
  have parts := dateParts?_isoChars d 10 []
  rw [List.append_nil] at parts
  rw [date, units_plain (all_isPlain_isoChars d), length_isoChars, parts]
  exact ofParts_parts d

/-! Times. -/

theorem fraction?_padded {n : Nat} (bound : n < 10 ^ 6) : fraction? (padded 6 n) = some (n, []) := by
  have read := readDigits_padded bound []
  rw [List.append_nil] at read
  rw [fraction?, length_padded]
  simp only [Nat.min_self, read, Option.bind_eq_bind, Option.bind_some, List.dropWhile_nil]
  rw [Nat.sub_self, show Nat.pow 10 0 = 1 from rfl, Nat.mul_one]

theorem clock?_minutes {hour minute : Nat} (h : hour < 10 ^ 2) (m : minute < 10 ^ 2) :
    clock? (padded 2 hour ++ ':' :: padded 2 minute) = some (⟨hour, minute, 0, 0⟩, []) := by
  have read := readDigits_padded m []
  rw [List.append_nil] at read
  rw [clock?, readDigits_padded h]
  simp only [Option.bind_eq_bind, Option.bind_some, List.head?_cons, beq_self_eq_true]
  rw [padded_two] at read ⊢
  simp only [clockMark?, Bool.not_true, Bool.false_eq_true, if_false]
  simp [read]


theorem clock?_fraction {hour minute second microsecond : Nat} (h : hour < 10 ^ 2)
    (m : minute < 10 ^ 2) (s : second < 10 ^ 2) (u : microsecond < 10 ^ 6) :
    clock? (padded 2 hour ++ ':' :: (padded 2 minute ++ ':' :: (padded 2 second ++
        DateTime.fractionChars microsecond))) = some (⟨hour, minute, second, microsecond⟩, []) := by
  have minutes := readDigits_padded m (':' :: (padded 2 second ++ DateTime.fractionChars microsecond))
  have seconds := readDigits_padded s (DateTime.fractionChars microsecond)
  rw [clock?, readDigits_padded h]
  simp only [Option.bind_eq_bind, Option.bind_some, List.head?_cons, beq_self_eq_true]
  have first : ∀ cs, clockMark? true (':' :: (padded 2 minute ++ cs)) =
      some (.field (padded 2 minute ++ cs)) := fun cs => by
    rw [padded_two]
    rfl
  have second : ∀ cs, clockMark? true (':' :: (padded 2 second ++ cs)) =
      some (.field (padded 2 second ++ cs)) := fun cs => by
    rw [padded_two]
    rfl
  rw [first]
  simp only [Option.bind_some, minutes, second, seconds]
  by_cases whole : microsecond = 0
  · subst whole
    rfl
  · have mark : clockMark? true (DateTime.fractionChars microsecond) =
        some (.fraction (padded 6 microsecond)) := by
      rw [DateTime.fractionChars, if_neg (by simpa using whole)]
      rfl
    rw [mark]
    simp only [Option.bind_some, fraction?_padded u]

theorem offset?_cons {sign : Char} {cs : List Char} {c : Clock} (other : sign ≠ 'Z')
    (read : clock? cs = some (c, [])) :
    offset? (sign :: cs) = some
      (let seconds := c.hour * 3600 + c.minute * 60 + c.second
       let n : Int := if seconds == 0 then 0 else seconds * 1000000 + c.microsecond
       if sign == '-' then -n else n) := by
  unfold offset?
  split
  · rename_i same
    exact absurd (List.cons.inj same).1 other
  · rename_i same
    cases same
    simp only [read, Option.bind_eq_bind, Option.bind_some, isEnd, if_true]
  · rename_i same
    cases same

/-- An offset of at least a second, or of nothing, in microseconds. -/
def keepsOffset (o : Int) : Bool := o == 0 || decide (1000000 ≤ o.natAbs)

theorem clock_seconds (n : Nat) :
    n / 3600000000 * 3600 + n / 60000000 % 60 * 60 + n / 1000000 % 60 = n / 1000000 := by
  have minute : n / 60000000 = n / 1000000 / 60 := by rw [Nat.div_div_eq_div_mul]
  have hour : n / 3600000000 = n / 1000000 / 60 / 60 := by
    rw [Nat.div_div_eq_div_mul, Nat.div_div_eq_div_mul]
  rw [minute, hour]
  omega

theorem clock?_offsetChars {o : Int} (bound : o.natAbs < 86400000000) :
    clock? (DateTime.offsetChars o).tail =
      some (⟨o.natAbs / 3600000000, o.natAbs / 60000000 % 60, o.natAbs / 1000000 % 60,
        o.natAbs % 1000000⟩, []) := by
  have hours : o.natAbs / 3600000000 < 10 ^ 2 := by omega
  have minutes : o.natAbs / 60000000 % 60 < 10 ^ 2 := by omega
  have seconds : o.natAbs / 1000000 % 60 < 10 ^ 2 := by omega
  have fraction : o.natAbs % 1000000 < 10 ^ 6 := by omega
  simp only [DateTime.offsetChars, List.cons_append, List.tail_cons, List.append_assoc]
  split
  · rename_i whole
    simp only [Bool.and_eq_true, beq_iff_eq] at whole
    rw [whole.1, whole.2, List.append_nil]
    exact clock?_minutes hours minutes
  · exact clock?_fraction hours minutes seconds fraction

/-- An offset as it is read back: less than a second comes to nothing. -/
def settledOffset (o : Int) : Int := if o.natAbs < 1000000 then 0 else o

theorem settledOffset_bound {o : Int} (bound : o.natAbs < 86400000000) :
    (settledOffset o).natAbs < 86400000000 := by
  unfold settledOffset
  split
  · decide
  · exact bound

theorem settledOffset_eq_iff (o : Int) : settledOffset o = o ↔ keepsOffset o = true := by
  simp only [settledOffset, keepsOffset, Bool.or_eq_true, beq_iff_eq, decide_eq_true_eq]
  omega

theorem offset?_offsetChars {o : Int} (bound : o.natAbs < 86400000000) :
    offset? (DateTime.offsetChars o) = some (settledOffset o) := by
  have sign : DateTime.offsetChars o =
      (if o < 0 then '-' else '+') :: (DateTime.offsetChars o).tail := rfl
  have other : (if o < 0 then '-' else '+') ≠ 'Z' := by split <;> decide
  have mark : ((if o < 0 then '-' else '+') == '-') = decide (o < 0) := by
    by_cases negative : o < 0 <;> simp [negative]
  rw [sign, offset?_cons other (clock?_offsetChars bound)]
  simp only [mark, decide_eq_true_eq, beq_iff_eq, clock_seconds]
  congr 1
  unfold settledOffset
  by_cases small : o.natAbs < 1000000
  · rw [if_pos (Nat.div_eq_of_lt small), if_pos small, neg_zero, ite_self]
  · have some : o.natAbs / 1000000 ≠ 0 := by omega
    have whole : (o.natAbs : Int) = ↑(o.natAbs / 1000000) * 1000000 + ↑(o.natAbs % 1000000) := by omega
    rw [if_neg some, if_neg small, ← whole]
    split <;> omega

/-! Dates with times. -/

theorem isOffsetMark_of_isDigit {c : Char} (digit : c.isDigit = true) : isOffsetMark c = false := by
  rw [isOffsetMark, Bool.or_eq_false_iff, Bool.or_eq_false_iff]
  refine ⟨⟨?_, ?_⟩, ?_⟩
  all_goals
    rw [beq_eq_false_iff_ne]
    rintro rfl
    cases digit

theorem padded_no_marks (width n : Nat) : ∀ c ∈ padded width n, (!isOffsetMark c) = true := by
  intro c member
  rw [isOffsetMark_of_isDigit (List.all_eq_true.mp (all_isDigit_padded width n) c member)]
  rfl

theorem fractionChars_no_marks (n : Nat) :
    ∀ c ∈ DateTime.fractionChars n, (!isOffsetMark c) = true := by
  intro c member
  rw [DateTime.fractionChars] at member
  split at member
  · cases member
  · rcases List.mem_cons.mp member with rfl | digit
    · rfl
    · exact padded_no_marks 6 n c digit

theorem clockChars_no_marks (d : DateTime) : ∀ c ∈ d.clockChars, (!isOffsetMark c) = true := by
  intro c member
  simp only [DateTime.clockChars, List.append_assoc, List.cons_append, List.mem_append,
    List.mem_cons] at member
  rcases member with digit | rfl | digit | rfl | digit | digit
  · exact padded_no_marks _ _ c digit
  · rfl
  · exact padded_no_marks _ _ c digit
  · rfl
  · exact padded_no_marks _ _ c digit
  · exact fractionChars_no_marks _ c digit

theorem clock?_clockChars (d : DateTime) :
    clock? d.clockChars = some (⟨d.hour, d.minute, d.second, d.microsecond⟩, []) := by
  have h := d.hour_lt
  have m := d.minute_lt
  have s := d.second_lt
  have u := d.microsecond_lt
  have text : d.clockChars = padded 2 d.hour ++ ':' :: (padded 2 d.minute ++ ':' ::
      (padded 2 d.second ++ DateTime.fractionChars d.microsecond)) := by
    simp only [DateTime.clockChars, List.append_assoc, List.cons_append]
  rw [text]
  exact clock?_fraction (by omega) (by omega) (by omega) (by omega)

theorem time?_clockChars (d : DateTime) :
    time? (d.clockChars ++ (d.offset.map DateTime.offsetChars).getD []) =
      some (⟨d.hour, d.minute, d.second, d.microsecond⟩, d.offset.map settledOffset) := by
  rw [time?, List.takeWhile_append_of_pos (clockChars_no_marks d),
    List.dropWhile_append_of_pos (clockChars_no_marks d)]
  cases zone : d.offset with
  | none =>
    simp only [Option.map_none, Option.getD_none, List.takeWhile_nil, List.append_nil,
      clock?_clockChars, Option.bind_eq_bind, Option.bind_some, List.dropWhile_nil, isEnd, if_true]
  | some o =>
    have read := offset?_offsetChars (d.offset_lt o zone)
    have mark : ∃ sign rest, DateTime.offsetChars o = sign :: rest ∧ isOffsetMark sign = true := by
      refine ⟨_, _, rfl, ?_⟩
      split <;> rfl
    rcases mark with ⟨sign, rest, text, mark⟩
    rw [text] at read
    simp only [Option.map_some, Option.getD_some, text, List.takeWhile_cons, List.dropWhile_cons, mark,
      Bool.not_true, Bool.false_eq_true, if_false, List.append_nil, clock?_clockChars,
      Option.bind_eq_bind, Option.bind_some, read]

theorem fractionChars_plain (n : Nat) : (DateTime.fractionChars n).all isPlain = true := by
  rw [DateTime.fractionChars]
  split
  · rfl
  · rw [List.all_cons, all_isPlain_padded]
    rfl

theorem clockChars_plain (d : DateTime) : d.clockChars.all isPlain = true := by
  simp only [DateTime.clockChars, List.all_append, List.all_cons, all_isPlain_padded,
    fractionChars_plain]
  decide

theorem offsetChars_plain (o : Int) : (DateTime.offsetChars o).all isPlain = true := by
  have sign : isPlain (if o < 0 then '-' else '+') = true := by split <;> rfl
  simp only [DateTime.offsetChars, List.all_append, List.all_cons, all_isPlain_padded, sign]
  split
  · decide
  · simp only [List.all_append, List.all_cons, all_isPlain_padded, fractionChars_plain]
    decide

theorem zone_plain (o : Option Int) : ((o.map DateTime.offsetChars).getD []).all isPlain = true := by
  cases o with
  | none => rfl
  | some o => exact offsetChars_plain o

theorem ofParts_dateTime (d : DateTime) :
    DateTime.ofParts d.date d.hour d.minute d.second d.microsecond d.offset = .ok d := by
  rw [DateTime.ofParts, dif_pos d.offset_lt, dif_pos d.hour_lt, dif_pos d.minute_lt,
    dif_pos ⟨d.second_lt, d.microsecond_lt⟩]

theorem dateLength_isoChars (d : Date) (rest : List Char) : dateLength (d.isoChars ++ rest) = 10 := by
  have hyphen : (d.isoChars ++ rest)[4]? = some '-' := rfl
  have month : (d.isoChars ++ rest)[5]? = some (Nat.digitChar (d.month / 10 % 10)) := rfl
  have digit : Nat.digitChar (d.month / 10 % 10) ≠ 'W' := digitChar_ne (by decide)
  have long : ((d.isoChars ++ rest).length == 7) = false := by
    rw [beq_eq_false_iff_ne, List.length_append, length_isoChars]
    omega
  simp only [dateLength, long, hyphen, month, beq_self_eq_true, if_true, Bool.false_eq_true, if_false,
    beq_iff_eq, Option.some.injEq, digit]

/-- A time as it is read back from its text. -/
def settled (d : DateTime) : DateTime where
  date := d.date
  hour := d.hour
  minute := d.minute
  second := d.second
  microsecond := d.microsecond
  offset := d.offset.map settledOffset
  hour_lt := d.hour_lt
  minute_lt := d.minute_lt
  second_lt := d.second_lt
  microsecond_lt := d.microsecond_lt
  offset_lt := by
    intro o zone
    rcases Option.map_eq_some_iff.mp zone with ⟨o', own, rfl⟩
    exact settledOffset_bound (d.offset_lt o' own)

theorem settled_eq {d : DateTime} (kept : d.offset.all keepsOffset = true) : settled d = d := by
  have same : d.offset.map settledOffset = d.offset := by
    cases zone : d.offset with
    | none => rfl
    | some o =>
      rw [zone, Option.all_some] at kept
      rw [Option.map_some, (settledOffset_eq_iff o).mpr kept]
  cases d
  simp only [settled, DateTime.mk.injEq, true_and]
  exact same

theorem dateTime_isoChars (d : DateTime) : dateTime (d.isoChars 'T') = .ok (settled d) := by
  have plain : (d.isoChars 'T').all isPlain = true := by
    simp only [DateTime.isoChars, List.all_append, List.all_cons, all_isPlain_isoChars,
      clockChars_plain, zone_plain]
    decide
  have text : d.isoChars 'T' = d.date.isoChars ++
      ('T' :: (d.clockChars ++ (d.offset.map DateTime.offsetChars).getD [])) := by
    simp only [DateTime.isoChars, List.append_assoc, List.cons_append]
  rw [dateTime, units_plain plain, text]
  generalize rest : d.clockChars ++ (d.offset.map DateTime.offsetChars).getD [] = cs
  have length := dateLength_isoChars d.date ('T' :: cs)
  have later : (d.date.isoChars ++ ('T' :: cs)).drop 10 = 'T' :: cs := by
    rw [← length_isoChars d.date, List.drop_left]
  have time : timePart? ('T' :: cs) =
      some (⟨d.hour, d.minute, d.second, d.microsecond⟩, (settled d).offset) := by
    rw [← rest]
    exact time?_clockChars d
  have bound : ((settled d).offset.getD 0).natAbs < 86400000000 := by
    cases zone : (settled d).offset with
    | none => decide
    | some o => exact (settled d).offset_lt o zone
  simp only [length, dateParts?_isoChars, later, time, bound, if_true, ofParts_parts]
  exact ofParts_dateTime (settled d)

end ModelStore.Iso
