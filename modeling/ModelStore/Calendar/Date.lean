import ModelStore.Text.Decimal

/-! Dates of the proleptic Gregorian calendar, from year 1 to year 9999. -/

namespace ModelStore

/-- Why numbers do not make up a date or a time. -/
inductive CalendarError where
  | malformed
  | year (given : Nat)
  | month
  | day
  | hour
  | minute
  | second
  | offset (microseconds : Int)
  deriving DecidableEq, Repr

def isLeapYear (year : Nat) : Bool := year % 4 == 0 && (year % 100 != 0 || year % 400 == 0)

def daysInMonth (year month : Nat) : Nat :=
  if month == 2 then if isLeapYear year then 29 else 28
  else if month == 4 || month == 6 || month == 9 || month == 11 then 30
  else 31

structure Date where
  year : Nat
  month : Nat
  day : Nat
  year_pos : 1 ≤ year
  year_le : year ≤ 9999
  month_pos : 1 ≤ month
  month_le : month ≤ 12
  day_pos : 1 ≤ day
  day_le : day ≤ daysInMonth year month
  deriving DecidableEq, Repr

namespace Date

def ofParts (year month day : Nat) : Except CalendarError Date :=
  if hy : 1 ≤ year ∧ year ≤ 9999 then
    if hm : 1 ≤ month ∧ month ≤ 12 then
      if hd : 1 ≤ day ∧ day ≤ daysInMonth year month then
        .ok ⟨year, month, day, hy.1, hy.2, hm.1, hm.2, hd.1, hd.2⟩
      else .error .day
    else .error .month
  else .error (.year year)

/-- Days in the years before this one. -/
def daysBefore (year : Nat) : Nat :=
  let past := year - 1
  365 * past + past / 4 - past / 100 + past / 400

def dayOfYear (year month day : Nat) : Nat :=
  (List.range (month - 1)).foldl (fun days m => days + daysInMonth year (m + 1)) 0 + day

/-- The number of the day, the first of January of year 1 being day 1. -/
def ordinal (d : Date) : Nat := daysBefore d.year + dayOfYear d.year d.month d.day

def compare (d e : Date) : Ordering :=
  (Ord.compare d.year e.year).then ((Ord.compare d.month e.month).then (Ord.compare d.day e.day))

/-- Year, month and day in four, two and two digits, joined by hyphens. -/
def isoChars (d : Date) : List Char :=
  Text.padded 4 d.year ++ '-' :: Text.padded 2 d.month ++ '-' :: Text.padded 2 d.day

def text (d : Date) : String := String.ofList d.isoChars

/-- The month and day of a day number within a year, searching from `month` on. -/
def monthAndDay (year : Nat) : Nat → Nat → Nat → Nat × Nat
  | 0, month, day => (month, day)
  | fuel + 1, month, day =>
    if day ≤ daysInMonth year month then (month, day)
    else monthAndDay year fuel (month + 1) (day - daysInMonth year month)

/-- Year, month and day of an ordinal in `year` or a neighbouring one. -/
def partsNear (year ordinal : Nat) : Nat × Nat × Nat :=
  let y :=
    if ordinal ≤ daysBefore year then year - 1
    else if daysBefore (year + 1) < ordinal then year + 1
    else year
  (y, monthAndDay y 12 1 (ordinal - daysBefore y))

/-- The weekday of an ordinal, Monday being 0. -/
def weekday (ordinal : Nat) : Nat := (ordinal + 6) % 7

/-- The ordinal of the Monday that starts the first week: the week with the first Thursday. -/
def firstMonday (year : Nat) : Nat :=
  let first := daysBefore year + 1
  let w := weekday first
  if 3 < w then first + 7 - w else first - w

/-- A year has 53 weeks when it starts on a Thursday, or on a Wednesday and is a leap year. -/
def weeksIn (year : Nat) : Nat :=
  let w := weekday (daysBefore year + 1)
  if w == 3 || (w == 2 && isLeapYear year) then 53 else 52

/-- Year, month and day of a day of a numbered week; the weeks of year 0 lie in no month. -/
def partsOfWeek? (year week day : Nat) : Option (Nat × Nat × Nat) :=
  if 1 ≤ week && week ≤ weeksIn year && 1 ≤ day && day ≤ 7 then
    if year == 0 then some (1, 0, 0)
    else some (partsNear year (firstMonday year + 7 * (week - 1) + day - 1))
  else none

end Date

end ModelStore
