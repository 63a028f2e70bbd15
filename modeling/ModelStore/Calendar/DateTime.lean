import ModelStore.Calendar.Date

/-!
A date with a time of day and, for aware ones, the offset of the local time from universal time in
microseconds, less than a day either way.
-/

namespace ModelStore

structure DateTime where
  date : Date
  hour : Nat
  minute : Nat
  second : Nat
  microsecond : Nat
  offset : Option Int
  hour_lt : hour < 24
  minute_lt : minute < 60
  second_lt : second < 60
  microsecond_lt : microsecond < 1000000
  offset_lt : ∀ o ∈ offset, o.natAbs < 86400000000
  deriving DecidableEq, Repr

namespace DateTime

def ofParts (date : Date) (hour minute second microsecond : Nat) (offset : Option Int) :
    Except CalendarError DateTime :=
  if ho : ∀ o ∈ offset, o.natAbs < 86400000000 then
    if hh : hour < 24 then
      if hm : minute < 60 then
        if hs : second < 60 ∧ microsecond < 1000000 then
          .ok ⟨date, hour, minute, second, microsecond, offset, hh, hm, hs.1, hs.2, ho⟩
        else .error .second
      else .error .minute
    else .error .hour
  else .error (.offset (offset.getD 0))

def midnight (date : Date) : DateTime :=
  ⟨date, 0, 0, 0, 0, none, by decide, by decide, by decide, by decide, by simp⟩

def isMidnight (d : DateTime) : Bool :=
  d.hour == 0 && d.minute == 0 && d.second == 0 && d.microsecond == 0

/-- Microseconds since midnight. -/
def timeOfDay (d : DateTime) : Nat :=
  ((d.hour * 60 + d.minute) * 60 + d.second) * 1000000 + d.microsecond

/-- Microseconds on the local clock. -/
def localTime (d : DateTime) : Int := d.date.ordinal * 86400000000 + d.timeOfDay

/-- Microseconds of universal time. -/
def instant (d : DateTime) : Int := d.localTime - d.offset.getD 0

/-- Aware ones compare as instants, naive ones as local times, and an aware with a naive not at all. -/
def compare? (d e : DateTime) : Option Ordering :=
  match d.offset, e.offset with
  | none, none => some ((d.date.compare e.date).then (Ord.compare d.timeOfDay e.timeOfDay))
  | some _, some _ => some (Ord.compare d.instant e.instant)
  | _, _ => none

/-- A point and six digits, left out when zero. -/
def fractionChars (microseconds : Nat) : List Char :=
  if microseconds == 0 then [] else '.' :: Text.padded 6 microseconds

/-- Sign, hours and minutes; seconds and their fraction only when they are not zero. -/
def offsetChars (microseconds : Int) : List Char :=
  let n := microseconds.natAbs
  let seconds := n / 1000000 % 60
  let fraction := n % 1000000
  (if microseconds < 0 then '-' else '+') :: Text.padded 2 (n / 3600000000) ++
    ':' :: Text.padded 2 (n / 60000000 % 60) ++
    (if seconds == 0 && fraction == 0 then []
     else ':' :: Text.padded 2 seconds ++ fractionChars fraction)

def clockChars (d : DateTime) : List Char :=
  Text.padded 2 d.hour ++ ':' :: Text.padded 2 d.minute ++ ':' :: Text.padded 2 d.second ++
    fractionChars d.microsecond

/-- The date, `mark`, the time and the offset if there is one. -/
def isoChars (mark : Char) (d : DateTime) : List Char :=
  d.date.isoChars ++ mark :: d.clockChars ++ (d.offset.map offsetChars).getD []

def text (d : DateTime) : String := String.ofList (d.isoChars 'T')

end DateTime

end ModelStore
