import ModelStore.Calendar.DateTime

/-!
Reading dates and times in the ISO 8601 forms: calendar dates and week dates with or without
hyphens, any single character before the time, times with or without colons, and an offset. Lengths
count bytes of UTF-8, so a character stands for as many units as it has bytes.
-/

namespace ModelStore.Iso

open Text (readDigits)

/-- Each character once for every byte it takes up. -/
def units (cs : List Char) : List Char := cs.flatMap fun c => List.replicate c.utf8Size c

/-- A day of a week; the day counts as Monday when `length` ends the date before it. -/
def weekDate? (year length : Nat) (hyphens : Bool) (cs : List Char) :
    Option (Nat × Nat × Nat) := do
  let (week, cs) ← readDigits 2 cs
  if length ≤ (if hyphens then 8 else 7) then Date.partsOfWeek? year week 1
  else
    let cs ← if hyphens then (match cs with
      | '-' :: cs => some cs
      | _ => none) else some cs
    let (day, _) ← readDigits 1 cs
    Date.partsOfWeek? year week day

/-- Year, month and day of a date that ends after `length` units. -/
def dateParts? (length : Nat) (cs : List Char) : Option (Nat × Nat × Nat) := do
  let (year, cs) ← readDigits 4 cs
  let (hyphens, cs) := match cs with
    | '-' :: cs => (true, cs)
    | _ => (false, cs)
  match cs with
  | 'W' :: cs => weekDate? year length hyphens cs
  | _ =>
    let (month, cs) ← readDigits 2 cs
    let cs ← if hyphens then (match cs with
      | '-' :: cs => some cs
      | _ => none) else some cs
    let (day, _) ← readDigits 2 cs
    some (year, month, day)

/-- Reads a date that makes up the whole text, of 7, 8 or 10 units. -/
def date (text : List Char) : Except CalendarError Date :=
  let cs := units text
  let n := cs.length
  if n == 7 || n == 8 || n == 10 then
    match dateParts? n cs with
    | some (y, m, d) => Date.ofParts y m d
    | none => .error .malformed
  else .error .malformed

/-- A time of day as read, not yet checked against the ranges of the clock. -/
structure Clock where
  hour : Nat
  minute : Nat
  second : Nat
  microsecond : Nat

/-- Up to six digits of a fraction; further digits are cut off. -/
def fraction? (cs : List Char) : Option (Nat × List Char) := do
  let width := min 6 cs.length
  let (n, cs) ← readDigits width cs
  some (n * Nat.pow 10 (6 - width), cs.dropWhile Char.isDigit)

/-- What may follow a field of the clock: the end, another field, or a fraction of a second. -/
inductive ClockMark where
  | last (rest : List Char)
  | field (rest : List Char)
  | fraction (rest : List Char)

/-- A mark that is the last character is left over. -/
def clockMark? (colons : Bool) : List Char → Option ClockMark
  | [] => some (.last [])
  | [c] => some (.last [c])
  | c :: rest =>
    if c == '.' || c == ',' then some (.fraction rest)
    else if !colons then some (.field (c :: rest))
    else if c == ':' then some (.field rest)
    else none

/--
Hours, then minutes, then seconds and a fraction, with colons between all fields or none, and what is
left of the text. Any field may be the last one.
-/
def clock? (cs : List Char) : Option (Clock × List Char) := do
  let (hour, cs) ← readDigits 2 cs
  let colons := cs.head? == some ':'
  match ← clockMark? colons cs with
  | .last rest => some (⟨hour, 0, 0, 0⟩, rest)
  | .fraction cs =>
    let (microsecond, rest) ← fraction? cs
    some (⟨hour, 0, 0, microsecond⟩, rest)
  | .field cs =>
    let (minute, cs) ← readDigits 2 cs
    match ← clockMark? colons cs with
    | .last rest => some (⟨hour, minute, 0, 0⟩, rest)
    | .fraction cs =>
      let (microsecond, rest) ← fraction? cs
      some (⟨hour, minute, 0, microsecond⟩, rest)
    | .field cs =>
      let (second, cs) ← readDigits 2 cs
      match ← clockMark? colons cs with
      | .last rest => some (⟨hour, minute, second, 0⟩, rest)
      | .fraction cs | .field cs =>
        let (microsecond, rest) ← fraction? cs
        some (⟨hour, minute, second, microsecond⟩, rest)

/-- Text ends here, or a null character stops it. -/
def isEnd : List Char → Bool
  | [] => true
  | c :: _ => c == '\x00'

def isOffsetMark (c : Char) : Bool := c == '+' || c == '-' || c == 'Z'

/-- An offset in microseconds; whole seconds that are zero make it zero. -/
def offset? : List Char → Option Int
  | 'Z' :: cs => if isEnd cs then some 0 else none
  | sign :: cs => do
    let (c, rest) ← clock? cs
    if isEnd rest then
      let seconds := c.hour * 3600 + c.minute * 60 + c.second
      let n : Int := if seconds == 0 then 0 else seconds * 1000000 + c.microsecond
      some (if sign == '-' then -n else n)
    else none
  | [] => none

/-- A time and the offset that may follow it; leftovers of the time are ignored before an offset. -/
def time? (cs : List Char) : Option (Clock × Option Int) := do
  let (c, rest) ← clock? (cs.takeWhile fun c => !isOffsetMark c)
  match cs.dropWhile fun c => !isOffsetMark c with
  | [] => if isEnd rest then some (c, none) else none
  | mark => some (c, some (← offset? mark))

/-- The number of units before the separator of date and time. -/
def dateLength (cs : List Char) : Nat :=
  let n := cs.length
  let at? (i : Nat) := cs[i]?
  let isDigitAt (i : Nat) := (at? i).any Char.isDigit
  if n == 7 then 7
  else if at? 4 == some '-' then
    if at? 5 == some 'W' then
      if at? 8 == some '-' && !(10 < n && isDigitAt 10) then 10 else 8
    else 10
  else if at? 4 == some 'W' then
    let digits := ((cs.drop 7).takeWhile Char.isDigit).length
    if digits < 2 then 7 + digits else if digits % 2 == 1 then 7 else 8
  else 8

/-- What follows the date: nothing, or a separator and a time. -/
def timePart? : List Char → Option (Clock × Option Int)
  | [] => some (⟨0, 0, 0, 0⟩, none)
  | c :: cs => time? (cs.drop (c.utf8Size - 1))

/-- Reads a date and a time; the range of the offset is checked before the others. -/
def dateTime (text : List Char) : Except CalendarError DateTime :=
  let cs := units text
  let length := dateLength cs
  match dateParts? length cs, timePart? (cs.drop length) with
  | some (y, m, d), some (c, offset) =>
    if (offset.getD 0).natAbs < 86400000000 then do
      DateTime.ofParts (← Date.ofParts y m d) c.hour c.minute c.second c.microsecond offset
    else .error (.offset (offset.getD 0))
  | _, _ => .error .malformed

end ModelStore.Iso
