import ModelStore.Text.CharTable

/-! Character classes: blanks, decimal digits, word characters and printable characters. -/

namespace ModelStore.Text

/-- Whether a sorted table of disjoint ranges covers `c`, by bisection of the slots `lo` to `hi`. -/
def coversWithin (ranges : Array (Nat × Nat)) (c : Nat) : Nat → Nat → Nat → Bool
  | 0, _, _ => false
  | fuel + 1, lo, hi =>
    if lo < hi then
      let mid := (lo + hi) / 2
      match ranges[mid]? with
      | none => false
      | some (first, last) =>
        if c < first then coversWithin ranges c fuel lo mid
        else if last < c then coversWithin ranges c fuel (mid + 1) hi
        else true
    else false

def covers (ranges : Array (Nat × Nat)) (c : Char) : Bool :=
  coversWithin ranges c.toNat (ranges.size + 1) 0 ranges.size

def isBlank (c : Char) : Bool := covers blankRanges c

/-- The six blanks of ASCII: space and the controls from tab to carriage return. -/
def isAsciiBlank (c : Char) : Bool := c == ' ' || (9 ≤ c.toNat && c.toNat ≤ 13)

def isAscii (c : Char) : Bool := c.toNat < 128

def isAlphanumeric (c : Char) : Bool :=
  if isAscii c then c.isAlphanum else covers alphanumericRanges c

def isWord (c : Char) : Bool := isAlphanumeric c || c == '_'

def isPrintable (c : Char) : Bool :=
  if isAscii c then 32 ≤ c.toNat && c.toNat < 127 else !covers unprintableRanges c

/-- The value of a decimal digit of any script. -/
def decimalDigit? (c : Char) : Option Nat :=
  if isAscii c then if c.isDigit then some (c.toNat - 48) else none
  else (decimalZeros.find? fun z => z ≤ c.toNat && c.toNat < z + 10).map (c.toNat - ·)

/-- Drops the blanks at both ends. -/
def trim (blank : Char → Bool) (cs : List Char) : List Char :=
  ((cs.dropWhile blank).reverse.dropWhile blank).reverse

end ModelStore.Text
