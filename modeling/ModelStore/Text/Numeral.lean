import ModelStore.Binary64.Decimal

/-!
Numerals in free text. Digits of any script count, blanks may surround the numeral and single
underscores may separate digits.
-/

namespace ModelStore.Text

/-- Reads a character of another script as the ASCII blank or digit it stands for. -/
def numeralChar (c : Char) : Char :=
  if isAscii c then c
  else if isBlank c then ' '
  else match decimalDigit? c with
    | some d => Nat.digitChar d
    | none => '?'

/-- The numeral without its surrounding blanks. -/
def numeralChars (cs : List Char) : List Char := trim isAsciiBlank (cs.map numeralChar)

/-- Whether each underscore stands between two digits, given the character before. -/
def underscoresSeparate : Char → List Char → Bool
  | previous, [] => previous != '_'
  | previous, c :: cs =>
    (if c == '_' then previous.isDigit else previous != '_' || c.isDigit) &&
      underscoresSeparate c cs

/-- Drops the underscores, each of which must stand between two digits. -/
def ungrouped? (cs : List Char) : Option (List Char) :=
  if underscoresSeparate ' ' cs then some (cs.filter (· != '_')) else none

def splitSign : List Char → Bool × List Char
  | '-' :: cs => (true, cs)
  | '+' :: cs => (false, cs)
  | cs => (false, cs)

/-- The most digits an integer numeral may have. -/
def maxDigits : Nat := 4300

inductive NumeralError where
  | malformed
  | tooManyDigits (count : Nat)

/-- Reads an integer; an excess of digits is reported before anything that follows them. -/
def integer (cs : List Char) : Except NumeralError Int :=
  let (negative, cs) := splitSign (numeralChars cs)
  let isBody (c : Char) := c.isDigit || c == '_'
  match ungrouped? (cs.takeWhile isBody) with
  | none => .error .malformed
  | some digits =>
    if digits.isEmpty then .error .malformed
    else if maxDigits < digits.length then .error (.tooManyDigits digits.length)
    else if (cs.dropWhile isBody).isEmpty then
      .ok (Binary64.signed negative (Binary64.digitsValue digits))
    else .error .malformed

/-- Reads a double. -/
def double? (cs : List Char) : Option Binary64 :=
  (ungrouped? (numeralChars cs)).bind Binary64.ofChars?

end ModelStore.Text
