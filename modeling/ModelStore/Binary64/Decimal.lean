import ModelStore.Binary64.Basic
import ModelStore.Text.CharClass

/-!
Decimal forms of doubles. Writing gives the fewest significant digits that read back to the number
and, of these, the nearest; reading rounds the decimal to the nearest double.
-/

namespace ModelStore.Binary64

/-- Whether the value `digits · 10 ^ exponent` lies within `low` to `high` quarter units. -/
structure Interval where
  low : Nat
  mid : Nat
  high : Nat
  closed : Bool

/-- The reals that round to `units`, in quarter units: ends belong to it iff the significand is even. -/
def interval (units : Nat) : Interval :=
  let gap := Nat.pow 2 (spacing units)
  let below := if gap * Nat.pow 2 52 == units && 1 < gap then gap else 2 * gap
  ⟨4 * units - below, 4 * units, 4 * units + 2 * gap, units / gap % 2 == 0⟩

/-- The largest `e` with `10 ^ e ≤ units`, by raising a lower estimate at most `fuel` times. -/
def raiseExponent (units : Nat) : Nat → Int → Int
  | 0, e => e
  | fuel + 1, e =>
    let next := e + 1
    if one * Nat.pow 10 next.toNat ≤ units * Nat.pow 10 (-next).toNat then raiseExponent units fuel next else e

def decimalExponent (units : Nat) : Int :=
  raiseExponent units 5 (((units.log2 : Int) - 1074) * 30103 / 100000 - 2)

/-- The point of the decimal grid with `count` digits nearest to the middle, if it is inside. -/
def gridPoint? (i : Interval) (exponent : Int) (count : Nat) : Option (Nat × Int) :=
  let step := exponent - count + 1
  let up := Nat.pow 10 (-step).toNat
  let unit := 4 * one * Nat.pow 10 step.toNat
  let mid := i.mid * up
  let lo := mid / unit
  let inside (d : Nat) :=
    if i.closed then i.low * up ≤ d * unit && d * unit ≤ i.high * up
    else i.low * up < d * unit && d * unit < i.high * up
  let r := mid % unit
  let nearLow := 2 * r < unit || (2 * r == unit && lo % 2 == 0)
  match inside lo, inside (lo + 1) with
  | true, true => some (if nearLow then lo else lo + 1, step)
  | true, false => some (lo, step)
  | false, true => some (lo + 1, step)
  | false, false => none

/-- The shortest decimal that reads back to `units`, as digits and a power of ten. -/
def shortest (units : Nat) : Nat × Int :=
  let i := interval units
  let e := decimalExponent units
  ((List.range 17).findSome? fun k => gridPoint? i e (k + 1)).getD (0, 0)

/-- Drops the zeros at the end of a significand. -/
def stripZeros : Nat → Nat → Int → Nat × Int
  | 0, d, e => (d, e)
  | fuel + 1, d, e => if d % 10 == 0 && d != 0 then stripZeros fuel (d / 10) (e + 1) else (d, e)

/-- Positional for exponents from -4 to 15, else with a mark and at least two exponent digits. -/
def layout (digits : List Char) (exponent : Int) : List Char :=
  let count : Int := digits.length
  let point := exponent + count
  if -4 < point && point ≤ 16 then
    if point ≤ 0 then '0' :: '.' :: List.replicate (-point).toNat '0' ++ digits
    else if count ≤ point then digits ++ List.replicate exponent.toNat '0' ++ ['.', '0']
    else digits.take point.toNat ++ '.' :: digits.drop point.toNat
  else
    let e := point - 1
    let mantissa := match digits with
      | [d] => [d]
      | d :: rest => d :: '.' :: rest
      | [] => []
    let places := Nat.toDigits 10 e.natAbs
    mantissa ++ 'e' :: (if e < 0 then '-' else '+') ::
      (if places.length < 2 then '0' :: places else places)

def text : Binary64 → String
  | .nan => "nan"
  | .infinity negative => if negative then "-inf" else "inf"
  | .finite negative units =>
    let body :=
      if units == 0 then ['0', '.', '0']
      else
        let (d, e) := shortest units
        let (d, e) := stripZeros 17 d e
        layout (Nat.toDigits 10 d) e
    String.ofList (if negative then '-' :: body else body)

/-- The double nearest to `digits · 10 ^ exponent`; decimals far out of range need no arithmetic. -/
def ofDecimal (negative : Bool) (digits : Nat) (exponent : Int) : Binary64 :=
  if digits == 0 then .finite negative 0
  else
    let size : Int := (Nat.toDigits 10 digits).length
    if 310 < size + exponent then .infinity negative
    else if size + exponent < -330 then .finite negative 0
    else ofRatio negative (digits * Nat.pow 10 exponent.toNat) (Nat.pow 10 (-exponent).toNat)

def digitsValue (cs : List Char) : Nat := cs.foldl (fun n c => 10 * n + (c.toNat - 48)) 0

/-- The exponent part, which may be absent. -/
def exponent? : List Char → Option Int
  | [] => some 0
  | mark :: cs =>
    if mark == 'e' || mark == 'E' then
      let (negative, ds) := match cs with
        | '-' :: r => (true, r)
        | '+' :: r => (false, r)
        | _ => (false, cs)
      if ds.isEmpty || !ds.all Char.isDigit then none else some (signed negative (digitsValue ds))
    else none

def unsigned? (negative : Bool) (cs : List Char) : Option Binary64 :=
  let word := String.ofList (cs.map Char.toLower)
  if word == "inf" || word == "infinity" then some (.infinity negative)
  else if word == "nan" then some .nan
  else
    let whole := cs.takeWhile Char.isDigit
    let rest := cs.dropWhile Char.isDigit
    let (fraction, rest) := match rest with
      | '.' :: r => (r.takeWhile Char.isDigit, r.dropWhile Char.isDigit)
      | _ => ([], rest)
    if whole.isEmpty && fraction.isEmpty then none
    else (exponent? rest).map fun e =>
      ofDecimal negative (digitsValue (whole ++ fraction)) (e - fraction.length)

/-- Reads an optional sign and a decimal, `inf`, `infinity` or `nan` in any case; ASCII only. -/
def ofChars? : List Char → Option Binary64
  | '-' :: cs => unsigned? true cs
  | '+' :: cs => unsigned? false cs
  | cs => unsigned? false cs

end ModelStore.Binary64
