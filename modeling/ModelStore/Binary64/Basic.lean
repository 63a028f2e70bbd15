/-!
Double-precision numbers. Every finite one is a whole number of units, a unit being `2 ^ -1074`, the
smallest positive value; comparisons and conversions are then exact arithmetic on integers.
-/

namespace ModelStore

inductive Binary64 where
  | nan
  | infinity (negative : Bool)
  | finite (negative : Bool) (units : Nat)
  deriving DecidableEq, Repr, Inhabited

namespace Binary64

/-- Units in one. -/
def one : Nat := Nat.pow 2 1074

/-- The binary exponent of the spacing around `units`, which keeps 53 significant bits. -/
def spacing (units : Nat) : Nat := units.log2 - 52

/-- Whether `units` fits 53 significant bits below the overflow threshold. -/
def Representable (units : Nat) : Prop := units % Nat.pow 2 (spacing units) = 0 ∧ units < Nat.pow 2 2098

instance (units : Nat) : Decidable (Representable units) := inferInstanceAs (Decidable (_ ∧ _))

/-- The quotient rounded to the nearest integer, a tie to the even one. -/
def roundDiv (num den : Nat) : Nat :=
  let q := num / den
  let r := num % den
  if 2 * r < den then q else if den < 2 * r then q + 1 else q + q % 2

/-- The double nearest to `num / den`, infinite when that exceeds the largest finite one. -/
def ofRatio (negative : Bool) (num den : Nat) : Binary64 :=
  let scaled := num * one
  let s := spacing (scaled / den)
  let units := roundDiv scaled (den * Nat.pow 2 s) * Nat.pow 2 s
  if units < Nat.pow 2 2098 then .finite negative units else .infinity negative

/-- The double nearest to an integer, unless it overflows. -/
def ofInt? (n : Int) : Option Binary64 :=
  match ofRatio (n < 0) n.natAbs 1 with
  | .infinity _ => none
  | x => some x

def signed (negative : Bool) (n : Nat) : Int := if negative then -n else n

def isNaN : Binary64 → Bool
  | .nan => true
  | _ => false

def isZero : Binary64 → Bool
  | .finite _ units => units == 0
  | _ => false

/-- The integer part, for finite numbers. -/
def toInt? : Binary64 → Option Int
  | .finite negative units => some (signed negative (units / one))
  | _ => none

/-- The value of a number without a fractional part. -/
def integral? : Binary64 → Option Int
  | .finite negative units =>
    if units % one == 0 then some (signed negative (units / one)) else none
  | _ => none

/-- How a number compares with another one, if either is not `nan`. -/
def compare? : Binary64 → Binary64 → Option Ordering
  | .nan, _ | _, .nan => none
  | .infinity a, .infinity b => some (compare (signed a 1) (signed b 1))
  | .infinity a, .finite _ _ => some (if a then .lt else .gt)
  | .finite _ _, .infinity b => some (if b then .gt else .lt)
  | .finite a m, .finite b n => some (compare (signed a m) (signed b n))

/-- How a number compares with an integer, exactly. -/
def compareInt? (x : Binary64) (n : Int) : Option Ordering :=
  match x with
  | .nan => none
  | .infinity a => some (if a then .lt else .gt)
  | .finite a m => some (compare (signed a m) (n * one))

end Binary64

end ModelStore
