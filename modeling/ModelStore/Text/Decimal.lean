/-! Fixed-width decimal digits. -/

namespace ModelStore.Text

/-- The last `width` decimal digits of `n`. -/
def padded : Nat → Nat → List Char
  | 0, _ => []
  | width + 1, n => padded width (n / 10) ++ [Nat.digitChar (n % 10)]

/-- Reads exactly `width` ASCII digits and returns the rest. -/
def readDigits : Nat → List Char → Option (Nat × List Char)
  | width, cs =>
    let ds := cs.take width
    if ds.length == width && ds.all Char.isDigit then
      some (ds.foldl (fun n c => 10 * n + (c.toNat - 48)) 0, cs.drop width)
    else none

end ModelStore.Text
