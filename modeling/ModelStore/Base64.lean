/-!
Base 64 text. Encoding pads the last group; decoding skips characters outside the alphabet, stops at
a complete padding and refuses data that breaks off within a group.
-/

namespace ModelStore.Base64

def digit (n : Nat) : Char :=
  if n < 26 then Char.ofNat (65 + n)
  else if n < 52 then Char.ofNat (71 + n)
  else if n < 62 then Char.ofNat (n - 4)
  else if n == 62 then '+'
  else '/'

def digitValue? (c : Char) : Option Nat :=
  if 'A' ≤ c && c ≤ 'Z' then some (c.toNat - 65)
  else if 'a' ≤ c && c ≤ 'z' then some (c.toNat - 71)
  else if '0' ≤ c && c ≤ '9' then some (c.toNat + 4)
  else if c == '+' then some 62
  else if c == '/' then some 63
  else none

def encode : List UInt8 → List Char
  | [] => []
  | [a] =>
    let n := a.toNat
    [digit (n / 4), digit (n % 4 * 16), '=', '=']
  | [a, b] =>
    let m := a.toNat
    let n := b.toNat
    [digit (m / 4), digit (m % 4 * 16 + n / 16), digit (n % 16 * 4), '=']
  | a :: b :: c :: rest =>
    let l := a.toNat
    let m := b.toNat
    let n := c.toNat
    digit (l / 4) :: digit (l % 4 * 16 + m / 16) :: digit (m % 16 * 4 + n / 64) ::
      digit (n % 64) :: encode rest

inductive Error where
  /-- One digit is left over after whole groups, `digits` counting it with them. -/
  | singleDigit (digits : Nat)
  | padding

/-- Where decoding stands in a group of four digits; `carry` holds the bits not yet written. -/
inductive Place where
  | first
  | second (carry : Nat)
  | third (carry : Nat)
  | fourth (carry : Nat)

/-- Whether the `pads`-th pad in a row completes the group. -/
def Place.isClosedBy (pads : Nat) : Place → Bool
  | .first | .second _ => false
  | .third _ => 2 ≤ pads
  | .fourth _ => 1 ≤ pads

/-- Decodes from `place`, after `pads` pads in a row and `written` bytes. -/
def decodeFrom (place : Place) (pads written : Nat) : List Char → Except Error (List UInt8)
  | [] => match place with
    | .first => .ok []
    | .second _ => .error (.singleDigit (written / 3 * 4 + 1))
    | .third _ | .fourth _ => .error .padding
  | c :: cs =>
    if c == '=' then
      let pads := match place with
        | .first | .second _ => pads
        | .third _ | .fourth _ => pads + 1
      if place.isClosedBy pads then .ok [] else decodeFrom place pads written cs
    else match digitValue? c with
      | none => decodeFrom place pads written cs
      | some d => match place with
        | .first => decodeFrom (.second d) 0 written cs
        | .second carry => do
          .ok (UInt8.ofNat (carry * 4 + d / 16) ::
            (← decodeFrom (.third (d % 16)) 0 (written + 1) cs))
        | .third carry => do
          .ok (UInt8.ofNat (carry * 16 + d / 4) ::
            (← decodeFrom (.fourth (d % 4)) 0 (written + 1) cs))
        | .fourth carry => do
          .ok (UInt8.ofNat (carry * 64 + d) :: (← decodeFrom .first 0 (written + 1) cs))

def decode (cs : List Char) : Except Error (List UInt8) := decodeFrom .first 0 0 cs

end ModelStore.Base64
