import ModelStore.Text.CharClass

/-!
Quoted literals. The quote is an apostrophe unless the text holds apostrophes and no double quote;
backslashes, the chosen quote and unprintable characters are escaped.
-/

namespace ModelStore.Text

def hexDigit (n : Nat) : Char := (Nat.digitChar (n % 16))

/-- The last `width` hexadecimal digits of `n`. -/
def hex : Nat → Nat → List Char
  | 0, _ => []
  | width + 1, n => hex width (n / 16) ++ [hexDigit n]

def quoteFor (cs : List Char) : Char := if cs.contains '\'' && !cs.contains '"' then '"' else '\''

def escapeChar (quote c : Char) : List Char :=
  if c == quote || c == '\\' then ['\\', c]
  else if c == '\t' then ['\\', 't']
  else if c == '\n' then ['\\', 'n']
  else if c == '\r' then ['\\', 'r']
  else if isPrintable c then [c]
  else if c.toNat < 256 then '\\' :: 'x' :: hex 2 c.toNat
  else if c.toNat < 65536 then '\\' :: 'u' :: hex 4 c.toNat
  else '\\' :: 'U' :: hex 8 c.toNat

def quoted (s : String) : String :=
  let q := quoteFor s.toList
  String.ofList (q :: s.toList.flatMap (escapeChar q) ++ [q])

/-- The literal of a byte string: `b` and the quoted bytes, those outside ASCII as escapes. -/
def quotedBytes (bytes : List UInt8) : String :=
  let cs := bytes.map fun b => Char.ofNat b.toNat
  let q := quoteFor cs
  let escape (c : Char) := if isAscii c then escapeChar q c else '\\' :: 'x' :: hex 2 c.toNat
  String.ofList ('b' :: q :: cs.flatMap escape ++ [q])

end ModelStore.Text
