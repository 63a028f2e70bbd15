import ModelStore.Base64
import ModelStore.Calendar.Iso
import ModelStore.Text.Numeral
import ModelStore.Value.Membership

/-!
Conversion between model values and stored values. Each converter maps the values of its logical
type to a stored form and back; a missing value passes through.
-/

namespace ModelStore

namespace Value

/-- The literal of a value shown in an error, cut to 200 characters. -/
def excerpt (v : Value) : String := String.ofList (v.quoted.toList.take 200)

def integerOfChars (shown : Value) (cs : List Char) : Except Fault Int :=
  match Text.integer cs with
  | .ok n => .ok n
  | .error .malformed => .error (.integerNumeral shown.excerpt)
  | .error (.tooManyDigits count) => .error (.integerDigits count)

def latin (bs : List UInt8) : List Char := bs.map fun b => Char.ofNat b.toNat

/-- The integer part of a number, or the integer that a numeral denotes. -/
def toInteger (v : Value) : Except Fault Int :=
  match v with
  | .bool b => .ok (if b then 1 else 0)
  | .int n => .ok n
  | .float x =>
    match x.toInt? with
    | some n => .ok n
    | Option.none => .error (if x.isNaN then .nanInteger else .infiniteInteger)
  | .bytes bs => integerOfChars (.bytes (bs.take 200)) (latin bs)
  | _ =>
    match v.text? with
    | some s => integerOfChars v s.toList
    | Option.none => .error (.integerInput v.typeLabel)

def doubleOfInt (n : Int) : Except Fault Binary64 :=
  (Binary64.ofInt? n).elim (.error .floatOverflow) .ok

def doubleOfChars (shown : Value) (cs : List Char) : Except Fault Binary64 :=
  match Text.double? cs with
  | some x => .ok x
  | Option.none => .error (.floatNumeral shown.quoted)

/-- The nearest double to a number, or the one that a numeral denotes. -/
def toDouble (v : Value) : Except Fault Binary64 :=
  match v with
  | .bool b => doubleOfInt (if b then 1 else 0)
  | .int n => doubleOfInt n
  | .float x => .ok x
  | .bytes bs => doubleOfChars v (latin bs)
  | _ =>
    match v.text? with
    | some s => doubleOfChars v s.toList
    | Option.none => .error (.floatInput v.typeLabel)

def toByte (v : Value) : Except Fault UInt8 :=
  let ofInt (n : Int) : Except Fault UInt8 :=
    if 0 ≤ n ∧ n < 256 then .ok (UInt8.ofNat n.toNat) else .error .byteRange
  match v with
  | .bool b => ofInt (if b then 1 else 0)
  | .int n => ofInt n
  | _ => .error (.byteInput v.typeLabel)

/-- As many zero bytes as a number says, if they can be addressed. -/
def zeros (n : Int) : Except Fault (List UInt8) :=
  if n < -9223372036854775808 || 9223372036854775808 ≤ n then .error .countSize
  else if n < 0 then .error .negativeCount
  else if 9223372036854775808 - 33 ≤ n then .error .countRange
  else if 140737488355328 ≤ n then .error .countMemory
  else .ok (List.replicate n.toNat 0)

/-- The bytes of a byte string, of a collection of small integers, or that many zeros. -/
def toBytes (v : Value) : Except Fault (List UInt8) :=
  match v with
  | .bytes bs => .ok bs
  | .bool b => .ok (List.replicate (if b then 1 else 0) 0)
  | .int n => zeros n
  | _ =>
    match v.text?, v.items? with
    | some _, _ => .error .textWithoutEncoding
    | Option.none, some xs => xs.mapM toByte
    | Option.none, Option.none => .error (.notBytes v.typeLabel)

def isoText (v : Value) (e : CalendarError) : Fault := .isoText v.quoted e

/-- Text holding a `T` is a date with a time, other text a date. -/
def dateOfIso (v : Value) : Except Fault Value := do
  let timed ← isMember (.str "T") v
  match v.text? with
  | Option.none => .error .isoInput
  | some s =>
    if timed then
      match Iso.dateTime s.toList with
      | .ok d => .ok (.datetime d)
      | .error e => .error (isoText v e)
    else
      match Iso.date s.toList with
      | .ok d => .ok (.date d)
      | .error e => .error (isoText v e)

def base64Fault : Base64.Error → Fault
  | .singleDigit digits => .base64Digits digits
  | .padding => .base64Padding

def bytesOfBase64 (v : Value) : Except Fault (List UInt8) :=
  let decode (cs : List Char) : Except Fault (List UInt8) :=
    match Base64.decode cs with
    | .ok bs => .ok bs
    | .error e => .error (base64Fault e)
  match v with
  | .bytes bs => decode (latin bs)
  | _ =>
    match v.text? with
    | some s => if s.toList.all Text.isAscii then decode s.toList else .error .base64NotAscii
    | Option.none => .error (.base64Input v.typeName)

end Value

namespace Converter

/-- The stored form of a present value. -/
def encode (c : Converter) (v : Value) : Except Fault Value :=
  match c with
  | .identity => .ok v
  | .string => .ok (.str v.display)
  | .integer => do return .int (← v.toInteger)
  | .float => do return .float (← v.toDouble)
  | .boolean => .ok (.int (if v.truthy then 1 else 0))
  | .date =>
    match v with
    | .date d => .ok (.str d.text)
    | .datetime d => .ok (.str d.text)
    | _ => .error (.notDate v.typeName)
  | .binary => do return .str (String.ofList (Base64.encode (← v.toBytes)))

/-- The value behind a present stored form. -/
def decode (c : Converter) (raw : Value) : Except Fault Value :=
  match c with
  | .identity => .ok raw
  | .string => .ok (.str raw.display)
  | .integer => do return .int (← raw.toInteger)
  | .float => do return .float (← raw.toDouble)
  | .boolean => .ok (.bool raw.truthy)
  | .date => raw.dateOfIso
  | .binary => do return .bytes (← raw.bytesOfBase64)

def toRaw (c : Converter) (v : Value) : Except Fault Value :=
  match v with
  | .none => .ok .none
  | _ => c.encode v

def ofRaw (c : Converter) (raw : Value) : Except Fault Value :=
  match raw with
  | .none => .ok .none
  | _ => c.decode raw

end Converter

end ModelStore
