import ModelStore.Text.Numeral
import ModelStore.Value.Text

/-!
Faults of single operations on values: reading numerals and dates, comparing, searching and
iterating. Each constructor is a cause; the category and the message follow from it.
-/

namespace ModelStore

inductive FaultCategory where
  | type
  | value
  | overflow
  | memory
  | base64
  | pattern
  deriving DecidableEq, Repr

inductive Fault where
  | unordered (symbol left right : String)
  | dateWithDateTime
  | naiveWithAware
  | unhashable (type : String)
  | notIterable (type : String)
  | notContainer (type : String)
  | textMember (type : String)
  | bytesNeeded (type : String)
  | byteMember
  | integerNumeral (quoted : String)
  | integerDigits (count : Nat)
  | integerInput (type : String)
  | infiniteInteger
  | nanInteger
  | floatNumeral (quoted : String)
  | floatInput (type : String)
  | floatOverflow
  | notDate (type : String)
  | isoInput
  | isoText (quoted : String) (e : CalendarError)
  | textWithoutEncoding
  | byteRange
  | byteInput (type : String)
  | notBytes (type : String)
  | negativeCount
  | countSize
  | countRange
  | countMemory
  | base64Input (type : String)
  | base64NotAscii
  | base64Digits (digits : Nat)
  | base64Padding
  | pattern
  | patternRepetition
  | unsupportedOperator (display : String)
  | notOrdering (display : String)
  | notClause (type : String)
  | unknownMember (quoted enumeration : String)
  | entryLength (index length : Nat)
  | entryInput (index : Nat)
  | unknownAttribute (model field : String)

namespace Fault

def category : Fault → FaultCategory
  | .unordered _ _ _ | .dateWithDateTime | .naiveWithAware | .unhashable _ | .notIterable _
  | .notContainer _ | .textMember _ | .bytesNeeded _ | .integerInput _ | .floatInput _
  | .notDate _ | .isoInput | .textWithoutEncoding | .byteInput _ | .notBytes _ | .base64Input _
  | .notClause _ | .entryInput _ => .type
  | .infiniteInteger | .floatOverflow | .patternRepetition | .countSize | .countRange => .overflow
  | .countMemory => .memory
  | .base64Digits _ | .base64Padding => .base64
  | .pattern => .pattern
  | _ => .value

/-- Base64 faults count as value faults too. -/
def isTypeOrValue (f : Fault) : Bool :=
  match f.category with
  | .type | .value | .base64 => true
  | .overflow | .memory | .pattern => false

def offsetMessage (microseconds : Int) : String :=
  "offset must be a timedelta strictly between -timedelta(hours=24) and timedelta(hours=24), not " ++
    quotedDuration microseconds ++ "."

def calendarMessage (quoted : String) : CalendarError → String
  | .malformed => "Invalid isoformat string: " ++ quoted
  | .year given => "year " ++ toString given ++ " is out of range"
  | .month => "month must be in 1..12"
  | .day => "day is out of range for month"
  | .hour => "hour must be in 0..23"
  | .minute => "minute must be in 0..59"
  | .second => "second must be in 0..59"
  | .offset microseconds => offsetMessage microseconds

def message : Fault → String
  | .unordered symbol left right =>
    "'" ++ symbol ++ "' not supported between instances of '" ++ left ++ "' and '" ++ right ++ "'"
  | .dateWithDateTime => "can't compare datetime.datetime to datetime.date"
  | .naiveWithAware => "can't compare offset-naive and offset-aware datetimes"
  | .unhashable type => "unhashable type: '" ++ type ++ "'"
  | .notIterable type => "'" ++ type ++ "' object is not iterable"
  | .notContainer type => "argument of type '" ++ type ++ "' is not iterable"
  | .textMember type => "'in <string>' requires string as left operand, not " ++ type
  | .bytesNeeded type => "a bytes-like object is required, not '" ++ type ++ "'"
  | .byteMember => "byte must be in range(0, 256)"
  | .integerNumeral quoted => "invalid literal for int() with base 10: " ++ quoted
  | .integerDigits count =>
    "Exceeds the limit (" ++ toString Text.maxDigits ++
      " digits) for integer string conversion: value has " ++ toString count ++
      " digits; use sys.set_int_max_str_digits() to increase the limit"
  | .integerInput type =>
    "int() argument must be a string, a bytes-like object or a real number, not '" ++ type ++ "'"
  | .infiniteInteger => "cannot convert float infinity to integer"
  | .nanInteger => "cannot convert float NaN to integer"
  | .floatNumeral quoted => "could not convert string to float: " ++ quoted
  | .floatInput type =>
    "float() argument must be a string or a real number, not '" ++ type ++ "'"
  | .floatOverflow => "int too large to convert to float"
  | .notDate type => "Expected a date or datetime, got " ++ type
  | .isoInput => "fromisoformat: argument must be str"
  | .isoText quoted e => calendarMessage quoted e
  | .textWithoutEncoding => "string argument without an encoding"
  | .byteRange => "bytes must be in range(0, 256)"
  | .byteInput type => "'" ++ type ++ "' object cannot be interpreted as an integer"
  | .notBytes type => "cannot convert '" ++ type ++ "' object to bytes"
  | .negativeCount => "negative count"
  | .countSize => "cannot fit 'int' into an index-sized integer"
  | .countRange => "byte string is too large"
  | .countMemory => ""
  | .base64Input type =>
    "argument should be a bytes-like object or ASCII string, not '" ++ type ++ "'"
  | .base64NotAscii => "string argument should contain only ASCII characters"
  | .base64Digits digits =>
    "Invalid base64-encoded string: number of data characters (" ++ toString digits ++
      ") cannot be 1 more than a multiple of 4"
  | .base64Padding => "Incorrect padding"
  | .pattern => ""
  | .patternRepetition => "the repetition number is too large"
  | .unsupportedOperator display => "Unsupported operator for in-memory evaluation: " ++ display
  | .notOrdering display => display ++ " is not an ordering operator"
  | .notClause type => "Unknown clause type: " ++ type
  | .unknownMember quoted enumeration => quoted ++ " is not a valid " ++ enumeration
  | .entryLength index length =>
    "dictionary update sequence element #" ++ toString index ++ " has length " ++
      toString length ++ "; 2 is required"
  | .entryInput index =>
    "cannot convert dictionary update sequence element #" ++ toString index ++ " to a sequence"
  | .unknownAttribute model field =>
    "\"" ++ model ++ "\" object has no field \"" ++ field ++ "\""

end Fault

end ModelStore
