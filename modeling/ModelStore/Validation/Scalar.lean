import ModelStore.Converter
import ModelStore.Validation.Checked

/-!
Checks of scalars. A check accepts the values of its type and those that denote one of them without
loss, such as numerals in text or text in bytes.
-/

namespace ModelStore.Check

/-- Blanks around a numeral; the separators below space are none. -/
def isNumeralBlank (c : Char) : Bool := Text.isBlank c && !(28 ≤ c.toNat && c.toNat < 32)

/-- The text of a string, a member of the vocabulary, or bytes in UTF-8; `bad` reports other bytes. -/
def textOrBytes? (bad : String) (v : Value) : Option (Checked String) :=
  match v with
  | .bytes bs =>
    some <| match String.fromUTF8? ⟨bs.toArray⟩ with
      | some s => Checked.ok s
      | none => Checked.fail bad
  | _ => v.text?.map Checked.ok

def text (v : Value) : Checked String :=
  (textOrBytes? "Input should be a valid string, unable to parse raw data as a unicode string" v).getD
    (Checked.fail "Input should be a valid string")

def nonEmptyText (v : Value) : Checked String :=
  (text v).andThen fun s =>
    if s.isEmpty then Checked.fail "String should have at least 1 character" else Checked.ok s

/-- Digits, single underscores between them, after an optional sign and before an optional `.000`. -/
def integerOfText? (s : String) : Option Int :=
  let (negative, cs) := Text.splitSign (Text.trim isNumeralBlank s.toList)
  let whole := cs.takeWhile (· != '.')
  let rest := cs.dropWhile (· != '.')
  match Text.ungrouped? whole with
  | some ds =>
    if !ds.isEmpty && ds.all Char.isDigit && rest.tail.all (· == '0') then
      some (Binary64.signed negative (Binary64.digitsValue ds))
    else none
  | none => none

def unparsedInteger : String :=
  "Input should be a valid integer, unable to parse string as an integer"

def oversizedInteger : String :=
  "Unable to parse input string as an integer, exceeded maximum size"

/-- Whole doubles below `2 ^ 63`. -/
def integerOfDouble (x : Binary64) : Checked Int :=
  match x.toInt?, x.integral? with
  | none, _ => Checked.fail "Input should be a finite number"
  | some _, none =>
    Checked.fail "Input should be a valid integer, got a number with a fractional part"
  | some _, some n =>
    if n.natAbs < 9223372036854775808 then Checked.ok n else Checked.fail oversizedInteger

def integer (v : Value) : Checked Int :=
  match v with
  | .int n => Checked.ok n
  | .bool b => Checked.ok (if b then 1 else 0)
  | .float x => integerOfDouble x
  | _ =>
    match textOrBytes? unparsedInteger v with
    | some s => s.andThen fun s =>
      match integerOfText? s with
      | some n =>
        if s.length ≤ Text.maxDigits then Checked.ok n else Checked.fail oversizedInteger
      | none => Checked.fail unparsedInteger
    | none => Checked.fail "Input should be a valid integer"

/-- Integers only, from `least` on. -/
def integerFrom (least : Int) (v : Value) : Checked Int :=
  match v with
  | .int n =>
    if least ≤ n then Checked.ok n
    else Checked.fail ("Input should be greater than or equal to " ++ toString least)
  | _ => Checked.fail "Input should be a valid integer"

def natural (v : Value) : Checked Nat := Int.toNat <$> integerFrom 0 v

/-- Drops single underscores within the text. -/
def withoutUnderscores? (cs : List Char) : Option (List Char) :=
  let doubled := (cs.zip cs.tail).any fun (a, b) => a == '_' && b == '_'
  if cs.head? == some '_' || cs.getLast? == some '_' || doubled then none
  else some (cs.filter (· != '_'))

def doubleOfText? (s : String) : Option Binary64 :=
  (withoutUnderscores? (Text.trim isNumeralBlank s.toList)).bind Binary64.ofChars?

def unparsedNumber : String :=
  "Input should be a valid number, unable to parse string as a number"

def number (v : Value) : Checked Binary64 :=
  let ofInt (n : Int) : Checked Binary64 :=
    match Binary64.ofInt? n with
    | some x => Checked.ok x
    | none => Checked.fail "Input should be a valid number"
  match v with
  | .float x => Checked.ok x
  | .int n => ofInt n
  | .bool b => ofInt (if b then 1 else 0)
  | _ =>
    match textOrBytes? unparsedNumber v with
    | some s => s.andThen fun s =>
      match doubleOfText? s with
      | some x => Checked.ok x
      | none => Checked.fail unparsedNumber
    | none => Checked.fail "Input should be a valid number"

def uninterpreted : String := "Input should be a valid boolean, unable to interpret input"

def booleanOfText? (s : String) : Option Bool :=
  let word := String.ofList (s.toList.map Char.toLower)
  if ["0", "off", "f", "false", "n", "no"].contains word then some false
  else if ["1", "on", "t", "true", "y", "yes"].contains word then some true
  else none

def booleanOfInt (n : Int) : Checked Bool :=
  if n == 0 then Checked.ok false
  else if n == 1 then Checked.ok true
  else if -9223372036854775808 ≤ n && n < 9223372036854775808 then Checked.fail uninterpreted
  else Checked.fail "Input should be a valid boolean"

def boolean (v : Value) : Checked Bool :=
  match v with
  | .bool b => Checked.ok b
  | .int n => booleanOfInt n
  | .float x =>
    match x.integral? with
    | some n => booleanOfInt n
    | none => Checked.fail "Input should be a valid boolean"
  | _ =>
    match textOrBytes? uninterpreted v with
    | some s => s.andThen fun s =>
      match booleanOfText? s with
      | some b => Checked.ok b
      | none => Checked.fail uninterpreted
    | none => Checked.fail "Input should be a valid boolean"

def bytes (v : Value) : Checked (List UInt8) :=
  match v with
  | .bytes bs => Checked.ok bs
  | _ =>
    match v.text? with
    | some s => Checked.ok s.toUTF8.toList
    | none => Checked.fail "Input should be a valid bytes"

def date (v : Value) : Checked Date :=
  match v with
  | .date d => Checked.ok d
  | .datetime d =>
    if d.isMidnight then Checked.ok d.date
    else Checked.fail
      "Datetimes provided to dates should have zero time - e.g. be exact dates"
  | _ => Checked.fail "Input should be a valid date"

def datetime (v : Value) : Checked DateTime :=
  match v with
  | .datetime d => Checked.ok d
  | .date d => Checked.ok (.midnight d)
  | _ => Checked.fail "Input should be a valid datetime"

/-- A missing value, or one that passes the check. -/
def nullable {α : Type} (check : Value → Checked α) (v : Value) : Checked (Option α) :=
  match v with
  | .none => Checked.ok none
  | _ => some <$> check v

/-- The choices in quotes, the last one after `or`. -/
def choices : List String → String
  | [] => ""
  | [a] => "'" ++ a ++ "'"
  | [a, b] => "'" ++ a ++ "' or '" ++ b ++ "'"
  | a :: rest => "'" ++ a ++ "', " ++ choices rest

/-- A member of an enumeration by its value. -/
def member {α : Type} (values : List String) (ofValue? : String → Option α) (v : Value) :
    Checked α :=
  let wrong : Checked α := Checked.fail ("Input should be " ++ choices values)
  match textOrBytes? "" v with
  | some (.ok s) =>
    match ofValue? s with
    | some a => Checked.ok a
    | none => wrong
  | _ => wrong

def fieldType : Value → Checked FieldType :=
  member (FieldType.all.map FieldType.value) FieldType.ofValue?

def sortOrder : Value → Checked SortOrder :=
  member (SortOrder.all.map SortOrder.value) SortOrder.ofValue?

def converter (v : Value) : Checked Converter :=
  match v with
  | .converter c => Checked.ok c
  | _ => Checked.fail "Input should be an instance of Converter"

/-- A boolean or text as it is; any other value as a boolean or else as text. -/
def sequence (v : Value) : Checked Sequence :=
  let ofBool (b : Bool) : Sequence := if b then .anonymous else .absent
  match v with
  | .bool b => Checked.ok (ofBool b)
  | _ =>
    let asBoolean := (ofBool <$> boolean v).under "bool"
    let asText := (Sequence.named <$> nonEmptyText v).under "constrained-str"
    if v.text?.isSome && asText.isOk then asText else asBoolean.orElse asText

/-- The elements of a list, tuple or set. -/
def elements {α : Type} (check : Value → Checked α) (v : Value) : Checked (List α) :=
  match v with
  | .list xs | .tuple xs | .set xs | .frozenset xs => Checked.elements check 0 xs
  | _ => Checked.fail "Input should be a valid tuple"

/-- Elements of which at least one has to pass. -/
def nonEmptyElements {α : Type} (check : Value → Checked α) (v : Value) : Checked (List α) :=
  let short : Checked (List α) :=
    Checked.fail "Tuple should have at least 1 item after validation, not 0"
  match v with
  | .list xs | .tuple xs | .set xs | .frozenset xs =>
    if xs.any fun x => (check x).isOk then Checked.elements check 0 xs
    else (fun _ xs => xs) <$> Checked.elements check 0 xs <*> short
  | _ => elements check v

end ModelStore.Check
