import ModelStore.Binary64.Decimal
import ModelStore.Text.Quoted
import ModelStore.Value.Basic

/-!
Values as text: `display` shows strings as they are, `quoted` shows every value as a literal.
-/

namespace ModelStore

/-- Days, seconds and microseconds of a duration, those that are zero left out. -/
def quotedDuration (microseconds : Int) : String :=
  let days := microseconds.fdiv 86400000000
  let rest := microseconds.fmod 86400000000
  let parts := [("days", days), ("seconds", rest / 1000000), ("microseconds", rest % 1000000)]
  let shown := (parts.filter (·.2 != 0)).map fun (name, n) => name ++ "=" ++ toString n
  "datetime.timedelta(" ++ (if shown.isEmpty then "0" else ", ".intercalate shown) ++ ")"

def quotedOffset (microseconds : Int) : String :=
  if microseconds == 0 then "datetime.timezone.utc"
  else "datetime.timezone(" ++ quotedDuration microseconds ++ ")"

def Date.quoted (d : Date) : String :=
  "datetime.date(" ++ ", ".intercalate ([d.year, d.month, d.day].map toString) ++ ")"

/-- The seconds are shown unless they and the microseconds are zero. -/
def DateTime.quoted (d : DateTime) : String :=
  let clock :=
    if d.microsecond != 0 then [d.hour, d.minute, d.second, d.microsecond]
    else if d.second != 0 then [d.hour, d.minute, d.second]
    else [d.hour, d.minute]
  let parts := ([d.date.year, d.date.month, d.date.day] ++ clock).map toString
  let zone := (d.offset.map fun o => ["tzinfo=" ++ quotedOffset o]).getD []
  "datetime.datetime(" ++ ", ".intercalate (parts ++ zone) ++ ")"

def quotedMember (type name value : String) : String :=
  "<" ++ type ++ "." ++ name ++ ": " ++ Text.quoted value ++ ">"

def Operator.quoted (o : Operator) : String := quotedMember "QueryOperator" o.name o.value

def Operator.display (o : Operator) : String := "QueryOperator." ++ o.name

def Handle.quoted : Handle → String
  | .collection c => "Collection(" ++ Text.quoted c.name ++ ")"
  | .mapping kind _ name => kind.typeName ++ "(" ++ Text.quoted name ++ ")"
  | h => "<" ++ h.typeName ++ ">"

def boolText (b : Bool) : String := if b then "True" else "False"

def Sequence.quoted : Sequence → String
  | .absent => "False"
  | .anonymous => "True"
  | .named name => Text.quoted name

def quotedOption {α : Type} (f : α → String) : Option α → String
  | some x => f x
  | none => "None"

/-- A tuple of one keeps a comma. -/
def quotedTuple (items : List String) : String :=
  "(" ++ ", ".intercalate items ++ (if items.length == 1 then ",)" else ")")

def quotedCall (name : String) (arguments : List (String × String)) : String :=
  name ++ "(" ++ ", ".intercalate (arguments.map fun (k, v) => k ++ "=" ++ v) ++ ")"

def FieldType.quoted (t : FieldType) : String := quotedMember "FieldType" t.name t.value

def OrderClause.quoted (o : OrderClause) : String :=
  quotedCall "OrderClause"
    [("field", Text.quoted o.field), ("order", quotedMember "SortOrder" o.order.name o.order.value)]

def ForeignKeyTarget.quoted (t : ForeignKeyTarget) : String :=
  quotedCall "ForeignKeyTarget"
    [("collection", (Handle.collection t.collection).quoted), ("field", Text.quoted t.field)]

def Record.quoted : Record → String
  | .field f =>
    quotedCall "CollectionField"
      [("name", Text.quoted f.name), ("type", f.type.quoted), ("raw_type", Text.quoted f.rawType),
       ("converter", f.converter.text), ("primary_key", boolText f.primaryKey),
       ("sequence", f.sequence.quoted)]
  | .index i =>
    quotedCall "CollectionIndex"
      [("name", quotedOption Text.quoted i.name),
       ("fields", quotedTuple (i.fields.map Text.quoted)), ("unique", boolText i.unique)]
  | .foreignKeyTarget t => t.quoted
  | .foreignKey k =>
    quotedCall "CollectionForeignKey"
      [("name", quotedOption Text.quoted k.name), ("field", Text.quoted k.field),
       ("target", k.target.quoted)]
  | .mappingField f =>
    quotedCall "MappingField"
      [("name", Text.quoted f.name), ("ref", Text.quoted f.ref), ("type", f.type.quoted),
       ("raw_type", quotedOption Text.quoted f.rawType),
       ("converter", quotedOption Converter.text f.converter),
       ("primary_key", boolText f.primaryKey), ("sequence", f.sequence.quoted)]
  | .order o => o.quoted
  | .options o =>
    quotedCall "FindOptions"
      [("skip", toString o.skip), ("limit", quotedOption toString o.limit),
       ("order_by", quotedTuple (o.orderBy.map OrderClause.quoted))]

namespace Value

def braced (items : List String) : String := "\x7b" ++ ", ".intercalate items ++ "\x7d"

mutual

def quoted : Value → String
  | .none => "None"
  | .bool b => boolText b
  | .int n => toString n
  | .float x => x.text
  | .str s => Text.quoted s
  | .bytes bs => Text.quotedBytes bs
  | .date d => d.quoted
  | .datetime d => d.quoted
  | .list xs => "[" ++ ", ".intercalate (quotedAll xs) ++ "]"
  | .tuple xs => quotedTuple (quotedAll xs)
  | .set xs => if xs.isEmpty then "set()" else braced (quotedAll xs)
  | .frozenset xs =>
    if xs.isEmpty then "frozenset()" else "frozenset(" ++ braced (quotedAll xs) ++ ")"
  | .dict es => braced (quotedEntries es)
  | .operator o => o.quoted
  | .fieldType t => t.quoted
  | .sortOrder o => quotedMember "SortOrder" o.name o.value
  | .converter c => c.text
  | .record r => r.quoted
  | .model name _ => "<class '" ++ name ++ "'>"
  | .object h => h.quoted

def quotedAll : List Value → List String
  | [] => []
  | x :: xs => quoted x :: quotedAll xs

def quotedEntries : List (Value × Value) → List String
  | [] => []
  | (k, v) :: es => (quoted k ++ ": " ++ quoted v) :: quotedEntries es

end

def display : Value → String
  | .str s => s
  | .date d => d.text
  | .datetime d => String.ofList (d.isoChars ' ')
  | .operator o => o.display
  | .fieldType t => "FieldType." ++ t.name
  | .sortOrder o => "SortOrder." ++ o.name
  | v => v.quoted

/-- The display of the plain value, a member of the vocabulary being its text. -/
def plainDisplay (v : Value) : String := v.text?.getD v.display

end Value

end ModelStore
