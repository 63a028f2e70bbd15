import ModelStore.Mapping.Basic
import ModelStore.Store.Basic

/-!
Conversion of documents between model values and stored values. A document holds, for each
collection, lists of values by field; each value is converted by the converter of its field.
-/

namespace ModelStore

/-- Values by field. -/
abbrev FieldValues := Assoc String (List Value)

/-- Values by collection and field. -/
abbrev Document := Assoc String FieldValues

/-- One direction of a conversion. -/
inductive Direction where
  | toStore
  | fromStore
  deriving DecidableEq, Repr

def Direction.convert : Direction → Converter → Value → Except Fault Value
  | .toStore, c => c.toRaw
  | .fromStore, c => c.ofRaw

def FieldValues.toValue (fs : FieldValues) : Value :=
  .dict (fs.map fun (k, vs) => (.str k, .list vs))

def Document.toValue (d : Document) : Value :=
  .dict (d.map fun (k, fs) => (.str k, FieldValues.toValue fs))

/-- The entries of a mapping; anything else has none. -/
def Value.entryList (v : Value) : List (Value × Value) := v.entries?.getD []

/-- The values of the fields that are named by text. -/
def FieldValues.ofValue (v : Value) : FieldValues :=
  v.entryList.filterMap fun (k, vs) => k.text?.map fun name => (name, vs.items?.getD [])

def convertAll (dir : Direction) (c : Converter) : List Value → Except Fault (List Value)
  | [] => .ok []
  | v :: vs => do return (← dir.convert c v) :: (← convertAll dir c vs)

namespace Collection

/-- Converts the values of every field. -/
def convertFields (c : Collection) (dir : Direction) :
    List (Value × Value) → Except Error FieldValues
  | [] => .ok []
  | (k, vs) :: es => do
    let f ← c.getField k
    let converted ← Error.ofFault (do convertAll dir f.converter (← vs.items))
    return (f.name, converted) :: (← convertFields c dir es)

/-- Converts one value for each column. -/
def convertRow (c : Collection) (dir : Direction) : Row → Except Error Row
  | [] => .ok []
  | (k, v) :: es => do
    let f ← c.getField (.str k)
    let converted ← Error.ofFault (dir.convert f.converter v)
    return (f.name, converted) :: (← convertRow c dir es)

end Collection

namespace Layout

/-- Converts the fields of every collection, which have to belong to the schema. -/
def convert (l : Layout) (schema : Nat) (dir : Direction) :
    List (Value × Value) → Except Error Document
  | [] => .ok []
  | (k, fields) :: es => do
    let c ← (l.schema schema).get k
    let converted ← (l.collections.get c).convertFields dir fields.entryList
    return (c.name, converted) :: (← convert l schema dir es)

/-- Converts a row of a collection, which has to belong to the schema. -/
def convertRow (l : Layout) (schema : Nat) (dir : Direction) (collection : String) (row : Row) :
    Except Error Row := do
  let c ← (l.schema schema).get (.str collection)
  (l.collections.get c).convertRow dir row

end Layout

end ModelStore
