import ModelStore.Collection
import ModelStore.Model

/-!
The memory store: rows by collection, with what is known of the collections. Writes go to the
working rows, which a commit publishes and a rollback discards; sequence counters live outside
transactions.
-/

namespace ModelStore

/-- Rows by collection. -/
abbrev Tables := Assoc String (List Row)

structure Store where
  /-- The name under which the store reports errors. -/
  label : String
  shapes : Assoc String CollectionRef := []
  indexes : Assoc String (Assoc String CollectionIndex) := []
  foreignKeys : Assoc String (Assoc String CollectionForeignKey) := []
  committed : Tables := []
  working : Tables := []
  sequences : Assoc String Nat := []
  commits : Nat := 0
  rollbacks : Nat := 0
  closed : Bool := false

namespace FieldType

/-- The physical type that backs a logical type. -/
def raw : FieldType → String
  | .string => "VARCHAR"
  | .text => "TEXT"
  | .integer => "INTEGER"
  | .float | .double | .real => "REAL"
  | .boolean => "BOOLEAN"
  | .date => "TIMESTAMP"
  | .binary => "BLOB"

end FieldType

/-- The converter of a physical type. -/
def Converter.ofRawType? : String → Option Converter
  | "VARCHAR" | "TEXT" => some .string
  | "INTEGER" => some .integer
  | "REAL" => some .float
  | "BOOLEAN" => some .boolean
  | "TIMESTAMP" => some .date
  | "BLOB" => some .binary
  | _ => none

namespace Row

/-- The value of a column, or of nothing. -/
def column (row : Row) (name : String) : Value := (row.get? name).getD .none

/-- The value under a key, which need not be a column. -/
def columnOf (row : Row) (key : Value) : Except Fault Value := do
  key.hashable
  return (key.text?.map row.column).getD .none

def toValue (row : Row) : Value := .dict (row.map fun (k, v) => (.str k, v))

/-- The document of a row: every column with a list of its one value, under the collection. -/
def document (row : Row) (collection : String) : Value :=
  .dict [(.str collection, .dict (row.map fun (k, v) => (.str k, .list [v])))]

end Row

namespace Store

def coerceType (s : Store) (type : Value) : Except Error String :=
  match FieldType.ofValue? type.plainDisplay with
  | some t => .ok t.raw
  | none => .error (.unsupportedType (.str type.display) (some s.label))

def createConverter (s : Store) (rawType : Value) : Except Error Converter :=
  Collection.lookup rawType Converter.ofRawType? (.unsupportedType rawType (some s.label))

/-- The collection that a name stands for. -/
def shape (s : Store) (cs : Catalog) (name : Value) : Except Error Collection :=
  cs.get <$> Collection.lookup name s.shapes.get?
    (.missing .collection name (some s.label) s.shapes.keys)

/-- The rows of a collection, or its committed rows. -/
def rowsOf (tables : Tables) (name : String) : List Row := (tables.get? name).getD []

def rows (s : Store) (name : String) : List Row := rowsOf s.working name

def setRows (s : Store) (name : String) (rows : List Row) : Store :=
  { s with working := s.working.put name rows }

/-- Makes a collection known; its rows and what else is known of it are kept. -/
def ensureCollection (s : Store) (c : CollectionRef) : Store :=
  { s with
    shapes := s.shapes.put c.name c
    indexes := s.indexes.ensure c.name []
    foreignKeys := s.foreignKeys.ensure c.name []
    committed := s.committed.ensure c.name []
    working := s.working.ensure c.name [] }

/-- An index counts once its collection and fields are known. -/
def ensureIndex (s : Store) (cs : Catalog) (c : CollectionRef) (i : CollectionIndex) :
    Except Error Store := do
  let known ← s.shape cs (.str c.name)
  i.fields.forM fun f => discard (known.getField (.str f))
  match i.name with
  | none => .error .assertion
  | some name =>
    let old := (s.indexes.get? c.name).getD []
    return { s with indexes := s.indexes.put c.name (old.put name i) }

def ensureForeignKey (s : Store) (cs : Catalog) (c : CollectionRef) (k : CollectionForeignKey) :
    Except Error Store := do
  discard ((← s.shape cs (.str c.name)).getField (.str k.field))
  let target ← s.shape cs (.str k.target.collection.name)
  discard (target.getField (.str k.target.field))
  match k.name with
  | none => .error .assertion
  | some name =>
    let old := (s.foreignKeys.get? c.name).getD []
    return { s with foreignKeys := s.foreignKeys.put c.name (old.put name k) }

def commit (s : Store) : Store := { s with committed := s.working, commits := s.commits + 1 }

def rollback (s : Store) : Store := { s with working := s.committed, rollbacks := s.rollbacks + 1 }

def close (s : Store) : Store := { s with closed := true }

end Store

end ModelStore
