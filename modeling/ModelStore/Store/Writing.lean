import ModelStore.Store.Basic

/-!
Writing to a store. Every write checks its columns and the uniqueness of keys before it changes
anything, so that a write that fails leaves all rows as they were.
-/

namespace ModelStore

namespace Store

/-- Writes given columns over a row; each has to be a field of the collection. -/
def overlaid (c : Collection) (row : Row) : List (Value × Value) → Except Error Row
  | [] => .ok row
  | (k, v) :: es => do
    let f ← c.getField k
    overlaid c (row.put f.name v) es

/-- The sequence that generates values of a field. -/
def sequenceOf (collection : String) (f : CollectionField) : Option String :=
  match f.sequence with
  | .absent => none
  | .anonymous => some (collection ++ "." ++ f.name)
  | .named name => some name

/-- Generates the missing values of fields with a sequence. -/
def generate (collection : String) :
    List CollectionField → Row → Assoc String Nat → Row × Assoc String Nat
  | [], row, sequences => (row, sequences)
  | f :: fs, row, sequences =>
    match sequenceOf collection f with
    | some name =>
      if (row.column f.name).isNone then
        let next := (sequences.get? name).getD 0 + 1
        generate collection fs (row.put f.name (.int next)) (sequences.put name next)
      else generate collection fs row sequences
    | none => generate collection fs row sequences

/-- Columns that no two rows may share, with the text that names them. -/
structure Constraint where
  label : String
  fields : List String

def primaryKeyConstraint (c : Collection) : List Constraint :=
  if c.primaryKey.isEmpty then [] else [⟨"primary key", c.primaryKey.map (·.name)⟩]

def indexConstraints (indexes : Assoc String CollectionIndex) : List Constraint :=
  (indexes.values.filter (·.unique)).map fun i =>
    ⟨"unique index '" ++ i.name.getD "None" ++ "'", i.fields⟩

def constraints (s : Store) (c : Collection) (name : String) : List Constraint :=
  primaryKeyConstraint c ++ indexConstraints ((s.indexes.get? name).getD [])

namespace Constraint

def key (k : Constraint) (row : Row) : List Value := k.fields.map row.column

/-- Whether a row shares all columns with one of the others, none being missing. -/
def violated (k : Constraint) (row : Row) (others : List Row) : Bool :=
  !(k.key row).any Value.isNone && others.any fun other => Value.eqAll (k.key other) (k.key row)

def error (k : Constraint) (row : Row) (name : String) : Error :=
  .invalid (".".intercalate k.fields)
    ("Duplicate value " ++ (Value.tuple (k.key row)).quoted ++ " violates " ++ k.label ++ " of '" ++
      name ++ "'")

end Constraint

def checkUnique (s : Store) (c : Collection) (name : String) (row : Row) (others : List Row) :
    Except Error Unit :=
  match (s.constraints c name).find? (·.violated row others) with
  | some k => .error (k.error row name)
  | none => .ok ()

/-- Inserts a row; sequences advance even if the row is refused. -/
def create (s : Store) (cs : Catalog) (name : Value) (data : List (Value × Value)) :
    Except Error Row × Store :=
  match s.shape cs name with
  | .error e => (.error e, s)
  | .ok c =>
    match overlaid c [] data with
    | .error e => (.error e, s)
    | .ok given =>
      let table := name.plainDisplay
      let (row, sequences) := generate name.display c.fields given s.sequences
      let s := { s with sequences }
      match s.checkUnique c table row (s.rows table) with
      | .error e => (.error e, s)
      | .ok () => (.ok row, s.setRows table (s.rows table ++ [row]))

/-- Whether a row has the given values. -/
def hasKey (row : Row) : List (Value × Value) → Except Fault Bool
  | [] => .ok true
  | (k, v) :: es => do if (← row.columnOf k) == v then hasKey row es else return false

def keyText (key : List (Value × Value)) : String :=
  ", ".intercalate (key.map fun (k, v) => k.display ++ "=" ++ v.quoted)

/-- The rows before the first one that has the key, that row, and those after it. -/
def split (key : List (Value × Value)) :
    List Row → Except Fault (Option (List Row × Row × List Row))
  | [] => .ok none
  | row :: rows => do
    if ← hasKey row key then return some ([], row, rows)
    return (← split key rows).map fun (before, found, after) => (row :: before, found, after)

def locate (name : String) (rows : List Row) (key : List (Value × Value)) :
    Except Error (List Row × Row × List Row) := do
  if key.isEmpty then throw (.invalid "primary_key" "Primary key must not be empty")
  match ← Error.ofFault (split key rows) with
  | some found => return found
  | none => throw (.missing .document (.str (keyText key)) (some name) [])

/-- Writes data over the first row that has the key. -/
def save (s : Store) (cs : Catalog) (name : Value) (key data : List (Value × Value)) :
    Except Error Store := do
  let c ← s.shape cs name
  let table := name.plainDisplay
  discard (overlaid c [] data)
  let (before, row, after) ← locate table (s.rows table) key
  let updated ← overlaid c row data
  s.checkUnique c table updated (before ++ after)
  return s.setRows table (before ++ updated :: after)

/-- Deletes the first row that has the key. -/
def remove (s : Store) (cs : Catalog) (name : Value) (key : List (Value × Value)) :
    Except Error Store := do
  discard (s.shape cs name)
  let table := name.plainDisplay
  let (before, _, after) ← locate table (s.rows table) key
  return s.setRows table (before ++ after)

end Store

end ModelStore
