import ModelStore.Validation.Descriptor

/-!
Collections: named fields, indexes and foreign keys, each added at most once per name and immutable
from then on.
-/

namespace ModelStore

structure Collection where
  name : String
  fields : List CollectionField := []
  indexes : List CollectionIndex := []
  foreignKeys : List CollectionForeignKey := []
  deriving DecidableEq, Repr

namespace Collection

/-- A collection is named by a text that is not empty. -/
def create (name : Value) : Except Error Collection :=
  match name.text? with
  | some s =>
    if s.isEmpty then .error (.invalid "name" "Collection name must be a non-empty string")
    else .ok { name := s }
  | none => .error (.invalid "name" "Collection name must be a non-empty string")

def fieldNames (c : Collection) : List String := c.fields.map (·.name)

def indexNames (c : Collection) : List String := c.indexes.filterMap (·.name)

def foreignKeyNames (c : Collection) : List String := c.foreignKeys.filterMap (·.name)

def primaryKey (c : Collection) : List CollectionField := c.fields.filter (·.primaryKey)

def hasField (c : Collection) (name : String) : Bool := c.fields.any (·.name == name)

def hasIndex (c : Collection) (name : String) : Bool := c.indexes.any (·.name == some name)

def hasForeignKey (c : Collection) (name : String) : Bool :=
  c.foreignKeys.any (·.name == some name)

/-- The element that a key names; keys have to be hashable. -/
def lookup {α : Type} (key : Value) (find? : String → Option α) (absent : Error) :
    Except Error α :=
  match key.unhashable?, key.text?.bind find? with
  | some type, _ => .error (.fault (.unhashable type))
  | none, some a => .ok a
  | none, none => .error absent

/-- Whether a key names an element; keys have to be hashable. -/
def isKnown (key : Value) (known : String → Bool) : Except Fault Bool := do
  key.hashable
  return key.text?.any known

def getField (c : Collection) (name : Value) : Except Error CollectionField :=
  lookup name (fun s => c.fields.find? (·.name == s))
    (.missing .field name (some c.name) c.fieldNames)

def getIndex (c : Collection) (name : Value) : Except Error CollectionIndex :=
  lookup name (fun s => c.indexes.find? (·.name == some s))
    (.missing .index name (some c.name) c.indexNames)

def getForeignKey (c : Collection) (name : Value) : Except Error CollectionForeignKey :=
  lookup name (fun s => c.foreignKeys.find? (·.name == some s))
    (.missing .foreignKey name (some c.name) c.foreignKeyNames)

/-- The default name of an index or foreign key: collection and fields joined by points. -/
def deriveName (c : Collection) (fields : List String) : String :=
  ".".intercalate (c.name :: fields)

def insertField (c : Collection) (f : CollectionField) : Except Error Collection :=
  if c.hasField f.name then .error (.duplicate "field" f.name (some c.name))
  else .ok { c with fields := c.fields ++ [f] }

/-- An index without a name gets the default one. -/
def insertIndex (c : Collection) (i : CollectionIndex) :
    Except Error (Collection × CollectionIndex) :=
  let name := i.name.getD (c.deriveName i.fields)
  let named := { i with name := some name }
  if c.hasIndex name then .error (.duplicate "index" name (some c.name))
  else .ok ({ c with indexes := c.indexes ++ [named] }, named)

/-- A foreign key without a name gets the default one. -/
def insertForeignKey (c : Collection) (k : CollectionForeignKey) :
    Except Error (Collection × CollectionForeignKey) :=
  let name := k.name.getD (c.deriveName k.fields)
  let named := { k with name := some name }
  if c.hasForeignKey name then .error (.duplicate "foreign key" name (some c.name))
  else .ok ({ c with foreignKeys := c.foreignKeys ++ [named] }, named)

def addField (c : Collection) (descriptor : Value) :
    Except Error (Collection × CollectionField) := do
  let f ← (CollectionField.check descriptor).orInvalid
  return (← c.insertField f, f)

def addIndex (c : Collection) (descriptor : Value) :
    Except Error (Collection × CollectionIndex) := do
  c.insertIndex (← (CollectionIndex.check descriptor).orInvalid)

def addForeignKey (c : Collection) (descriptor : Value) :
    Except Error (Collection × CollectionForeignKey) := do
  c.insertForeignKey (← (CollectionForeignKey.check descriptor).orInvalid)

end Collection

/-- Collections by number. -/
abbrev Catalog := List Collection

namespace Catalog

def get (cs : Catalog) (c : CollectionRef) : Collection := (cs[c.id]?).getD { name := c.name }

/-- The reference that the next collection of this name gets. -/
def fresh (cs : Catalog) (name : String) : CollectionRef := ⟨cs.length, name⟩

end Catalog

end ModelStore
