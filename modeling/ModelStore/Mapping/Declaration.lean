import ModelStore.Driver
import ModelStore.Mapping.Basic

/-!
Declaring mappings. A declaration is checked as a whole before anything changes: its arguments,
the types of its fields, the discriminator values along the chain, and the uniqueness of every
name. The mapping of a root will add a collection to the schema; every other one adds to the
collection of its root.
-/

namespace ModelStore

/-- The arguments of a declaration as they are given. -/
structure Declaration where
  kind : MappingKind
  model : Value
  driver : Value
  schema : Value
  fields : Value := .tuple []
  name : Value := .none
  discriminator : Value := .none
  parent : Value := .none
  values : Value := .none
  collection : Value := .none
  indexes : Value := .tuple []

namespace Declaration

/-- What mappings of a hierarchy ask of the arguments. -/
def checkHierarchy (d : Declaration) : Except Error Unit := do
  match d.model with
  | .model _ true => pure ()
  | _ => throw (.invalid "model" "Expected a pydantic model class")
  match d.parent with
  | .none | .object (.mapping .hierarchy _ _) => pure ()
  | _ => throw (.invalid "extends" "A class hierarchy mapping can only extend another one")
  if d.collection.isNone then return ()
  if !d.parent.isNone then
    throw (.invalid "collection" "Only the root mapping of a hierarchy names the collection")
  if !d.collection.text?.any (!·.isEmpty) then
    throw (.invalid "collection" "Collection name must be a non-empty string")

/-- The name given, or else the one of the class. -/
def givenName (d : Declaration) : Value :=
  match d.name, d.model with
  | .none, .model name _ => .str name
  | name, _ => name

def driverNumber (v : Value) : Except Error Nat :=
  match v with
  | .object (.driver _ id) => .ok id
  | _ => .error (.invalid "driver" ("Expected a Driver, got " ++ v.typeName))

def schemaNumber (v : Value) : Except Error Nat :=
  match v with
  | .object (.schema id) => .ok id
  | _ => .error (.invalid "schema" ("Expected a Schema, got " ++ v.typeName))

def config (d : Declaration) : Except Error MappingConfig := do
  let fields ← Error.ofFault d.fields.items
  let values ← Error.ofFault d.values.entries
  (MappingConfig.check (.dict
    [(.str "model", d.model), (.str "name", d.givenName), (.str "fields", .tuple fields),
     (.str "virtual", d.discriminator), (.str "extends", d.parent),
     (.str "discriminator_values", .dict values)])).orInvalid

/-- A field with its physical type and converter, which the driver supplies when left out. -/
def augmented (driver : Driver) (descriptor : Value) : Except Error MappingField := do
  let f ← (MappingField.check descriptor).orInvalid
  let rawType ←
    match f.rawType with
    | some r => pure r
    | none => driver.coerceType (.str f.type.value)
  let converter ←
    match f.converter with
    | some c => pure c
    | none => driver.createConverter (.str rawType)
  return { f with rawType := some rawType, converter := some converter }

/-- The stored field of a discriminator. -/
def discriminatorColumn (driver : Driver) (name : String) : Except Error MappingField :=
  augmented driver (.dict [(.str "name", .str name), (.str "type", .fieldType .string)])

/-- Every ancestor needs a value for its discriminator. -/
def checkGiven (name : String) (values : Assoc String String) : List Level → Except Error Unit
  | [] => .ok ()
  | a :: rest =>
    match a.discriminator with
    | none => .error .assertion
    | some k =>
      if values.has k then checkGiven name values rest
      else .error (.missingDiscriminator name a.name k)

def checkExpected (values : Assoc String String) (chain : List Level) : Except Error Unit :=
  let expected := chain.filterMap (·.discriminator)
  let unknown := sortNames (values.keys.filter (!expected.contains ·))
  if unknown.isEmpty then .ok ()
  else .error (.invalid "discriminator_values"
    ("Unknown discriminator(s): " ++ ", ".intercalate unknown))

def conflict (parent key given inherited : String) : Error :=
  .invalid ("discriminator_values." ++ key)
    ("Value '" ++ given ++ "' conflicts with '" ++ inherited ++ "' inherited from '" ++ parent ++
      "'")

/-- Values agree with those of the parent. -/
def checkInherited (parent : String) (values : Assoc String String) :
    Assoc String String → Except Error Unit
  | [] => .ok ()
  | (k, v) :: rest =>
    match values.get? k with
    | none => .error .assertion
    | some given =>
      if given == v then checkInherited parent values rest
      else .error (conflict parent k given v)

def checkInheritance (name : String) (values : Assoc String String) (parent : Option Mapping) :
    Except Error Unit :=
  match parent with
  | none =>
    if values.isEmpty then .ok ()
    else .error (.invalid "discriminator_values"
      "Only extending mappings take discriminator values")
  | some p => do
    if p.discriminator.isNone then
      throw (.invalid "extends" ("Mapping '" ++ p.name ++ "' is not virtual and cannot be extended"))
    checkGiven name values p.chain
    checkExpected values p.chain
    checkInherited p.name values p.values

/-- Names in use, with the mapping that uses them. -/
abbrev Taken := Assoc String String

def takeLevel (taken : Taken) (l : Level) : Taken :=
  let taken := (l.discriminator.map (taken.put · l.name)).getD taken
  l.fields.foldl (fun taken f => (taken.put f.name l.name).put f.ref l.name) taken

def takenBy (chain : List Level) : Taken := chain.foldl takeLevel []

def duplicateField (field owner : String) : Error := .duplicate "field" field (some owner)

/-- No field repeats a name in use; `refs` are the attribute names of the fields before. -/
def checkFields (name : String) : Taken → List String → List MappingField → Except Error Unit
  | _, _, [] => .ok ()
  | taken, refs, f :: fs =>
    match taken.get? f.name with
    | some owner => .error (duplicateField f.name owner)
    | none =>
      if taken.has f.ref || refs.contains f.ref then
        .error (duplicateField f.ref ((taken.get? f.ref).getD name))
      else checkFields name (taken.put f.name name) (f.ref :: refs) fs

def checkNames (l : Level) (ancestors : List Level) : Except Error Unit :=
  let taken := takenBy ancestors
  match l.discriminator with
  | none => checkFields l.name taken [] l.fields
  | some k =>
    match taken.get? k with
    | some owner => .error (duplicateField k owner)
    | none => checkFields l.name (taken.put k l.name) [] l.fields

/-- An index over attributes as one over stored fields. -/
def storedIndex (m : Mapping) (c : Collection) (descriptor : Value) :
    Except Error CollectionIndex := do
  let i ← (CollectionIndex.check descriptor).orInvalid
  let names ← i.fields.mapM fun ref => (·.name) <$> m.fieldByRef (.str ref)
  return { i with fields := names, name := some (i.name.getD (c.deriveName names)) }

/-- No column repeats the name of one before it, or of a field of the collection. -/
def checkColumns (c : Collection) : List String → List CollectionField → Except Error Unit
  | _, [] => .ok ()
  | seen, f :: fs =>
    if seen.contains f.name || c.hasField f.name then .error (.duplicate "field" f.name (some c.name))
    else checkColumns c (f.name :: seen) fs

/-- No index repeats the name of one before it, or of an index of the collection. -/
def checkIndexes (c : Collection) : List String → List CollectionIndex → Except Error Unit
  | _, [] => .ok ()
  | seen, i :: is =>
    match i.name with
    | none => .error .assertion
    | some name =>
      if seen.contains name || c.hasIndex name then .error (.duplicate "index" name (some c.name))
      else checkIndexes c (name :: seen) is

end Declaration

namespace Layout

open Declaration

/-- Where the mapping of a hierarchy stores: a new collection for a root, else that of the parent. -/
def place (l : Layout) (d : Declaration) (schema : Nat) (name : String) (parent : Option Mapping) :
    Except Error (CollectionRef × Collection) :=
  match parent with
  | none => do
    let c ← Collection.create (if d.collection.isNone then .str (Text.lower name) else d.collection)
    if (l.schema schema).has c.name then throw (.duplicate "collection" c.name none)
    return (l.collections.fresh c.name, c)
  | some p =>
    match p.collection with
    | some c => .ok (c, l.collections.get c)
    | none => .error .assertion

/-- The mapping that a declaration describes, the one that it extends, and its indexes as they are
    given; where it stores is still open. -/
def describe (l : Layout) (models : List Model) (drivers : List Driver) (d : Declaration) :
    Except Error (Mapping × Option Mapping × List Value) := do
  let indexes ← if d.kind == .hierarchy then do
      d.checkHierarchy
      Error.ofFault d.indexes.items
    else pure []
  let driverId ← driverNumber d.driver
  let schemaId ← schemaNumber d.schema
  let config ← d.config
  let driver := (drivers[driverId]?).getD .minimal
  let fields ← config.fields.mapM (augmented driver)
  let parent := config.parent.bind fun
    | .mapping _ id _ => l.mappings[id]?
    | _ => none
  let model ←
    match models.find? fun m => m.toValue == config.model with
    | some m => pure m
    | none => throw .assertion
  let m : Mapping :=
    { id := l.mappings.length
      kind := d.kind
      name := config.name
      model
      discriminator := config.virtualField
      column := none
      fields
      values := config.discriminatorValues
      ancestors := (parent.map Mapping.chain).getD []
      driver := driverId
      schema := schemaId
      collection := none }
  checkInheritance m.name m.values parent
  checkNames m.toLevel m.ancestors
  return (m, parent, indexes)

end Layout

/-- What the declaration of a mapping of a hierarchy is going to write. -/
structure Plan where
  mapping : Mapping
  ref : CollectionRef
  /-- The collection as it is before. -/
  collection : Collection
  indexes : List CollectionIndex

def Plan.columns (p : Plan) : List CollectionField := p.mapping.columns.map (·.toCollectionField)

namespace Layout

open Declaration

/-- The plan of a declaration that passes all checks. -/
def plan (l : Layout) (models : List Model) (drivers : List Driver) (d : Declaration) :
    Except Error Plan := do
  let (m, parent, indexes) ← l.describe models drivers d
  let (ref, collection) ← l.place d m.schema m.name parent
  let driver := (drivers[m.driver]?).getD .minimal
  let column ← m.discriminator.mapM (discriminatorColumn driver)
  let mapping := { m with column, collection := some ref }
  let indexes ← indexes.mapM (storedIndex mapping collection)
  let p : Plan := { mapping, ref, collection, indexes }
  checkColumns collection [] p.columns
  checkIndexes collection [] indexes
  return p

end Layout

end ModelStore
