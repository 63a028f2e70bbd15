import ModelStore.Mapping.Writing
import ModelStore.Workspace.Fetching

/-! Working with instances through mappings. -/

namespace ModelStore.Run

/-- Adds a new collection to a schema. -/
def addCollection (schema : Nat) (c : Collection) : Run Unit := do
  let ref ← newCollection c
  setSchema schema (← ofExcept (((← get).layout.schema schema).insert ref))

def addField (ref : CollectionRef) (f : CollectionField) : Run Unit := do
  setCollection ref (← ofExcept (((← get).layout.collections.get ref).insertField f))

def addIndex (ref : CollectionRef) (i : CollectionIndex) : Run Unit := do
  setCollection ref (← ofExcept (((← get).layout.collections.get ref).insertIndex i)).1

def addMapping (m : Mapping) : Run Unit :=
  modify fun w => { w with layout := { w.layout with mappings := w.layout.mappings ++ [m] } }

/-- Writes what is planned: the collection of a root, the columns, the indexes and the mapping. -/
def carryOut (p : Plan) : Run Unit := do
  if p.mapping.ancestors.isEmpty then addCollection p.mapping.schema p.collection
  p.columns.forM (addField p.ref)
  p.indexes.forM (addIndex p.ref)
  addMapping p.mapping

/-- Declares a mapping. Nothing reaches the schema until every name has been checked. -/
def declare (d : Declaration) : Run Handle := do
  let w ← get
  let m ← match d.kind with
    | .plain => do
      let (m, _, _) ← ofExcept (w.layout.describe w.models w.drivers d)
      addMapping m
      pure m
    | .hierarchy => do
      let p ← ofExcept (w.layout.plan w.models w.drivers d)
      carryOut p
      pure p.mapping
  note (.mappingReady m.name m.fields.length (m.parent?.map (·.name)))
  return m.handle

/-- The collection of a mapping; one that stores nothing has a new collection of its name. -/
def collectionOf (m : Mapping) : Run CollectionRef :=
  match m.collection with
  | some c => pure c
  | none => newCollection { name := Text.lower m.name }

def createQuery (m : Mapping) : Run Query := do
  let c ← collectionOf m
  if m.isHierarchy then ofExcept (m.createQuery c)
  else ofExcept (Query.create (.object (.collection c)) .none)

def noteParsed (m : Mapping) (q : Query) : Run Query := do
  note (.parsed m.name q.whereClause)
  return q

/-- Reads a filter with a translator, if one is given. -/
def parseWith (m : Mapping) (filter options : Value) (t : Option Translator) : Run Query := do
  let q ← attempt (createQuery m)
  noteParsed m (← ofExcept (Filter.read q filter options t))

def parse (m : Mapping) (filter : Value) (o : FindOptions) : Run Query := do
  noteParsed m (← ofExcept (m.parse (← collectionOf m) filter o))

/-- A cursor over the instances that a filter asks for. -/
def findEntities (m : Mapping) (filter options : Value) : Run Value := do
  if !m.isHierarchy then return .none
  let o ← ofExcept (m.prepareOptions options)
  match ← find m.driver (← parse m filter o) with
  | .cursor _ inner => .object <$> newCursor (.mapped inner m.id)
  | _ => return .none

/-- The first instance that a filter asks for. -/
def findEntity (m : Mapping) (filter : Value) : Run Value := do
  if !m.isHierarchy then return .none
  let q ← parse m filter { limit := some 1 }
  match ← findOne m.driver q with
  | none => return .none
  | some document => restore m document

/-- The instance that a converted document stands for; one without a collection is its document. -/
def buildEntity (m : Mapping) (v : Value) : Run Value := do
  match m.collection with
  | none => return v
  | some c =>
    let fields := ((valueUnder? v.entryList c.name).map FieldValues.ofValue).getD []
    newEntity (← ofExcept ((← get).layout.build m fields))

/-- The instance that a value stands for, with its number. -/
def instanceOf (m : Mapping) (v : Value) : Run (Nat × Entity) := do
  match v with
  | .object (.entity id _) => return (id, ← entity id)
  | v =>
    throw (.invalid "instance" ("Expected a " ++ m.model.name ++ ", got " ++ v.typeName))

/-- Stores a new instance and writes the generated values back to it. -/
def createEntity (m : Mapping) (v : Value) : Run Unit := do
  if !m.isHierarchy then return ()
  let (id, x) ← instanceOf m v
  let layout := (← get).layout
  let own ← ofExcept (layout.mappingFor m x)
  let ref ← found m.collection
  let c := layout.collections.get ref
  let row ← ofExcept (own.rowOf layout c.name x true)
  let document ← createDocument m.driver (.str c.name) row.toEntries
  let stored ← ofExcept
    (layout.convertRow m.schema .fromStore c.name (Row.ofEntries document.entryList))
  let (x, outcome) := Mapping.refresh stored own.allFields x
  setEntity id x
  ofExcept outcome
  note (.created own.name c.name)

/-- The mapping of an instance, the collection, its row and the key of the row. -/
def keyed (m : Mapping) (v : Value) : Run (Collection × Row × Row) := do
  let (_, x) ← instanceOf m v
  let layout := (← get).layout
  let own ← ofExcept (layout.mappingFor m x)
  let c := layout.collections.get (← found m.collection)
  let row ← ofExcept (own.rowOf layout c.name x false)
  return (c, row, ← ofExcept (own.keyOf row))

def saveEntity (m : Mapping) (v : Value) : Run Unit := do
  if !m.isHierarchy then return ()
  let (c, row, key) ← keyed m v
  saveDocument m.driver (.str c.name) key.toEntries (Mapping.changes row key).toEntries

def removeEntity (m : Mapping) (v : Value) : Run Unit := do
  if !m.isHierarchy then return ()
  let (c, _, key) ← keyed m v
  removeDocument m.driver (.str c.name) key.toEntries

/-- Provisions the collection of a mapping with its indexes. -/
def syncMapping (m : Mapping) : Run Unit := do
  if !m.isHierarchy then return ()
  let ref ← found m.collection
  ensure m.driver (.collection ref)
  ((← get).layout.collections.get ref).indexes.forM fun i => ensure m.driver (.index ref i)

end ModelStore.Run
