import ModelStore.Driver
import ModelStore.Mapping.Declaration
import ModelStore.Source

/-!
The workspace: every object that has a state of its own, by kind and number, and the journal. An
operation on it is a state transformer that may fail; what it did before it failed stays done.
-/

namespace ModelStore

/-- Results that are fetched one by one: stored items, or those of another cursor as instances. -/
inductive Cursor where
  | stored (items : List Value) (closed : Bool)
  | mapped (inner mapping : Nat)

structure Workspace where
  layout : Layout := {}
  models : List Model := []
  drivers : List Driver := []
  evaluators : List Evaluator := []
  queries : List Query := []
  clauses : List Clause := []
  cursors : List Cursor := []
  sources : List Source := []
  /-- The driver of every transaction. -/
  transactions : List Nat := []
  entities : List Entity := []
  journal : List Event := []
  /-- The number of objects of which only the identity is known. -/
  unknowns : Nat := 0

abbrev Run := ExceptT Error (StateM Workspace)

namespace Run

def ofExcept {α : Type} : Except Error α → Run α
  | .ok a => pure a
  | .error e => throw e

def note (e : Event) : Run Unit := modify fun w => { w with journal := w.journal ++ [e] }

/-- An object that a value stands for; `expected` is the type that it should have. -/
def found {α : Type} (a : Option α) : Run α :=
  match a with
  | some a => pure a
  | none => throw .assertion

def driver (id : Nat) : Run Driver := do found (← get).drivers[id]?

def query (id : Nat) : Run Query := do found (← get).queries[id]?

def mapping (id : Nat) : Run Mapping := do found (← get).layout.mappings[id]?

def source (id : Nat) : Run Source := do found (← get).sources[id]?

def entity (id : Nat) : Run Entity := do found (← get).entities[id]?

def setDriver (id : Nat) (d : Driver) : Run Unit :=
  modify fun w => { w with drivers := w.drivers.set id d }

def setQuery (id : Nat) (q : Query) : Run Unit :=
  modify fun w => { w with queries := w.queries.set id q }

def setEntity (id : Nat) (x : Entity) : Run Unit :=
  modify fun w => { w with entities := w.entities.set id x }

def setCursor (id : Nat) (c : Cursor) : Run Unit :=
  modify fun w => { w with cursors := w.cursors.set id c }

def setSource (id : Nat) (s : Source) : Run Unit :=
  modify fun w => { w with sources := w.sources.set id s }

def newCollection (c : Collection) : Run CollectionRef :=
  modifyGet fun w =>
    let (layout, ref) := w.layout.addCollection c
    (ref, { w with layout })

def setCollection (ref : CollectionRef) (c : Collection) : Run Unit :=
  modify fun w =>
    { w with layout := { w.layout with collections := w.layout.collections.set ref.id c } }

def setSchema (id : Nat) (s : Schema) : Run Unit :=
  modify fun w => { w with layout := { w.layout with schemas := w.layout.schemas.set id s } }

def newSchema : Run Nat :=
  modifyGet fun w =>
    (w.layout.schemas.length,
      { w with layout := { w.layout with schemas := w.layout.schemas ++ [{}] } })

def newDriver (d : Driver) : Run Handle :=
  modifyGet fun w => (.driver d.kind w.drivers.length, { w with drivers := w.drivers ++ [d] })

def newEvaluator (e : Evaluator) : Run Nat :=
  modifyGet fun w => (w.evaluators.length, { w with evaluators := w.evaluators ++ [e] })

def newQuery (q : Query) : Run Nat :=
  modifyGet fun w => (w.queries.length, { w with queries := w.queries ++ [q] })

/-- A clause as a value; what is no clause stays the value that it is. -/
def newClause (c : Clause) : Run Value :=
  match c, c.kind? with
  | .foreign v, _ => pure v
  | _, none => pure .none
  | c, some kind =>
    modifyGet fun w =>
      (.object (.clause kind w.clauses.length), { w with clauses := w.clauses ++ [c] })

def newCursor (c : Cursor) : Run Handle :=
  modifyGet fun w =>
    let mapped := match c with
      | .stored _ _ => false
      | .mapped _ _ => true
    (.cursor mapped w.cursors.length, { w with cursors := w.cursors ++ [c] })

def newSource (s : Source) : Run Nat :=
  modifyGet fun w => (w.sources.length, { w with sources := w.sources ++ [s] })

def newTransaction (driver : Nat) : Run Nat :=
  modifyGet fun w =>
    (w.transactions.length, { w with transactions := w.transactions ++ [driver] })

def newEntity (x : Entity) : Run Value :=
  modifyGet fun w =>
    (.object (.entity w.entities.length x.model.name), { w with entities := w.entities ++ [x] })

def newUnknown : Run Value :=
  modifyGet fun w => (.object (.unknown w.unknowns), { w with unknowns := w.unknowns + 1 })

end Run

namespace Workspace

/-- The clause that a value stands for, or that it is none. -/
def clauseOf (w : Workspace) (v : Value) : Clause :=
  match v with
  | .object (.clause _ id) => (w.clauses[id]?).getD (.foreign v)
  | _ => .foreign v

/-- The evaluator that a driver compares by. -/
def evaluatorOf (w : Workspace) : Driver → Evaluator
  | .memory _ (some id) => (w.evaluators[id]?).getD Evaluator.default
  | _ => Evaluator.default

end Workspace

end ModelStore
