import ModelStore.Event
import ModelStore.Schema.Basic

/-!
Provisioning of a schema in three phases: collections, then indexes, then foreign keys, which need
the collections on both sides. The requests of a phase are under way at the same time. Every one of
them is attempted; when one fails, the phase fails with all its errors in the order of the requests
and no later phase starts.
-/

namespace ModelStore

inductive Request where
  | collection (c : CollectionRef)
  | index (c : CollectionRef) (i : CollectionIndex)
  | foreignKey (c : CollectionRef) (k : CollectionForeignKey)
  deriving DecidableEq, Repr

def Request.phase : Request → Phase
  | .collection _ => .collections
  | .index _ _ => .indexes
  | .foreignKey _ _ => .foreignKeys

/-- A request of a phase, with its number there. -/
abbrev Job := Nat × Request

/-- A job starts, may go on any number of times after it had to wait, and ends. -/
inductive Turn where
  | start
  | resume
  | finish
  deriving DecidableEq, Repr

/--
How jobs are carried out on a state, which holds the collections as they are. `schedule` is the order
in which the jobs of one phase take their turns.
-/
structure Provisioner (σ : Type) where
  catalog : σ → Catalog
  start : Job → StateM σ Unit
  resume : Job → StateM σ Unit
  finish : Job → StateM σ (Except Error Unit)
  note : Event → StateM σ Unit
  schedule : List Job → List (Turn × Job)

/-- The collections as they are now. -/
def Provisioner.current {σ : Type} (p : Provisioner σ) : StateM σ Catalog := p.catalog <$> get

/-- Each call starts when the one before it has ended. -/
def inSequence (jobs : List Job) : List (Turn × Job) :=
  jobs.flatMap fun c => [(.start, c), (.finish, c)]

def errorOf? : Except Error Unit → Option Error
  | .error e => some e
  | .ok () => none

namespace Schema

def requests (cs : Catalog) (s : Schema) : Phase → List Request
  | .collections => s.members.map .collection
  | .indexes => s.members.flatMap fun c => (cs.get c).indexes.map (.index c)
  | .foreignKeys => s.members.flatMap fun c => (cs.get c).foreignKeys.map (.foreignKey c)

/-- Whether the target of a foreign key is the very member of its name. -/
def hasTarget (s : Schema) (k : CollectionForeignKey) : Bool :=
  s.find? k.target.collection.name == some k.target.collection

def foreignTarget (c : CollectionRef) (k : CollectionForeignKey) : Error :=
  .invalid (c.name ++ ".foreign_keys." ++ k.name.getD "None")
    ("Target collection '" ++ k.target.collection.name ++ "' is not part of this schema")

/-- The first foreign key that refers to a collection outside the schema. -/
def foreignTarget? (cs : Catalog) (s : Schema) : Option Error :=
  (s.requests cs .foreignKeys).findSome? fun
    | .foreignKey c k => if s.hasTarget k then none else some (foreignTarget c k)
    | _ => none

variable {σ : Type}

/-- Takes the turns; the outcomes are by number, in the order in which the jobs end. -/
def takeTurns (p : Provisioner σ) : List (Turn × Job) → StateM σ (List (Nat × Except Error Unit))
  | [] => return []
  | (.start, c) :: turns => do
    p.start c
    takeTurns p turns
  | (.resume, c) :: turns => do
    p.resume c
    takeTurns p turns
  | (.finish, c) :: turns => do
    let outcome ← p.finish c
    return (c.1, outcome) :: (← takeTurns p turns)

def numbered (requests : List Request) : List Job := (List.range requests.length).zip requests

/-- Attempts every request; the outcomes are in the order of the requests. -/
def outcomes (p : Provisioner σ) (requests : List Request) : StateM σ (List (Except Error Unit)) := do
  let done ← takeTurns p (p.schedule (numbered requests))
  return (numbered requests).filterMap fun c => done.lookup c.1

/-- Ends a phase, which fails with all errors that there are. -/
def conclude (p : Provisioner σ) (phase : Phase) (count : Nat) (errors : List Error) :
    StateM σ (Except Error Unit) := do
  if errors.isEmpty then return .ok ()
  p.note (.failing phase errors.length count)
  return .error (.syncFailed phase.text errors)

def runPhase (p : Provisioner σ) (phase : Phase) (requests : List Request) :
    StateM σ (Except Error Unit) := do
  if requests.isEmpty then return .ok ()
  p.note (.ensuring phase requests.length)
  conclude p phase requests.length ((← outcomes p requests).filterMap errorOf?)

/-- The requests of a phase are those of the collections as they are when it begins. -/
def runPhases (p : Provisioner σ) (s : Schema) : List Phase → StateM σ (Except Error Unit)
  | [] => return .ok ()
  | phase :: rest => do
    match ← runPhase p phase (s.requests (← p.current) phase) with
    | .ok () => runPhases p s rest
    | .error e => return .error e

/-- Provisions every collection, unless a foreign key refers to one outside the schema. -/
def sync (p : Provisioner σ) (s : Schema) : StateM σ (Except Error Unit) := do
  match s.foreignTarget? (← p.current) with
  | some e => return .error e
  | none => runPhases p s [.collections, .indexes, .foreignKeys]

end Schema

end ModelStore
