import ModelStore.Schema.Provisioning
import ModelStore.Store.Search
import ModelStore.Store.Writing

/-!
Drivers: what schemas and mappings store through. The memory driver keeps rows in a store; the
recording driver also keeps the provisioning requests and refuses those it is told to; the minimal
driver supports nothing that is optional and stores nothing.
-/

namespace ModelStore

inductive Driver where
  /-- Compares by the evaluator of the number, or by the default one. -/
  | memory (store : Store) (evaluator : Option Nat)
  | recording (store : Store) (refused : List String) (calls : List (Phase × Option String))
  | minimal

namespace Driver

def kind : Driver → DriverKind
  | .memory _ _ => .memory
  | .recording _ _ _ => .recording
  | .minimal => .minimal

def typeName (d : Driver) : String := d.kind.typeName

def ofEvaluator (evaluator : Option Nat) : Driver :=
  .memory { label := DriverKind.memory.typeName } evaluator

def ofRefused (refused : List String) : Driver :=
  .recording { label := DriverKind.recording.typeName } refused []

def store? : Driver → Option Store
  | .memory s _ | .recording s _ _ => some s
  | .minimal => none

def setStore (d : Driver) (s : Store) : Driver :=
  match d with
  | .memory _ evaluator => .memory s evaluator
  | .recording _ refused calls => .recording s refused calls
  | .minimal => .minimal

def coerceType (d : Driver) (type : Value) : Except Error String :=
  match d.store? with
  | some s => s.coerceType type
  | none => .ok "ANY"

def createConverter (d : Driver) (rawType : Value) : Except Error Converter :=
  match d.store? with
  | some s => s.createConverter rawType
  | none => .ok .identity

/-- The name of what is provisioned, under which the request is recorded. -/
def requestName : Request → Option String
  | .collection c => some c.name
  | .index _ i => i.name
  | .foreignKey _ k => k.name

def provision (s : Store) (cs : Catalog) : Request → Except Error Store
  | .collection c => .ok (s.ensureCollection c)
  | .index c i => s.ensureIndex cs c i
  | .foreignKey c k => s.ensureForeignKey cs c k

def unsupported {α : Type} (d : Driver) (method : String) : Except Error α :=
  .error (.notImplemented d.typeName method)

def provisionStore (d : Driver) (s : Store) (cs : Catalog) (r : Request) :
    Except Error Unit × Driver :=
  match provision s cs r with
  | .ok s => (.ok (), d.setStore s)
  | .error e => (.error e, d)

/-- Carries out a provisioning request. -/
def ensure (d : Driver) (cs : Catalog) (r : Request) : Except Error Unit × Driver :=
  match d with
  | .memory s _ => d.provisionStore s cs r
  | .recording s refused calls =>
    let name := requestName r
    let d : Driver := .recording s refused (calls ++ [(r.phase, name)])
    if name.any refused.contains then (.error (.runtime ("cannot create " ++ name.getD "None")), d)
    else d.provisionStore s cs r
  | .minimal =>
    match r with
    | .collection _ => (.ok (), d)
    | .index _ _ => (d.unsupported "ensure_index", d)
    | .foreignKey _ _ => (d.unsupported "ensure_foreign_key", d)

/-- The documents that a query asks for. -/
def find (d : Driver) (cs : Catalog) (e : Evaluator) (q : Query) : Except Error (List Value) :=
  match d.store? with
  | some s => List.map (Row.document · q.collection.name) <$> s.select cs e q
  | none => .ok []

/-- The first document that a query asks for. -/
def findOne (d : Driver) (cs : Catalog) (e : Evaluator) (q : Query) :
    Except Error (Option Value) :=
  List.head? <$> d.find cs e q

/-- Stores a document and answers it with the generated values. -/
def create (d : Driver) (cs : Catalog) (collection : Value) (data : List (Value × Value)) :
    Except Error Value × Driver :=
  match d.store? with
  | some s =>
    let (outcome, s) := s.create cs collection data
    (Row.toValue <$> outcome, d.setStore s)
  | none => (.ok (.dict data), d)

def save (d : Driver) (cs : Catalog) (collection : Value) (key data : List (Value × Value)) :
    Except Error Driver :=
  match d.store? with
  | some s => d.setStore <$> s.save cs collection key data
  | none => .ok d

def remove (d : Driver) (cs : Catalog) (collection : Value) (key : List (Value × Value)) :
    Except Error Driver :=
  match d.store? with
  | some s => d.setStore <$> s.remove cs collection key
  | none => .ok d

def commit (d : Driver) : Except Error Driver :=
  match d.store? with
  | some s => .ok (d.setStore s.commit)
  | none => d.unsupported "commit"

def rollback (d : Driver) : Except Error Driver :=
  match d.store? with
  | some s => .ok (d.setStore s.rollback)
  | none => d.unsupported "rollback"

def close (d : Driver) : Driver :=
  match d.store? with
  | some s => d.setStore s.close
  | none => d

end Driver

end ModelStore
