import ModelStore.Workspace.Basic

/-! Storing through a driver: provisioning, documents and transactions. -/

namespace ModelStore.Run

/-- Reports what was provisioned; drivers without a store do not. -/
def noteEnsured (d : Driver) (r : Request) : Run Unit :=
  match d.store? with
  | some _ => note (.ensured r.phase ((Driver.requestName r).getD "None"))
  | none => pure ()

def ensure (driverId : Nat) (r : Request) : Run Unit := do
  let d ← driver driverId
  let (outcome, d) := d.ensure (← get).layout.collections r
  setDriver driverId d
  ofExcept outcome
  noteEnsured d r

/-- An operation by its outcome, which is not an error of the operation itself. -/
def attempt {α : Type} (a : Run α) : Run (Except Error α) :=
  tryCatch (Except.ok <$> a) fun e => pure (.error e)

/-- Drivers never wait: a call does all its work at its end. -/
def provisioner (driverId : Nat) : Provisioner Workspace where
  catalog w := w.layout.collections
  start _ := pure ()
  resume _ := pure ()
  finish c := (ensure driverId c.2).run
  note e := discard (note e).run
  schedule := inSequence

def syncSchema (schemaId driverId : Nat) : Run Unit := do
  ExceptT.mk (((← get).layout.schema schemaId).sync (provisioner driverId))

def findDocuments (driverId : Nat) (q : Query) : Run (List Value) := do
  let w ← get
  let d ← driver driverId
  ofExcept (d.find w.layout.collections (w.evaluatorOf d) q)

def find (driverId : Nat) (q : Query) : Run Handle := do
  newCursor (.stored (← findDocuments driverId q) false)

def findOne (driverId : Nat) (q : Query) : Run (Option Value) := do
  let w ← get
  let d ← driver driverId
  ofExcept (d.findOne w.layout.collections (w.evaluatorOf d) q)

def createDocument (driverId : Nat) (collection : Value) (data : List (Value × Value)) :
    Run Value := do
  let (outcome, d) := (← driver driverId).create (← get).layout.collections collection data
  setDriver driverId d
  ofExcept outcome

/-- Replaces a driver by the outcome of an operation, if it succeeds. -/
def update (driverId : Nat) (f : Catalog → Driver → Except Error Driver) : Run Unit := do
  setDriver driverId (← ofExcept (f (← get).layout.collections (← driver driverId)))

def saveDocument (driverId : Nat) (collection : Value) (key data : List (Value × Value)) :
    Run Unit :=
  update driverId fun cs d => d.save cs collection key data

def removeDocument (driverId : Nat) (collection : Value) (key : List (Value × Value)) : Run Unit :=
  update driverId fun cs d => d.remove cs collection key

/-- The stored rows of a collection, or the committed ones. -/
def rows (driverId : Nat) (collection : Value) (committed : Bool) : Run Value := do
  let s ← found (← driver driverId).store?
  let c ← ofExcept (s.shape (← get).layout.collections collection)
  let tables := if committed then s.committed else s.working
  return .list ((Store.rowsOf tables c.name).map Row.toValue)

def commit (driverId : Nat) : Run Unit := update driverId fun _ d => d.commit

def rollback (driverId : Nat) : Run Unit := update driverId fun _ d => d.rollback

def close (driverId : Nat) : Run Unit := update driverId fun _ d => .ok d.close

/-- Ends the block of a transaction: it commits, or rolls back because of an error. -/
def leaveTransaction (driverId : Nat) : Except Error Unit → Run Unit
  | .ok () => commit driverId
  | .error e => do
    rollback driverId
    note (.rolledBack e)
    throw e

/-- Ends a block that uses a data source. -/
def leaveSource (driverId : Nat) (outcome : Except Error Unit) : Run Unit := do
  close driverId
  ofExcept outcome

end ModelStore.Run
