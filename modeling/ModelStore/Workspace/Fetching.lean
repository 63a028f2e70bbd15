import ModelStore.Mapping.Reading
import ModelStore.Workspace.Storage

/-!
Fetching from cursors, one item at a time: the next item is asked for when the one before has been
handled. A missing item ends the iteration.
-/

namespace ModelStore

/-- What an iteration did, in order. -/
inductive Fetching where
  | fetch
  | handle
  | finish
  deriving DecidableEq, Repr

/-- An iteration: the items handled, the steps taken, and how it ended. -/
structure Trace where
  items : List Value
  steps : List Fetching
  outcome : Except Error Unit

/-- A cursor to fetch from: one that stores its items, or one that transforms those of another. -/
inductive Reader where
  | stored (id : Nat)
  | mapped (inner : Reader) (transform : Value → Run Value)

namespace Reader

open Run hiding ofExcept

/-- The cursor that stores the items. -/
def base : Reader → Nat
  | stored id => id
  | mapped inner _ => inner.base

/-- The items that a cursor has stored, and whether it is closed. -/
def content (id : Nat) : Run (List Value × Bool) := do
  match ← found (← get).cursors[id]? with
  | .stored items closed => return (items, closed)
  | .mapped _ _ => throw .assertion

/-- The next item, or nothing at the end; a closed cursor is at its end. -/
def next : Reader → Run Value
  | stored id => do
    match ← content id with
    | (v :: vs, false) => do
      setCursor id (.stored vs false)
      return v
    | _ => return .none
  | mapped inner transform => do
    let v ← inner.next
    if v.isNone then return .none else transform v

def isClosed (r : Reader) : Run Bool := do
  let (_, closed) ← content r.base
  return closed

/-- Closes a cursor; what was left of it is gone. -/
def close (r : Reader) : Run Unit := setCursor r.base (.stored [] true)

/-- Ends a block that uses a cursor. -/
def leave (r : Reader) (outcome : Except Error Unit) : Run Unit := do
  unless ← r.isClosed do r.close
  Run.ofExcept outcome

/-- Hands the next items to the body of a loop, at most as many as `fuel` says. The body answers
whether the loop goes on. -/
def loopFor (r : Reader) (body : Nat → Value → Run Bool) : Nat → Nat → Run Trace
  | 0, _ => return ⟨[], [], .ok ()⟩
  | fuel + 1, count => do
    match ← attempt r.next with
    | .error e => return ⟨[], [], .error e⟩
    | .ok v =>
      if v.isNone then return ⟨[], [.finish], .ok ()⟩
      match ← attempt (body count v) with
      | .error e => return ⟨[v], [.fetch, .handle], .error e⟩
      | .ok false => return ⟨[v], [.fetch, .handle], .ok ()⟩
      | .ok true => do
        let t ← r.loopFor body fuel (count + 1)
        return ⟨v :: t.items, .fetch :: .handle :: t.steps, t.outcome⟩

/-- A loop over the items that are left, each with its number. -/
def loop (r : Reader) (body : Nat → Value → Run Bool) : Run Trace := do
  let (items, _) ← content r.base
  r.loopFor body (items.length + 1) 1

/-- Hands every item that is left to a handler, with its number. -/
def each (r : Reader) (handle : Nat → Value → Run Unit) : Run Trace :=
  r.loop fun n v => do
    handle n v
    return true

/-- The items that are left. -/
def toList (r : Reader) : Run (List Value) := do
  let t ← r.each fun _ _ => return ()
  Run.ofExcept t.outcome
  return t.items

end Reader

namespace Run

/-- The instance that a stored document stands for, through a mapping. -/
def restore (m : Mapping) (document : Value) : Run Value := do
  newEntity (← ofExcept ((← get).layout.restore m (← found m.collection) document))

def restoreBy (id : Nat) (document : Value) : Run Value := do restore (← mapping id) document

/-- The cursor with a number. One of a mapping restores the items of a cursor that stores them. -/
def reader (id : Nat) : Run Reader := do
  match ← found (← get).cursors[id]? with
  | .stored _ _ => return .stored id
  | .mapped inner m => do
    let _ ← Reader.content inner
    return .mapped (.stored inner) (restoreBy m)

def next (id : Nat) : Run Value := do (← reader id).next

def isClosed (id : Nat) : Run Bool := do (← reader id).isClosed

def closeCursor (id : Nat) : Run Unit := do (← reader id).close

def leaveCursor (id : Nat) (outcome : Except Error Unit) : Run Unit := do
  (← reader id).leave outcome

/-- Hands every item of a cursor that is left to a handler, with its number. -/
def each (id : Nat) (handle : Nat → Value → Except Error Unit) : Run Trace := do
  (← reader id).each fun n v => ofExcept (handle n v)

/-- The items of a cursor that are left. -/
def toList (id : Nat) : Run (List Value) := do (← reader id).toList

end Run

end ModelStore
