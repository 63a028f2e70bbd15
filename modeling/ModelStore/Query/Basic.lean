import ModelStore.Clause
import ModelStore.Collection

/-!
Queries under construction. Branches of the condition live in a list and refer to each other by
position; a stack holds the positions of the open branches, the innermost first. The root branch is
at position zero.
-/

namespace ModelStore

/-- A part of a branch: a comparison, another branch, or the negation of another branch. -/
inductive Child where
  | leaf (c : Comparison)
  | branch (index : Nat)
  | negated (index : Nat)

structure Branch where
  isOr : Bool := false
  children : List Child := []

structure Query where
  collection : CollectionRef
  label : String
  fields : List String := []
  /-- Joined queries by number. -/
  joins : List Nat := []
  branches : List Branch := [{}]
  stack : List Nat := []
  orders : List OrderClause := []
  offset : Nat := 0
  /-- The greatest number of results; -1 for all. -/
  size : Int := -1

namespace Query

/-- The clause of the branch at a position; branches refer to later ones only. -/
def freezeBranch (branches : List Branch) : Nat → Nat → Clause
  | 0, _ => .and []
  | fuel + 1, index =>
    let b := (branches[index]?).getD {}
    let children := b.children.map fun
      | .leaf c => .comparison c
      | .branch i => freezeBranch branches fuel i
      | .negated i => .not (freezeBranch branches fuel i)
    if b.isOr then .or children else .and children

def whereClause (q : Query) : Clause := freezeBranch q.branches q.branches.length 0

/-- Closes all branches but the root. -/
def restart (q : Query) : Query := { q with stack := [0] }

/-- The position of the innermost open branch. -/
def current (q : Query) (call : String) : Except Error Nat :=
  match q.stack with
  | [] => .error (.emptyStack call)
  | i :: _ => .ok i

def appendChild (branches : List Branch) (index : Nat) (c : Child) : List Branch :=
  branches.modify index fun b => { b with children := b.children ++ [c] }

/-- Opens a new branch; `link` makes it a child of the current one. -/
def openBranch (q : Query) (call : String) (isOr : Bool) (link : Nat → Child) :
    Except Error Query := do
  let i ← q.current call
  let fresh := q.branches.length
  return { q with
    branches := appendChild (q.branches ++ [{ isOr }]) i (link fresh)
    stack := fresh :: q.stack }

def openAnd (q : Query) : Except Error Query := q.openBranch "and_" false .branch

def openOr (q : Query) : Except Error Query := q.openBranch "or_" true .branch

/-- Opens a conjunction under a negation. -/
def openNot (q : Query) : Except Error Query := q.openBranch "not_" false .negated

/-- Closes the innermost branch; the root stays open. -/
def close (q : Query) : Except Error Query :=
  match q.stack with
  | _ :: i :: rest => .ok { q with stack := i :: rest }
  | _ => .error (.emptyStack "end")

def comparisonNames : List String := sortNames (Operator.comparisons.map Operator.value)

/-- A comparison operator by its text. -/
def comparisonOperator (v : Value) : Except Error Operator :=
  match v.text?.bind Operator.ofValue? with
  | some o =>
    if o.isLogical then .error (.unknownOperator v.plainDisplay comparisonNames) else .ok o
  | none => .error (.unknownOperator v.plainDisplay comparisonNames)

/-- A list is kept as a tuple and a set as a frozen one, so that later changes do not show. -/
def freezeValue : Value → Value
  | .list xs => .tuple xs
  | .set xs => .frozenset xs
  | v => v

def isName (v : Value) : Bool := v.text?.any (!·.isEmpty)

def append (q : Query) (c : Comparison) : Except Error Query := do
  let i ← q.current "operation"
  return { q with branches := appendChild q.branches i (.leaf c) }

/-- Adds a comparison to the innermost open branch. -/
def operation (q : Query) (field operator value : Value) : Except Error Query := do
  discard (q.current "operation")
  if isName field then
    q.append ⟨← comparisonOperator operator, field, freezeValue value⟩
  else .error (.invalid "field" "Field name must be a non-empty string")

def select (q : Query) (field : Value) : Except Error Query :=
  match field.text? with
  | some s =>
    if s.isEmpty then .error (.invalid "field" "Field name must be a non-empty string")
    else .ok { q with fields := if q.fields.contains s then q.fields else q.fields ++ [s] }
  | none => .error (.invalid "field" "Field name must be a non-empty string")

/-- Adds a joined query, which is any query but the one of this number itself. -/
def join (q : Query) (self : Nat) (v : Value) : Except Error Query :=
  match v with
  | .object (.query id) =>
    if id == self then .error (.invalid "query" "A query cannot join itself")
    else .ok { q with joins := q.joins ++ [id] }
  | v => .error (.invalid "query" ("Expected a Query, got " ++ v.typeName))

def orderBy (q : Query) (field order : Value) : Except Error Query := do
  let o ← (OrderClause.check (.dict [(.str "field", field), (.str "order", order)])).orInvalid
  return { q with orders := q.orders ++ [o] }

def skip (q : Query) (v : Value) : Except Error Query :=
  match v with
  | .int n =>
    if 0 ≤ n then .ok { q with offset := n.toNat }
    else .error (.invalid "skip" "Offset must be an integer >= 0")
  | _ => .error (.invalid "skip" "Offset must be an integer >= 0")

def limit (q : Query) (v : Value) : Except Error Query :=
  match v with
  | .int n =>
    if -1 ≤ n then .ok { q with size := n }
    else .error (.invalid "limit" "Size must be an integer >= -1")
  | _ => .error (.invalid "limit" "Size must be an integer >= -1")

/-- A query on a collection, with a label or else named like the collection. -/
def create (collection label : Value) : Except Error Query :=
  match collection with
  | .object (.collection c) =>
    match label, label.text? with
    | .none, _ => .ok { collection := c, label := c.name }
    | _, some s =>
      if s.isEmpty then .error (.invalid "alias" "Alias must be a non-empty string")
      else .ok { collection := c, label := s }
    | _, none => .error (.invalid "alias" "Alias must be a non-empty string")
  | v => .error (.invalid "collection" ("Expected a Collection, got " ++ v.typeName))

def quoted (q : Query) : String :=
  "Query(" ++ Text.quoted q.collection.name ++ ", alias=" ++ Text.quoted q.label ++ ")"

end Query

end ModelStore
