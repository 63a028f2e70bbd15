import ModelStore.Evaluator
import ModelStore.Query.Basic
import ModelStore.Store.Basic
import ModelStore.Store.Sorting

/-!
Searching a store: the rows that satisfy the condition, sorted, cut to size, and reduced to the
selected columns.
-/

namespace ModelStore

namespace Store

/-- Orders missing values after all others, also when the order is reversed. -/
def sortKey (descending : Bool) (v : Value) : Value := .tuple [.bool (descending != v.isNone), v]

/-- Sorts by one column; rows with equal keys stay in place. -/
def sortBy (o : OrderClause) (rows : List Row) : Except Fault (List Row) :=
  let descending := o.order == .descending
  let key (row : Row) : Value := sortKey descending (row.column o.field)
  let less (a b : Row) : Except Fault Bool := (key a).holds .lt (key b)
  if descending then List.reverse <$> Sorting.sort less rows.reverse else Sorting.sort less rows

/-- Sorts by the last order first, so that the first one decides. -/
def sortRows (c : Collection) : List OrderClause → List Row → Except Error (List Row)
  | [], rows => .ok rows
  | o :: os, rows => do
    let rows ← sortRows c os rows
    discard (c.getField (.str o.field))
    Error.ofFault (sortBy o rows)

/-- Drops the first rows and keeps as many as asked for; a negative size keeps all. -/
def slice (offset : Nat) (size : Int) (rows : List Row) : List Row :=
  let rest := rows.drop offset
  if 0 ≤ size then rest.take size.toNat else rest

/-- Keeps the selected columns, or all when none is selected. -/
def project (selected : List String) (row : Row) : Row :=
  row.filter fun e => selected.isEmpty || selected.contains e.1

def satisfying (e : Evaluator) (condition : Clause) : List Row → Except Fault (List Row)
  | [] => .ok []
  | row :: rows => do
    if ← e.satisfies row.columnOf condition then return row :: (← satisfying e condition rows)
    satisfying e condition rows

def select (s : Store) (cs : Catalog) (e : Evaluator) (q : Query) : Except Error (List Row) := do
  if !q.joins.isEmpty then
    throw (.invalid "joins" (s.label ++ " does not support joins"))
  let c ← s.shape cs (.str q.collection.name)
  let found ← Error.ofFault (satisfying e q.whereClause (s.rows q.collection.name))
  let sorted ← sortRows c q.orders found
  return (slice q.offset q.size sorted).map (project q.fields)

end Store

end ModelStore
