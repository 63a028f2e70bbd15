/-!
Stable sorting by a comparison that may fail. The list starts with a run that is in order already,
or strictly in reverse; the other elements are inserted one by one by bisection, each after those
that are not greater.
-/

namespace ModelStore.Sorting

variable {α ε : Type} (less : α → α → Except ε Bool)

/-- The elements that go on in order after `a`, and the rest. -/
def ascending (a : α) : List α → Except ε (List α × List α)
  | [] => .ok ([], [])
  | x :: xs => do
    if ← less x a then return ([], x :: xs)
    let (run, rest) ← ascending x xs
    return (x :: run, rest)

/-- The elements that go on strictly in reverse after `a`, and the rest. -/
def descending (a : α) : List α → Except ε (List α × List α)
  | [] => .ok ([], [])
  | x :: xs => do
    if ← less x a then
      let (run, rest) ← descending x xs
      return (x :: run, rest)
    return ([], x :: xs)

/-- The leading run, in order, and the rest. -/
def leadingRun : List α → Except ε (List α × List α)
  | x :: y :: xs => do
    if ← less y x then
      let (run, rest) ← descending less y xs
      return ((x :: y :: run).reverse, rest)
    let (run, rest) ← ascending less y xs
    return (x :: y :: run, rest)
  | xs => .ok (xs, [])

/-- Inserts an element into a list in order, comparing it with the middle one first. -/
def insert (x : α) (xs : List α) : Except ε (List α) :=
  match _h : xs.drop (xs.length / 2) with
  | [] => .ok [x]
  | y :: after => do
    if ← less x y then return (← insert x (xs.take (xs.length / 2))) ++ y :: after
    return xs.take (xs.length / 2) ++ y :: (← insert x after)
  termination_by xs.length
  decreasing_by
    all_goals
      have := congrArg List.length _h
      simp only [List.length_drop, List.length_cons, List.length_take] at this ⊢
      omega

def sort (xs : List α) : Except ε (List α) := do
  let (run, rest) ← leadingRun less xs
  rest.foldlM (fun sorted x => insert less x sorted) run

end ModelStore.Sorting
