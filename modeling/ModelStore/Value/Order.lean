import ModelStore.Fault
import ModelStore.Value.Equality

/-!
The four order comparisons of values. Values of unlike types have no order, which is a fault; a
`nan` is in no order relation.
-/

namespace ModelStore

inductive Relation where
  | lt
  | le
  | gt
  | ge
  deriving DecidableEq, Repr

namespace Relation

def symbol : Relation → String
  | .lt => "<"
  | .le => "<="
  | .gt => ">"
  | .ge => ">="

def accepts : Relation → Ordering → Bool
  | .lt, o => o == .lt
  | .le, o => o != .gt
  | .gt, o => o == .gt
  | .ge, o => o != .lt

end Relation

namespace Value

def unordered (r : Relation) (v w : Value) : Fault :=
  .unordered r.symbol v.typeLabel w.typeLabel

/-- Sets are ordered by inclusion. -/
def setHolds (r : Relation) (xs ys : List Value) : Bool :=
  match r with
  | .le => subset xs ys
  | .lt => subset xs ys && xs.length < ys.length
  | .ge => subset ys xs
  | .gt => subset ys xs && ys.length < xs.length

/-- The order of two scalars; `none` when they are in no relation. -/
def compareScalars (r : Relation) (v w : Value) : Except Fault (Option Ordering) :=
  match v.number?, w.number? with
  | some m, some n => .ok (m.compare? n)
  | _, _ =>
    match v.text?, w.text? with
    | some s, some t => .ok (some (compare s t))
    | _, _ =>
      match v, w with
      | .bytes a, .bytes b => .ok (some (compare (a.map UInt8.toNat) (b.map UInt8.toNat)))
      | .date d, .date e => .ok (some (d.compare e))
      | .datetime d, .datetime e =>
        match d.compare? e with
        | some o => .ok (some o)
        | Option.none => .error .naiveWithAware
      | .date _, .datetime _ | .datetime _, .date _ => .error .dateWithDateTime
      | _, _ => .error (unordered r v w)

mutual

/-- Whether `v` stands in the relation to `w`. -/
def holds (r : Relation) : Value → Value → Except Fault Bool
  | .list xs, .list ys => holdsAll r xs ys
  | .tuple xs, .tuple ys => holdsAll r xs ys
  | .set xs, .set ys | .set xs, .frozenset ys | .frozenset xs, .set ys
  | .frozenset xs, .frozenset ys => .ok (setHolds r xs ys)
  | v, w => do return (← compareScalars r v w).any r.accepts

/-- Sequences are ordered by their first difference, else by length. -/
def holdsAll (r : Relation) : List Value → List Value → Except Fault Bool
  | [], ys => .ok (r.accepts (compare 0 ys.length))
  | xs, [] => .ok (r.accepts (compare xs.length 0))
  | x :: xs, y :: ys => if eq x y then holdsAll r xs ys else holds r x y

end

end Value

end ModelStore
