import ModelStore.Value.Text

/-!
Conditions as trees: comparisons of a field with a value, combined by conjunction, disjunction and
negation. A child that is no condition is kept as a foreign value.
-/

namespace ModelStore

structure Comparison where
  operator : Operator
  field : Value
  value : Value

inductive Clause where
  | and (children : List Clause)
  | or (children : List Clause)
  | not (child : Clause)
  | comparison (c : Comparison)
  | foreign (v : Value)
  deriving Inhabited

namespace Clause

def kind? : Clause → Option ClauseKind
  | .and _ => some .and
  | .or _ => some .or
  | .not _ => some .not
  | .comparison _ => some .comparison
  | .foreign _ => none

mutual

/-- The tree written as nested calls. -/
def quoted : Clause → String
  | .and cs => quotedCall "AndClause" [("children", quotedTuple (quotedAll cs))]
  | .or cs => quotedCall "OrClause" [("children", quotedTuple (quotedAll cs))]
  | .not c => quotedCall "NotClause" [("child", quoted c)]
  | .comparison c =>
    quotedCall "Comparison"
      [("operator", c.operator.quoted), ("field", c.field.quoted), ("value", c.value.quoted)]
  | .foreign v => v.quoted

def quotedAll : List Clause → List String
  | [] => []
  | c :: cs => quoted c :: quotedAll cs

end

/-- A tuple is written as a list. -/
def plainValue : Value → Value
  | .tuple xs => .list xs
  | v => v

mutual

/-- The tree as nested mappings. -/
def toValue : Clause → Value
  | .and cs => .dict [(.str "operator", .str "$and"), (.str "children", .list (toValues cs))]
  | .or cs => .dict [(.str "operator", .str "$or"), (.str "children", .list (toValues cs))]
  | .not c => .dict [(.str "operator", .str "$not"), (.str "child", toValue c)]
  | .comparison c =>
    .dict [(.str "operator", .str c.operator.value), (.str "field", c.field),
      (.str "value", plainValue c.value)]
  | .foreign v => v

def toValues : List Clause → List Value
  | [] => []
  | c :: cs => toValue c :: toValues cs

end

end Clause

end ModelStore
