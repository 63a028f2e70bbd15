import ModelStore.Clause
import ModelStore.Error
import ModelStore.Pattern.Matching
import ModelStore.Value.Membership
import ModelStore.Value.Order

/-!
Evaluation of conditions on rows. An evaluator maps operators to comparisons of a field's value with
the value of the condition; it can be extended and each operator replaced.
-/

namespace ModelStore

/-- Compares the value of a field, `none` when the field is absent, with the one of a condition. -/
abbrev Comparator := Value → Value → Except Fault Bool

/-- Operators with their comparators, one for each operator. -/
abbrev Evaluator := Assoc Operator Comparator

/-- An operator by its text. -/
def Operator.ofText (v : Value) : Except Fault Operator :=
  match v.text?.bind Operator.ofValue? with
  | some o => .ok o
  | none => .error (.unknownMember v.quoted "QueryOperator")

namespace Comparator

def equal : Comparator := fun v w => .ok (v == w)

def notEqual : Comparator := fun v w => .ok (!(v == w))

/-- A missing value is in no order relation. -/
def ordered (r : Relation) : Comparator := fun v w => if v.isNone then .ok false else v.holds r w

def member : Comparator := fun v w => v.isMember w

def notMember : Comparator := fun v w => (!·) <$> v.isMember w

/-- Searches the text of the value for a pattern; a missing value has no text. -/
def pattern : Comparator := fun v w =>
  if v.isNone then .ok false
  else match Pattern.read w.display with
    | .ok p => .ok (p.occursIn v.display)
    | .error .malformed => .error .pattern
    | .error .repetition => .error .patternRepetition

/-- Equality of the texts in lower case. -/
def equalIgnoringCase : Comparator := fun v w =>
  .ok (Text.lower v.display == Text.lower w.display)

/-- The comparator that an operator has by default. -/
def ofOperator? : Operator → Option Comparator
  | .eq => some equal
  | .neq => some notEqual
  | .gt => some (ordered .gt)
  | .gte => some (ordered .ge)
  | .lt => some (ordered .lt)
  | .lte => some (ordered .le)
  | .isIn => some member
  | .notIn => some notMember
  | .regex => some pattern
  | .and | .or | .not => none

/-- Whether the operator is one of the four order relations. -/
def isOrdering : Operator → Bool
  | .gt | .gte | .lt | .lte => true
  | _ => false

/-- The order relation that a value names. -/
def ordering (name : Value) : Except Fault Operator :=
  match name.unhashable?, name.text?.bind Operator.ofValue? with
  | some type, _ => .error (.unhashable type)
  | none, some o => if isOrdering o then .ok o else .error (.notOrdering name.display)
  | none, none => .error (.notOrdering name.display)

end Comparator

namespace Evaluator

/-- Registers an operator, in place of one registered before. -/
def register (e : Evaluator) (o : Operator) (c : Comparator) : Evaluator := Assoc.put e o c

def registerDefault (e : Evaluator) (o : Operator) : Evaluator :=
  match Comparator.ofOperator? o with
  | some c => e.register o c
  | none => e

def default : Evaluator := Operator.comparisons.foldl registerDefault []

def compare (e : Evaluator) (name v w : Value) : Except Fault Bool :=
  match (name.text?.bind Operator.ofValue?).bind (Assoc.get? e) with
  | some c => c v w
  | none =>
    match name.unhashable? with
    | some type => .error (.unhashable type)
    | none => .error (.unsupportedOperator name.display)

mutual

/--
Whether a row satisfies the condition; `column` gives the value of a field. Conjunctions stop at the
first failure and disjunctions at the first success.
-/
def satisfies (e : Evaluator) (column : Value → Except Fault Value) :
    Clause → Except Fault Bool
  | .comparison c => do e.compare (.operator c.operator) (← column c.field) c.value
  | .and cs => satisfiesAll e column cs
  | .or cs => satisfiesAny e column cs
  | .not c => do return !(← satisfies e column c)
  | .foreign v => .error (.notClause v.typeName)

def satisfiesAll (e : Evaluator) (column : Value → Except Fault Value) :
    List Clause → Except Fault Bool
  | [] => .ok true
  | c :: cs => do if ← satisfies e column c then satisfiesAll e column cs else return false

/-- An empty disjunction holds of nothing. -/
def satisfiesAny (e : Evaluator) (column : Value → Except Fault Value) :
    List Clause → Except Fault Bool
  | [] => .ok false
  | c :: cs => do if ← satisfies e column c then return true else satisfiesAny e column cs

end

/-- The value under a key of a row, or of nothing. -/
def columnOf (row : List (Value × Value)) (field : Value) : Except Fault Value := do
  field.hashable
  return ((row.find? fun e => e.1 == field).map (·.2)).getD .none

def «matches» (e : Evaluator) (clause : Clause) (row : List (Value × Value)) :
    Except Fault Bool :=
  e.satisfies (columnOf row) clause

end Evaluator

end ModelStore
