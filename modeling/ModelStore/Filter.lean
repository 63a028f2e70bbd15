import ModelStore.Query.Basic
import ModelStore.Validation.Descriptor

/-!
Filters written as nested mappings, read into the condition of a query. Entries of a mapping are a
conjunction; a key that starts with a dollar sign is an operator, any other key is a field, under
which no other field may follow. How a comparison is added to the query is up to a translator.
-/

namespace ModelStore

/-- Adds the comparison of a field with a value to a query. -/
abbrev Translator := Query → Value → Operator → Value → Except Error Query

namespace Filter

/-- Adds the comparison as it is. -/
def unchanged : Translator := fun q field o v => q.operation field (.operator o) v

def isOperatorKey (k : Value) : Bool := k.text?.any (·.startsWith "$")

def isMapping : Value → Bool
  | .dict _ => true
  | _ => false

def notMapping (field v : Value) : Error :=
  .validation [(Issues.location field, ["Expected a mapping, got " ++ v.typeName])]

def notExpressions (field : Value) (o : Operator) : Error :=
  .validation
    [(if field.truthy then field else .str o.value,
      ["'" ++ o.value ++ "' expects a non-empty list of expressions"])]

def operatorNames : List String := sortNames (Operator.all.map Operator.value)

/-- Whether a list holds expressions and nothing else. -/
def areExpressions (vs : List Value) : Bool := !vs.isEmpty && vs.all isMapping

/-- What the key of an entry asks for. -/
inductive Role where
  | field
  | negation
  | all
  | any
  | comparison (o : Operator)
  | unknown
  deriving DecidableEq, Repr

def role (k : Value) : Role :=
  if isOperatorKey k then
    match k.text?.bind Operator.ofValue? with
    | none => .unknown
    | some .not => .negation
    | some .and => .all
    | some .or => .any
    | some o => .comparison o
  else .field

/-- Fills a branch of its own and closes it. -/
def inBranch (start : Query → Except Error Query) (fill : Query → Except Error Query)
    (q : Query) : Except Error Query := do
  (← fill (← start q)).close

/-- The comparison of the field that is open. -/
def compared (t : Translator) (field : Value) (o : Operator) (v : Value) (q : Query) :
    Except Error Query :=
  if field.isNone then .error (.fieldRequired o.value) else t q field o v

/-- Reads an entry by its role: what each role does with the operand is given. -/
def dispatch (t : Translator) (field k v : Value)
    (negation all any under : Query → Except Error Query) (q : Query) : Except Error Query :=
  match role k with
  | .unknown => .error (.unknownOperator k.display operatorNames)
  | .comparison o => compared t field o v q
  | .negation => negation q
  | .all => all q
  | .any => any q
  | .field => if field.isNone then under q else .error (.multipleFields field k)

mutual

/-- Reads a mapping under a field, or under none, into the innermost open branch. -/
def expression (t : Translator) (field : Value) : Value → Query → Except Error Query
  | .dict es, q => entries t field es q
  | v, _ => .error (notMapping field v)
  termination_by structural v => v

/-- Reads a mapping; one of several entries gets a branch of its own. -/
def conjunction (t : Translator) (field : Value) : Value → Query → Except Error Query
  | .dict es, q =>
    if 1 < es.length then inBranch Query.openAnd (fun q => entries t field es q) q
    else entries t field es q
  | v, _ => .error (notMapping field v)
  termination_by structural v => v

def entries (t : Translator) (field : Value) :
    List (Value × Value) → Query → Except Error Query
  | [], q => .ok q
  | (k, v) :: es, q => do entries t field es (← entry t field k v q)
  termination_by structural v => v

/--
Reads one entry. The operand of a conjunction or disjunction is a list of mappings or, under a
field, a mapping whose entries are taken one by one.
-/
def entry (t : Translator) (field k : Value) : Value → Query → Except Error Query
  | .dict es, q =>
    let oneByOne := !field.isNone && !es.isEmpty
    dispatch t field k (.dict es)
      (inBranch Query.openNot fun q => entries t field es q)
      (if oneByOne then inBranch Query.openAnd fun q => entries t field es q
       else fun _ => .error (notExpressions field .and))
      (if oneByOne then inBranch Query.openOr fun q => entries t field es q
       else fun _ => .error (notExpressions field .or))
      (if 1 < es.length then inBranch Query.openAnd fun q => entries t k es q
       else fun q => entries t k es q) q
  | .list vs, q =>
    dispatch t field k (.list vs)
      (fun _ => .error (notMapping field (.list vs)))
      (if areExpressions vs then inBranch Query.openAnd fun q => expressions t field vs q
       else fun _ => .error (notExpressions field .and))
      (if areExpressions vs then inBranch Query.openOr fun q => conjunctions t field vs q
       else fun _ => .error (notExpressions field .or))
      (compared t k .eq (.list vs)) q
  | .tuple vs, q =>
    dispatch t field k (.tuple vs)
      (fun _ => .error (notMapping field (.tuple vs)))
      (if areExpressions vs then inBranch Query.openAnd fun q => expressions t field vs q
       else fun _ => .error (notExpressions field .and))
      (if areExpressions vs then inBranch Query.openOr fun q => conjunctions t field vs q
       else fun _ => .error (notExpressions field .or))
      (compared t k .eq (.tuple vs)) q
  | v, q =>
    dispatch t field k v
      (fun _ => .error (notMapping field v))
      (fun _ => .error (notExpressions field .and))
      (fun _ => .error (notExpressions field .or))
      (compared t k .eq v) q
  termination_by structural v => v

def expressions (t : Translator) (field : Value) : List Value → Query → Except Error Query
  | [], q => .ok q
  | v :: vs, q => do expressions t field vs (← expression t field v q)
  termination_by structural v => v

def conjunctions (t : Translator) (field : Value) : List Value → Query → Except Error Query
  | [], q => .ok q
  | v :: vs, q => do conjunctions t field vs (← conjunction t field v q)
  termination_by structural v => v

end

/-- Options given as a mapping or as options; none are the default ones. -/
def options (v : Value) : Except Error FindOptions :=
  match v with
  | .none => .ok {}
  | _ => (FindOptions.check v).orInvalid

def applyOptions (q : Query) (o : FindOptions) : Query :=
  { q with
    offset := o.skip
    size := o.limit.getD q.size
    orders := q.orders ++ o.orderBy }

/-- Reads a filter into a fresh query, with paging and ordering. -/
def read (fresh : Except Error Query) (filter : Value) (options? : Value) (t : Option Translator) :
    Except Error Query := do
  if !isMapping filter then
    throw (.invalid "user_query" ("Expected a mapping, got " ++ filter.typeName))
  match t with
  | none => throw (.invalid "translator" "Translator must be callable")
  | some t =>
    let o ← options options?
    let q ← expression t .none filter (← fresh).restart
    return applyOptions q o

end Filter

end ModelStore
