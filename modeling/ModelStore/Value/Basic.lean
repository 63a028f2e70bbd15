import ModelStore.Binary64.Basic
import ModelStore.Calendar.DateTime
import ModelStore.Record

/-!
Values: what filters, rows, arguments and model attributes hold. Scalars, containers, the
vocabulary and descriptors are values in full; objects with a state of their own are values by
identity.
-/

namespace ModelStore

inductive DriverKind where
  | memory
  | recording
  | minimal
  deriving DecidableEq, Repr

inductive MappingKind where
  | hierarchy
  | plain
  deriving DecidableEq, Repr

inductive ClauseKind where
  | and
  | or
  | not
  | comparison
  deriving DecidableEq, Repr

/-- An object by kind and number. -/
inductive Handle where
  | collection (c : CollectionRef)
  | schema (id : Nat)
  | query (id : Nat)
  | clause (kind : ClauseKind) (id : Nat)
  | cursor (mapped : Bool) (id : Nat)
  | driver (kind : DriverKind) (id : Nat)
  | evaluator (id : Nat)
  | comparator (o : Operator)
  | mapping (kind : MappingKind) (id : Nat) (name : String)
  | source (id : Nat)
  | transaction (id : Nat)
  | entity (id : Nat) (model : String)
  /-- An object of which only its identity is known. -/
  | unknown (id : Nat)
  deriving DecidableEq, Repr

inductive Value where
  | none
  | bool (b : Bool)
  | int (n : Int)
  | float (x : Binary64)
  | str (s : String)
  | bytes (bs : List UInt8)
  | date (d : Date)
  | datetime (d : DateTime)
  | list (xs : List Value)
  | tuple (xs : List Value)
  | set (xs : List Value)
  | frozenset (xs : List Value)
  /-- Entries in insertion order, keys being distinct. -/
  | dict (entries : List (Value × Value))
  | operator (o : Operator)
  | fieldType (t : FieldType)
  | sortOrder (o : SortOrder)
  | converter (c : Converter)
  | record (r : Record)
  /-- A model class. -/
  | model (name : String) (validated : Bool)
  | object (h : Handle)
  deriving Inhabited

def DriverKind.typeName : DriverKind → String
  | .memory => "InMemoryDriver"
  | .recording => "RecordingDriver"
  | .minimal => "MinimalDriver"

def MappingKind.typeName : MappingKind → String
  | .hierarchy => "ClassHierarchyMapping"
  | .plain => "PlainMapping"

def ClauseKind.typeName : ClauseKind → String
  | .and => "AndClause"
  | .or => "OrClause"
  | .not => "NotClause"
  | .comparison => "Comparison"

def comparatorName : Operator → String
  | .eq => "EqualOperator"
  | .neq => "NotEqualOperator"
  | .isIn => "InOperator"
  | .notIn => "NotInOperator"
  | .regex => "RegexOperator"
  | _ => "OrderingOperator"

def Handle.typeName : Handle → String
  | .collection _ => "Collection"
  | .schema _ => "Schema"
  | .query _ => "Query"
  | .clause kind _ => kind.typeName
  | .cursor mapped _ => if mapped then "MappingCursor" else "InMemoryCursor"
  | .driver kind _ => kind.typeName
  | .evaluator _ => "OperatorEvaluator"
  | .comparator o => comparatorName o
  | .mapping kind _ _ => kind.typeName
  | .source _ => "DataSource"
  | .transaction _ => "Transaction"
  | .entity _ model => model
  | .unknown _ => "Opaque"

namespace Value

def typeName : Value → String
  | .none => "NoneType"
  | .bool _ => "bool"
  | .int _ => "int"
  | .float _ => "float"
  | .str _ => "str"
  | .bytes _ => "bytes"
  | .date _ => "date"
  | .datetime _ => "datetime"
  | .list _ => "list"
  | .tuple _ => "tuple"
  | .set _ => "set"
  | .frozenset _ => "frozenset"
  | .dict _ => "dict"
  | .operator _ => "QueryOperator"
  | .fieldType _ => "FieldType"
  | .sortOrder _ => "SortOrder"
  | .converter c => c.name
  | .record r => r.typeName
  | .model _ validated => if validated then "ModelMetaclass" else "type"
  | .object h => h.typeName

/-- The type name with its module, where that is part of it. -/
def typeLabel : Value → String
  | .date _ => "datetime.date"
  | .datetime _ => "datetime.datetime"
  | v => v.typeName

/-- The text of a string or of a member of the vocabulary, which is a string too. -/
def text? : Value → Option String
  | .str s => some s
  | .operator o => some o.value
  | .fieldType t => some t.value
  | .sortOrder o => some o.value
  | _ => Option.none

/-- The entries of a mapping. -/
def entries? : Value → Option (List (Value × Value))
  | .dict es => some es
  | _ => Option.none

def isNone : Value → Bool
  | .none => true
  | _ => false

/-- Whether a condition on the value holds: it is neither missing, nor zero, nor empty. -/
def truthy : Value → Bool
  | .none => false
  | .bool b => b
  | .int n => n != 0
  | .float x => !x.isZero
  | .str s => !s.isEmpty
  | .bytes bs => !bs.isEmpty
  | .list xs | .tuple xs | .set xs | .frozenset xs => !xs.isEmpty
  | .dict es => !es.isEmpty
  | _ => true

def ofOption {α : Type} (f : α → Value) : Option α → Value
  | some x => f x
  | Option.none => .none

def strs (names : List String) : List Value := names.map .str

end Value

def Sequence.toValue : Sequence → Value
  | .absent => .bool false
  | .anonymous => .bool true
  | .named name => .str name

/-- The clause as a mapping. -/
def OrderClause.toValue (o : OrderClause) : Value :=
  .dict [(.str "field", .str o.field), (.str "order", .str o.order.value)]

/-- The options that are set, as a mapping. -/
def FindOptions.toValue (o : FindOptions) : Value :=
  .dict ([(.str "skip", .int o.skip)] ++ o.limit.toList.map (fun n => (.str "limit", .int n)) ++
    if o.orderBy.isEmpty then []
    else [(.str "order_by", .list (o.orderBy.map OrderClause.toValue))])

/-- The fields of a descriptor, in the order of declaration. -/
def Record.attributes : Record → List (String × Value)
  | .field f =>
    [("name", .str f.name), ("type", .fieldType f.type), ("raw_type", .str f.rawType),
     ("converter", .converter f.converter), ("primary_key", .bool f.primaryKey),
     ("sequence", f.sequence.toValue)]
  | .index i =>
    [("name", .ofOption .str i.name), ("fields", .tuple (Value.strs i.fields)),
     ("unique", .bool i.unique)]
  | .foreignKeyTarget t =>
    [("collection", .object (.collection t.collection)), ("field", .str t.field)]
  | .foreignKey k =>
    [("name", .ofOption .str k.name), ("field", .str k.field),
     ("target", .record (.foreignKeyTarget k.target))]
  | .mappingField f =>
    [("name", .str f.name), ("ref", .str f.ref), ("type", .fieldType f.type),
     ("raw_type", .ofOption .str f.rawType), ("converter", .ofOption .converter f.converter),
     ("primary_key", .bool f.primaryKey), ("sequence", f.sequence.toValue)]
  | .order o => [("field", .str o.field), ("order", .sortOrder o.order)]
  | .options o =>
    [("skip", .int o.skip), ("limit", .ofOption .int o.limit),
     ("order_by", .tuple (o.orderBy.map fun c => .record (.order c)))]

end ModelStore
