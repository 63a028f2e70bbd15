import ModelStore.Assoc
import ModelStore.Fault
import ModelStore.Text.Case
import ModelStore.Text.Similarity
import ModelStore.Value.Equality
import ModelStore.Value.Membership

/-!
Errors by cause. The name of an error, its message, its parts and the more general errors it counts
as are functions of the cause; a missing element comes with the names closest to it.
-/

namespace ModelStore

/-- Messages by location, in the order in which they arose. -/
abbrev Issues := List (Value × List String)

/-- What can be looked up by name. -/
inductive ElementKind where
  | element
  | field
  | index
  | foreignKey
  | collection
  | mapping
  | document
  deriving DecidableEq, Repr

inductive Error where
  | fault (f : Fault)
  | general (arguments : List Value)
  | query (arguments : List Value)
  | validation (issues : Issues)
  | notFound (kind : ElementKind) (name : Value) (owner : Option String) (available : List String)
  | duplicate (kind name : String) (owner : Option String)
  | notImplemented (owner method : String)
  | unsupportedType (type : Value) (driver : Option String)
  | syncFailed (phase : String) (errors : List Error)
  | emptyStack (call : String)
  | userQuery (text : String) (path : Value)
  | multipleFields (branch field : Value)
  | fieldRequired (operator : String)
  | unknownOperator (operator : String) (valid : List String)
  | missingDiscriminator (mapping ancestor discriminator : String)
  /-- A failure outside the store. -/
  | runtime (text : String)
  /-- A model or descriptor built from unfit arguments. -/
  | invalidRecord (issues : Issues)
  /-- A promise of the caller that does not hold. -/
  | assertion

namespace ElementKind

def text : ElementKind → String
  | .element => "element"
  | .field => "field"
  | .index => "index"
  | .foreignKey => "foreign key"
  | .collection => "collection"
  | .mapping => "mapping"
  | .document => "document"

def errorName : ElementKind → String
  | .element => "NotFoundError"
  | .field => "FieldNotFoundError"
  | .index => "IndexNotFoundError"
  | .foreignKey => "ForeignKeyNotFoundError"
  | .collection => "CollectionNotFoundError"
  | .mapping => "MappingNotFoundError"
  | .document => "DocumentNotFoundError"

def code : ElementKind → String
  | .element => "ELEMENT_NOT_FOUND"
  | .field => "FIELD_NOT_FOUND"
  | .index => "INDEX_NOT_FOUND"
  | .foreignKey => "FOREIGN_KEY_NOT_FOUND"
  | .collection => "COLLECTION_NOT_FOUND"
  | .mapping => "MAPPING_NOT_FOUND"
  | .document => "DOCUMENT_NOT_FOUND"

end ElementKind

def sortNames (names : List String) : List String := names.mergeSort fun a b => !decide (b < a)

namespace Issues

def root : String := "__root__"

def single (location : String) (text : String) : Issues := [(.str location, [text])]

/-- The location, or the root when there is none. -/
def location (path : Value) : Value := if path.truthy then path else .str root

def toValue (issues : Issues) : Value :=
  .dict (issues.map fun (k, texts) => (k, .list (Value.strs texts)))

/-- Messages without a location are joined; all others are shown with their locations. -/
def message (issues : Issues) : String :=
  match issues with
  | [(k, texts)] =>
    if k == .str root && !texts.isEmpty then "; ".intercalate texts
    else issues.toValue.quoted
  | _ => issues.toValue.quoted

/-- Adds a message at a location, after those already there. -/
def add : Issues → Value → String → Issues
  | [], k, text => [(k, [text])]
  | (k, texts) :: rest, k', text =>
    if k == k' then (k, texts ++ [text]) :: rest else (k, texts) :: add rest k' text

end Issues

/-- The symbols of a name: its characters, or elements of which some are characters. -/
def nameSymbols (name : Value) : Except Fault (List (Option Char)) := do
  let symbol (v : Value) : Option Char :=
    match v with
    | .str s =>
      match s.toList with
      | [c] => some c
      | _ => none
    | _ => none
  return (← name.items).map symbol

def suggestions (name : Value) (available : List String) (count : Nat) : List String :=
  match nameSymbols name with
  | .ok word => Text.closeMatches word available count
  | .error _ => []

/-- `text` followed by the owner, if one is given. -/
def ownedBy (text before : String) : Option String → String
  | some owner => if owner.isEmpty then text else text ++ before ++ owner ++ "'"
  | none => text

namespace Error

/-- A fault of an operation on values as an error. -/
def ofFault {α : Type} : Except Fault α → Except Error α
  | .ok a => .ok a
  | .error f => .error (.fault f)

/-- The error for a missing element; a name that has no symbols is itself at fault. -/
def missing (kind : ElementKind) (name : Value) (owner : Option String)
    (available : List String) : Error :=
  match nameSymbols name with
  | .ok _ => .notFound kind name owner (sortNames available)
  | .error f => .fault f

/-- The error for an operator that is none of the valid ones; one without symbols is itself at fault. -/
def unrecognised (operator : Value) (valid : List String) : Error :=
  match nameSymbols operator with
  | .ok _ => .unknownOperator operator.plainDisplay (sortNames valid)
  | .error f => .fault f

def invalid (location text : String) : Error := .validation (Issues.single location text)

def notFoundMessage (kind : ElementKind) (name : Value) (owner : Option String)
    (available : List String) : String :=
  let found := suggestions name available 5
  let head := ownedBy (Text.capitalize kind.text ++ " '" ++ name.display ++ "' not found") " in '"
    owner ++ "."
  let close :=
    if found.isEmpty then [] else "Did you mean one of these?" :: found.map ("  • " ++ ·)
  let preview := ", ".intercalate (available.take 15) ++
    (if 15 < available.length then ", ..." else "")
  let rest := if available.isEmpty then [] else ["Available: " ++ preview]
  "\n".intercalate (head :: close ++ rest)

def unknownOperatorMessage (operator : String) (valid : List String) : String :=
  let found := suggestions (.str operator) valid 3
  "Unknown operator: '" ++ operator ++ "'." ++
    (if found.isEmpty then "" else " Did you mean: " ++ ", ".intercalate found ++ "?")

def multipleFieldsText (branch field : Value) : String :=
  "Only one field authorized per tree branch: '" ++ field.display ++ "' found under '" ++
    branch.display ++ "'"

def fieldRequiredText (operator : String) : String :=
  "Field required for operator '" ++ operator ++ "'"

def missingDiscriminatorText (mapping ancestor discriminator : String) : String :=
  "Mapping '" ++ mapping ++ "' must provide a value for discriminator '" ++ discriminator ++
    "' of '" ++ ancestor ++ "'"

def userQueryMessage (text : String) (path : Value) : String :=
  if path.truthy then text ++ " (at " ++ path.display ++ ")" else text

/-- A single argument is shown as it is, several as a tuple. -/
def generalMessage : List Value → String
  | [] => ""
  | [v] => v.display
  | vs => (Value.tuple vs).quoted

mutual

def message : Error → String
  | .fault f => f.message
  | .general arguments | .query arguments => generalMessage arguments
  | .validation issues | .invalidRecord issues => issues.message
  | .notFound kind name owner available => notFoundMessage kind name owner available
  | .duplicate kind name owner =>
    ownedBy (Text.capitalize kind ++ " '" ++ name ++ "' already present") " in '" owner
  | .notImplemented owner method => owner ++ "." ++ method ++ "() is not implemented"
  | .unsupportedType type driver =>
    "Type '" ++ type.display ++ "' is not supported" ++
      (match driver with
       | some d => if d.isEmpty then "" else " by " ++ d
       | none => "")
  | .syncFailed phase errors =>
    "Schema sync failed while ensuring " ++ phase ++ ": " ++ toString errors.length ++
      " error(s). First error: " ++ firstMessage errors
  | .emptyStack call => "Empty where-clause stack: cannot call " ++ call ++ "()"
  | .userQuery text path => userQueryMessage text path
  | .multipleFields branch field => userQueryMessage (multipleFieldsText branch field) branch
  | .fieldRequired operator => fieldRequiredText operator
  | .unknownOperator operator valid => unknownOperatorMessage operator valid
  | .missingDiscriminator mapping ancestor discriminator =>
    missingDiscriminatorText mapping ancestor discriminator
  | .runtime text => text
  | .assertion => ""

def firstMessage : List Error → String
  | [] => "unknown"
  | e :: _ => e.message

end

def messages : List Error → List String
  | [] => []
  | e :: es => e.message :: messages es

/-- The name of the error. -/
def name : Error → String
  | .fault f =>
    match f.category with
    | .type => "TypeError"
    | .value => "ValueError"
    | .overflow => "OverflowError"
    | .memory => "MemoryError"
    | .base64 => "Error"
    | .pattern => "error"
  | .general _ => "DataSourceError"
  | .query _ => "QueryError"
  | .validation _ | .invalidRecord _ => "ValidationError"
  | .notFound kind _ _ _ => kind.errorName
  | .duplicate _ _ _ => "DuplicateNameError"
  | .notImplemented _ _ => "AbstractMethodNotImplementedError"
  | .unsupportedType _ _ => "UnsupportedTypeError"
  | .syncFailed _ _ => "SchemaSyncError"
  | .emptyStack _ => "EmptyWhereStackError"
  | .userQuery _ _ => "UserQueryError"
  | .multipleFields _ _ => "MultipleFieldsInBranchError"
  | .fieldRequired _ => "FieldRequiredError"
  | .unknownOperator _ _ => "UnknownOperatorError"
  | .missingDiscriminator _ _ _ => "MissingDiscriminatorValueError"
  | .runtime _ => "RuntimeError"
  | .assertion => "AssertionError"

/-- The more general errors that an error of the store counts as, itself first. -/
def lineage (e : Error) : List String :=
  match e with
  | .fault _ | .runtime _ | .invalidRecord _ | .assertion => []
  | .general _ => ["DataSourceError"]
  | .notFound .element _ _ _ => ["NotFoundError", "DataSourceError"]
  | .notFound _ _ _ _ => [e.name, "NotFoundError", "DataSourceError"]
  | .emptyStack _ => [e.name, "QueryError", "DataSourceError"]
  | .userQuery _ _ => ["UserQueryError", "ValidationError", "DataSourceError"]
  | .multipleFields _ _ | .fieldRequired _ | .unknownOperator _ _ =>
    [e.name, "UserQueryError", "ValidationError", "DataSourceError"]
  | .missingDiscriminator _ _ _ => [e.name, "ValidationError", "DataSourceError"]
  | _ => [e.name, "DataSourceError"]

/-- Whether the error is one of the store's own. -/
def isOwn (e : Error) : Bool := !e.lineage.isEmpty

/-- The messages by location of an error that reports invalid input. -/
def issues? : Error → Option Issues
  | .validation issues => some issues
  | .userQuery text path => some [(Issues.location path, [text])]
  | .multipleFields branch field =>
    some [(Issues.location branch, [multipleFieldsText branch field])]
  | .fieldRequired operator => some (Issues.single Issues.root (fieldRequiredText operator))
  | .unknownOperator operator valid =>
    some (Issues.single Issues.root (unknownOperatorMessage operator valid))
  | .missingDiscriminator mapping ancestor discriminator =>
    some (Issues.single "discriminator_values"
      (missingDiscriminatorText mapping ancestor discriminator))
  | _ => none

def names (xs : List String) : Value := .list (Value.strs xs)

/-- The error as named entries for a structured answer. -/
def details (e : Error) : List (String × Value) :=
  match e with
  | .notFound kind name owner available =>
    [("error", .str kind.code), ("name", name), ("owner", .ofOption .str owner),
     ("suggestions", names (suggestions name available 5)), ("available", names available)]
  | .duplicate kind name owner =>
    [("error", .str "DUPLICATE_NAME"), ("kind", .str kind), ("name", .str name),
     ("owner", .ofOption .str owner)]
  | .syncFailed phase errors =>
    [("error", .str "SCHEMA_SYNC_ERROR"), ("phase", .str phase),
     ("errors", names (messages errors))]
  | .unknownOperator operator valid =>
    [("error", .str "UNKNOWN_OPERATOR"), ("operator", .str operator),
     ("suggestions", names (suggestions (.str operator) valid 3)),
     ("valid_operators", names valid)]
  | _ =>
    match e.issues? with
    | some issues =>
      [("error", .str "VALIDATION_ERROR"), ("message", .str e.message),
       ("errors", issues.toValue)]
    | none => [("error", .str e.name), ("message", .str e.message)]

/-- The error behind a failed provisioning: the first one of its phase. -/
def cause? : Error → Option Error
  | .syncFailed _ errors => errors.head?
  | _ => none

/-- The parts of an error. -/
def parts (e : Error) : List (String × Value) :=
  let issues := (e.issues?.map fun i => [("errors", i.toValue)]).getD []
  match e with
  | .notFound kind name owner available =>
    [("kind", .str kind.text), ("name", name), ("owner", .ofOption .str owner),
     ("available", names available), ("suggestions", names (suggestions name available 5))]
  | .duplicate kind name owner =>
    [("kind", .str kind), ("name", .str name), ("owner", .ofOption .str owner)]
  | .notImplemented owner method => [("owner", .str owner), ("method", .str method)]
  | .unsupportedType type driver => [("type_name", type), ("driver", .ofOption .str driver)]
  | .emptyStack call => [("call", .str call)]
  | .userQuery _ path => issues ++ [("path", path)]
  | .multipleFields branch field =>
    issues ++ [("path", branch), ("branch_field", branch), ("field", field)]
  | .fieldRequired operator => issues ++ [("path", .none), ("operator", .str operator)]
  | .unknownOperator operator valid =>
    issues ++ [("path", .none), ("operator", .str operator), ("valid_operators", names valid),
      ("suggestions", names (suggestions (.str operator) valid 3))]
  | .missingDiscriminator mapping ancestor discriminator =>
    issues ++ [("mapping", .str mapping), ("ancestor", .str ancestor),
      ("discriminator", .str discriminator)]
  | _ => issues

end Error

end ModelStore
