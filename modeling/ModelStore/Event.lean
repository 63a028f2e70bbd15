import ModelStore.Clause
import ModelStore.Error

/-! The journal: what happened, and the line that reports it. -/

namespace ModelStore

/-- The phases of provisioning. -/
inductive Phase where
  | collections
  | indexes
  | foreignKeys
  deriving DecidableEq, Repr

namespace Phase

def text : Phase → String
  | .collections => "collections"
  | .indexes => "indexes"
  | .foreignKeys => "foreign keys"

/-- What one request of the phase provisions. -/
def element : Phase → String
  | .collections => "collection"
  | .indexes => "index"
  | .foreignKeys => "foreign key"

end Phase

inductive Event where
  | syncing (count : Nat)
  | ensuring (phase : Phase) (count : Nat)
  | failing (phase : Phase) (failed count : Nat)
  | ensured (phase : Phase) (name : String)
  | mappingReady (name : String) (fields : Nat) (parent : Option String)
  | parsed (mapping : String) (condition : Clause)
  | created (mapping collection : String)
  | rolledBack (e : Error)

namespace Event

def level : Event → String
  | .rolledBack _ => "WARNING"
  | _ => "DEBUG"

def channel : Event → String
  | .syncing _ | .rolledBack _ => "cqrs_ddd.datasource"
  | .ensuring _ _ | .failing _ _ _ => "cqrs_ddd.datasource.schema"
  | .ensured _ _ => "cqrs_ddd.datasource.memory"
  | .mappingReady _ _ _ | .parsed _ _ | .created _ _ => "cqrs_ddd.datasource.mapping"

def message : Event → String
  | .syncing count => "Syncing " ++ toString count ++ " collection(s)"
  | .ensuring phase count => "Ensuring " ++ toString count ++ " " ++ phase.text
  | .failing phase failed count =>
    toString failed ++ "/" ++ toString count ++ " " ++ phase.text ++ " failed to sync"
  | .ensured phase name => "Ensured " ++ phase.element ++ " " ++ name
  | .mappingReady name fields parent =>
    "Mapping " ++ name ++ " ready (" ++ toString fields ++ " fields, parent=" ++
      parent.getD "None" ++ ")"
  | .parsed mapping condition => "Parsed user query for " ++ mapping ++ ": " ++ condition.quoted
  | .created mapping collection => "Created " ++ mapping ++ " in " ++ collection
  | .rolledBack e => "Transaction rolled back after " ++ e.name ++ ": " ++ e.message

def line (e : Event) : String := e.level ++ " " ++ e.channel ++ ": " ++ e.message

end Event

end ModelStore
