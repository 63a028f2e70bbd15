import ModelStore.Vocabulary

/-! Immutable descriptors of stored fields, indexes, foreign keys and result shaping. -/

namespace ModelStore

/-- A collection by identity; its name never changes. -/
structure CollectionRef where
  id : Nat
  name : String
  deriving DecidableEq, Repr

/-- How missing values of a field are generated, if they are. -/
inductive Sequence where
  | absent
  | anonymous
  | named (name : String)
  deriving DecidableEq, Repr

structure CollectionField where
  name : String
  type : FieldType
  rawType : String
  converter : Converter
  primaryKey : Bool := false
  sequence : Sequence := .absent
  deriving DecidableEq, Repr

structure CollectionIndex where
  name : Option String := none
  fields : List String
  unique : Bool := false
  deriving DecidableEq, Repr

structure ForeignKeyTarget where
  collection : CollectionRef
  field : String
  deriving DecidableEq, Repr

structure CollectionForeignKey where
  name : Option String := none
  field : String
  target : ForeignKeyTarget
  deriving DecidableEq, Repr

/-- A model attribute, `ref`, bound to the stored field `name`. -/
structure MappingField where
  name : String
  ref : String
  type : FieldType
  rawType : Option String := none
  converter : Option Converter := none
  primaryKey : Bool := false
  sequence : Sequence := .absent
  deriving DecidableEq, Repr

structure OrderClause where
  field : String
  order : SortOrder := .ascending
  deriving DecidableEq, Repr

/-- Paging and ordering of a result; no limit leaves the size of the query as it is. -/
structure FindOptions where
  skip : Nat := 0
  limit : Option Int := none
  orderBy : List OrderClause := []
  deriving DecidableEq, Repr

inductive Record where
  | field (f : CollectionField)
  | index (i : CollectionIndex)
  | foreignKeyTarget (t : ForeignKeyTarget)
  | foreignKey (k : CollectionForeignKey)
  | mappingField (f : MappingField)
  | order (o : OrderClause)
  | options (o : FindOptions)
  deriving DecidableEq, Repr

def Record.typeName : Record → String
  | .field _ => "CollectionField"
  | .index _ => "CollectionIndex"
  | .foreignKeyTarget _ => "ForeignKeyTarget"
  | .foreignKey _ => "CollectionForeignKey"
  | .mappingField _ => "MappingField"
  | .order _ => "OrderClause"
  | .options _ => "FindOptions"

/-- The fields that the descriptor names, in order. -/
def CollectionForeignKey.fields (k : CollectionForeignKey) : List String := [k.field]

def Sequence.isPresent : Sequence → Bool
  | .absent => false
  | _ => true

namespace FindOptions

/-- Renames the ordering fields that `rename` knows. -/
def withOrderFields (o : FindOptions) (rename : String → Option String) : FindOptions :=
  { o with orderBy := o.orderBy.map fun c => { c with field := (rename c.field).getD c.field } }

end FindOptions

end ModelStore
