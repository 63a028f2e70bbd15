import ModelStore.Filter
import ModelStore.Model
import ModelStore.Schema.Basic

/-!
Mappings bind model classes to stored fields. A mapping with a discriminator can be extended; the
mappings that extend it give a value for the discriminator of every ancestor, by which their
documents are told apart. Fields are inherited along the chain from the root.
-/

namespace ModelStore

/-- One link of a chain of mappings. -/
structure Level where
  id : Nat
  kind : MappingKind
  name : String
  model : Model
  /-- The discriminator, if the mapping can be extended. -/
  discriminator : Option String
  /-- The stored field of the discriminator. -/
  column : Option MappingField
  /-- The fields that the mapping itself declares. -/
  fields : List MappingField
  /-- Values for the discriminators of the ancestors. -/
  values : Assoc String String

structure Mapping extends Level where
  /-- The mappings that this one extends, the root first. -/
  ancestors : List Level
  driver : Nat
  schema : Nat
  /-- The collection of the hierarchy, unless the mapping stores nothing. -/
  collection : Option CollectionRef

/-- Collections, the schemas they belong to, and the mappings onto them. -/
structure Layout where
  collections : Catalog := []
  schemas : List Schema := []
  mappings : List Mapping := []

namespace Level

def handle (l : Level) : Handle := .mapping l.kind l.id l.name

/-- The discriminator before the declared fields. -/
def columns (l : Level) : List MappingField := l.column.toList ++ l.fields

end Level

namespace Mapping

def handle (m : Mapping) : Handle := m.toLevel.handle

def quoted (m : Mapping) : String := m.handle.quoted

/-- The ancestors and the mapping itself, the root first. -/
def chain (m : Mapping) : List Level := m.ancestors ++ [m.toLevel]

def parent? (m : Mapping) : Option Level := m.ancestors.getLast?

/-- The declared fields of the whole chain, the root's first. -/
def allFields (m : Mapping) : List MappingField := m.chain.flatMap (·.fields)

/-- The fields of the chain by attribute name, discriminators included. -/
def known (m : Mapping) : Assoc String MappingField :=
  (m.chain.flatMap Level.columns).foldl (fun known f => known.put f.ref f) []

def fieldByRef (m : Mapping) (ref : Value) : Except Error MappingField :=
  Collection.lookup ref m.known.get? (.missing .field ref (some m.name) m.known.keys)

def isHierarchy (m : Mapping) : Bool := m.kind == .hierarchy

end Mapping

namespace MappingField

/-- The converter of a field of which nothing is left open. -/
def conversion (f : MappingField) : Converter := f.converter.getD .identity

def toCollectionField (f : MappingField) : CollectionField where
  name := f.name
  type := f.type
  rawType := f.rawType.getD ""
  converter := f.conversion
  primaryKey := f.primaryKey
  sequence := f.sequence

end MappingField

namespace Layout

def schema (l : Layout) (id : Nat) : Schema := (l.schemas[id]?).getD {}

/-- The mappings that extend a mapping, in the order in which they were declared. -/
def children (l : Layout) (m : Mapping) : List Mapping :=
  l.mappings.filter fun c => c.parent?.any (·.id == m.id)

/-- Mappings and, level by level, those of a hierarchy that extend them; `fuel` bounds their number. -/
def breadthFirst (l : Layout) : Nat → List Mapping → List Mapping
  | 0, _ => []
  | _, [] => []
  | fuel + 1, m :: ms => m :: breadthFirst l fuel (ms ++ (l.children m).filter Mapping.isHierarchy)

/-- A mapping and all that extend it, the nearest first. -/
def subtree (l : Layout) (m : Mapping) : List Mapping := l.breadthFirst l.mappings.length [m]

/-- The layout with a new collection of a name. -/
def addCollection (l : Layout) (c : Collection) : Layout × CollectionRef :=
  ({ l with collections := l.collections ++ [c] }, l.collections.fresh c.name)

end Layout

end ModelStore
