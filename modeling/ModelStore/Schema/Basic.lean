import ModelStore.Collection

/-! Schemas: the collections of a data source by name, in the order in which they were added. -/

namespace ModelStore

structure Schema where
  members : List CollectionRef := []
  deriving DecidableEq, Repr

namespace Schema

def names (s : Schema) : List String := s.members.map (·.name)

def find? (s : Schema) (name : String) : Option CollectionRef := s.members.find? (·.name == name)

def has (s : Schema) (name : String) : Bool := s.members.any (·.name == name)

def get (s : Schema) (name : Value) : Except Error CollectionRef :=
  Collection.lookup name s.find? (.missing .collection name none s.names)

def insert (s : Schema) (c : CollectionRef) : Except Error Schema :=
  if s.has c.name then .error (.duplicate "collection" c.name none)
  else .ok { s with members := s.members ++ [c] }

def add (s : Schema) (v : Value) : Except Error (Schema × CollectionRef) :=
  match v with
  | .object (.collection c) => do return (← s.insert c, c)
  | v => .error (.invalid "collection" ("Expected a Collection, got " ++ v.typeName))

end Schema

end ModelStore
