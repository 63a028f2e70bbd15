import ModelStore.Mapping.Basic

/-!
Data sources: a driver, a schema, and the mappings registered with them by name. A transaction
brackets writes: it commits when its block ends and rolls back when the block fails.
-/

namespace ModelStore

structure Source where
  driver : Nat
  schema : Nat
  /-- The numbers of the registered mappings by name. -/
  mappings : Assoc String Nat := []

namespace Source

/-- Registers a mapping, which has to store through the same driver and schema. -/
def register (s : Source) (m : Mapping) : Except Error Source := do
  if m.driver != s.driver || m.schema != s.schema then
    throw (.invalid "mapping" ("Mapping '" ++ m.name ++ "' is bound to another driver or schema"))
  if s.mappings.has m.name then throw (.duplicate "mapping" m.name none)
  return { s with mappings := s.mappings.put m.name m.id }

def mapping (s : Source) (name : Value) : Except Error Nat :=
  Collection.lookup name s.mappings.get? (.missing .mapping name none s.mappings.keys)

end Source

end ModelStore
