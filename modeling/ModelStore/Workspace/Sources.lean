import ModelStore.Workspace.Mapped

/-! Data sources at work, and the blocks that use an object and give it back at their end. -/

namespace ModelStore.Run

/-- A data source over a driver; without a schema it has one of its own. -/
def createSource (driver schema : Value) : Run Value := do
  let driver ← ofExcept (Declaration.driverNumber driver)
  let schema ← if schema.isNone then newSchema else ofExcept (Declaration.schemaNumber schema)
  return .object (.source (← newSource { driver, schema }))

def registerMapping (id : Nat) (v : Value) : Run Value := do
  match v with
  | .object (.mapping _ m _) =>
    setSource id (← ofExcept ((← source id).register (← mapping m)))
    return v
  | v => throw (.invalid "mapping" ("Expected a Mapping, got " ++ v.typeName))

/-- Provisions every collection of the schema. -/
def syncSource (id : Nat) : Run Unit := do
  let s ← source id
  note (.syncing ((← get).layout.schema s.schema).members.length)
  syncSchema s.schema s.driver

/-- Ends a block that uses an object. -/
def leave (v : Value) (outcome : Except Error Unit) : Run Unit := do
  match v with
  | .object (.transaction id) => leaveTransaction (← found (← get).transactions[id]?) outcome
  | .object (.source id) => leaveSource (← source id).driver outcome
  | .object (.cursor _ id) => leaveCursor id outcome
  | _ => ofExcept outcome

end ModelStore.Run
