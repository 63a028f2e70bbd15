import ModelStore.Workspace.Basic

/-! The attributes of objects by name, and objects as text. -/

namespace ModelStore

namespace Collection

def attribute? (c : Collection) : String → Option Value
  | "name" => some (.str c.name)
  | "fields" => some (.tuple (c.fields.map fun f => .record (.field f)))
  | "indexes" => some (.tuple (c.indexes.map fun i => .record (.index i)))
  | "foreign_keys" => some (.tuple (c.foreignKeys.map fun k => .record (.foreignKey k)))
  | "primary_key" => some (.tuple (c.primaryKey.map fun f => .record (.field f)))
  | _ => none

end Collection

def Schema.attribute? (s : Schema) : String → Option Value
  | "collections" =>
    some (.dict (s.members.map fun c => (.str c.name, .object (.collection c))))
  | _ => none

def Record.attribute? (r : Record) (name : String) : Option Value :=
  match r, name with
  | .foreignKey k, "fields" => some (.tuple (Value.strs k.fields))
  | r, name => r.attributes.lookup name

def Driver.attribute? (d : Driver) (name : String) : Option Value :=
  match name, d with
  | "commit_count", d => d.store?.map fun s => .int s.commits
  | "rollback_count", d => d.store?.map fun s => .int s.rollbacks
  | "closed", d => d.store?.map fun s => .bool s.closed
  | "calls", .recording _ _ calls =>
    some (.list (calls.map fun (phase, name) =>
      .list [.str phase.element, .ofOption .str name]))
  | _, _ => none

namespace Workspace

def driverValue (w : Workspace) (id : Nat) : Value :=
  .ofOption (fun d : Driver => .object (.driver d.kind id)) w.drivers[id]?

def mappingValue (w : Workspace) (id : Nat) : Value :=
  .ofOption (fun m : Mapping => .object m.handle) w.layout.mappings[id]?

def mappingAttribute? (w : Workspace) (m : Mapping) : String → Option Value
  | "name" => some (.str m.name)
  | "model" => some m.model.toValue
  | "driver" => some (w.driverValue m.driver)
  | "schema" => some (.object (.schema m.schema))
  | "fields" => some (.tuple (m.fields.map fun f => .record (.mappingField f)))
  | "parent" => some (.ofOption (fun l => .object l.handle) m.parent?)
  | "children" => some (.tuple ((w.layout.children m).map fun c => .object c.handle))
  | "is_virtual" => some (.bool m.discriminator.isSome)
  | "discriminator" => some (.ofOption .str m.discriminator)
  | "discriminator_values" => some (.dict (m.values.map fun (k, v) => (.str k, .str v)))
  | "collection" => m.collection.map fun c => .object (.collection c)
  | _ => none

def sourceAttribute? (w : Workspace) (s : Source) : String → Option Value
  | "driver" => some (w.driverValue s.driver)
  | "schema" => some (.object (.schema s.schema))
  | "mappings" => some (.dict (s.mappings.map fun (k, id) => (.str k, w.mappingValue id)))
  | _ => none

/-- A query as a mapping, with its joined queries; `fuel` bounds how deep they are followed. -/
def queryValue (w : Workspace) : Nat → Query → Value
  | 0, _ => .none
  | fuel + 1, q =>
    let joins := q.joins.map fun id => ((w.queries[id]?).map (queryValue w fuel)).getD .none
    .dict
      [(.str "collection", .str q.collection.name), (.str "alias", .str q.label),
       (.str "fields", .list (Value.strs (sortNames q.fields))), (.str "joins", .list joins),
       (.str "where", q.whereClause.toValue),
       (.str "orders", .list (q.orders.map OrderClause.toValue)), (.str "offset", .int q.offset),
       (.str "size", .int q.size)]

/-- What has a form as a mapping, as one. -/
def structured? (w : Workspace) (v : Value) : Option Value :=
  match v with
  | .record (.order o) => some o.toValue
  | .record (.options o) => some o.toValue
  | .object (.query id) => (w.queries[id]?).map (w.queryValue (w.queries.length + 1))
  | .object (.clause _ id) => (w.clauses[id]?).map Clause.toValue
  | _ => none

/-- An object as a literal; instances show their attributes. -/
def quoted (w : Workspace) (v : Value) : String :=
  match v with
  | .object (.entity id _) =>
    (w.entities[id]?.map fun x =>
      quotedCall x.model.name (x.fields.map fun (k, v) => (k, v.quoted))).getD v.quoted
  | .object (.query id) => (w.queries[id]?.map Query.quoted).getD v.quoted
  | .object (.clause _ id) => (w.clauses[id]?.map Clause.quoted).getD v.quoted
  | v => v.quoted

end Workspace

namespace Run

def queryAttribute (q : Query) (name : String) : Run Value := do
  match name with
  | "collection" => return .object (.collection q.collection)
  | "alias" => return .str q.label
  | "fields" => return .frozenset (Value.strs q.fields)
  | "joins" => return .tuple (q.joins.map fun id => .object (.query id))
  | "where_clause" => newClause q.whereClause
  | "orders" => return .tuple (q.orders.map fun o => .record (.order o))
  | "offset" => return .int q.offset
  | "size" => return .int q.size
  | _ => throw .assertion

def clauseAttribute (c : Clause) (name : String) : Run Value := do
  match c, name with
  | .and _, "operator" => return .operator .and
  | .or _, "operator" => return .operator .or
  | .not _, "operator" => return .operator .not
  | .comparison c, "operator" => return .operator c.operator
  | .and cs, "children" | .or cs, "children" => return .tuple (← cs.mapM newClause)
  | .not c, "child" => newClause c
  | .comparison c, "field" => return c.field
  | .comparison c, "value" => return c.value
  | _, _ => throw .assertion

def attributeOf (v : Value) (name : String) : Run Value := do
  let w ← get
  match v with
  | .object (.collection c) => found ((w.layout.collections.get c).attribute? name)
  | .object (.schema id) => found ((w.layout.schema id).attribute? name)
  | .object (.query id) => queryAttribute (← query id) name
  | .object (.clause _ id) => clauseAttribute (← found w.clauses[id]?) name
  | .object (.driver _ id) => found ((← driver id).attribute? name)
  | .object (.evaluator id) => return .set (((w.evaluators[id]?).getD []).keys.map .operator)
  | .object (.comparator o) => return .operator o
  | .object (.mapping _ id _) => found (w.mappingAttribute? (← mapping id) name)
  | .object (.source id) => found (w.sourceAttribute? (← source id) name)
  | .object (.entity id _) => return (← entity id).get name
  | .record r => found (r.attribute? name)
  | _ => throw .assertion

/-- Assigns an attribute of an instance; descriptors cannot be changed. -/
def setAttribute (v : Value) (name : String) (x : Value) : Run Unit := do
  match v with
  | .object (.entity id _) => setEntity id (← ofExcept ((← entity id).assign name x))
  | .record _ => throw (.invalidRecord (Issues.single name "Instance is frozen"))
  | _ => throw .assertion

end Run

end ModelStore
