import ModelStore.Mapping.Conversion

/-!
Reading through a mapping. Filters name attributes and hold model values; they are read into a query
on the stored fields, restricted to the discriminator values of the mapping. A document that is found
becomes an instance of the class that its own discriminators lead to.
-/

namespace ModelStore

namespace Mapping

/-- The operand of a comparison as it is stored; a pattern stays as it is. -/
def operand (ref : Value) (c : Converter) (o : Operator) (v : Value) : Except Error Value :=
  if o.takesList then
    match v with
    | .list vs | .tuple vs | .set vs | .frozenset vs =>
      Value.list <$> Error.ofFault (convertAll .toStore c vs)
    | _ => .error (.validation [(ref, ["'" ++ o.value ++ "' expects a list of values"])])
  else if o == .regex then .ok v
  else Error.ofFault (c.toRaw v)

/-- A value that cannot be stored is reported under the attribute. -/
def reportedUnder {α : Type} (ref : Value) (a : Except Error α) : Except Error α :=
  match a with
  | .error (.fault f) =>
    if f.isTypeOrValue then .error (.validation [(ref, [f.message])]) else .error (.fault f)
  | a => a

/-- Adds the comparison of an attribute as one of its stored field. -/
def translate (m : Mapping) : Translator := fun q ref o v => do
  let f ← m.fieldByRef ref
  let raw ← reportedUnder ref (operand ref f.conversion o v)
  q.operation (.str f.name) (.operator o) raw

/-- Restricts a query to the value for the discriminator of an ancestor. -/
def restrict (m : Mapping) (q : Query) (a : Level) : Except Error Query :=
  match a.column with
  | none => .error .assertion
  | some f =>
    match m.values.get? f.name with
    | none => .error .assertion
    | some v => do
      let raw ← Error.ofFault (f.conversion.toRaw (.str v))
      q.operation (.str f.name) (.operator .eq) raw

/-- A query on a collection for the documents of the mapping and those that extend it. -/
def createQuery (m : Mapping) (c : CollectionRef) : Except Error Query :=
  m.ancestors.foldlM m.restrict ({ collection := c, label := c.name : Query }).restart

/-- The name of the stored field of an attribute. -/
def storedName (m : Mapping) (ref : String) : Except Error (String × String) := do
  return (ref, (← m.fieldByRef (.str ref)).name)

/-- Options with ordering by stored fields instead of attributes. -/
def prepareOptions (m : Mapping) (given : Value) : Except Error FindOptions := do
  let o ← Filter.options given
  let names ← o.orderBy.mapM fun c => m.storedName c.field
  return o.withOrderFields fun ref => names.lookup ref

/-- No filter is the empty one. -/
def filterOf (given : Value) : Value := if given.isNone then .dict [] else given

/-- Reads a filter over attributes into a query. -/
def parse (m : Mapping) (c : CollectionRef) (filter : Value) (o : FindOptions) :
    Except Error Query :=
  Filter.read (m.createQuery c) (filterOf filter) (.record (.options o)) (some m.translate)

end Mapping

namespace FieldValues

/-- The first value of a field, or nothing. -/
def first (fs : FieldValues) (name : String) : Value := ((fs.get? name).bind List.head?).getD .none

end FieldValues

namespace Layout

/-- The mapping that extends `m` and whose value for its discriminator the document has. -/
def nextMapping? (l : Layout) (m : Mapping) (k : String) (fs : FieldValues) : Option Mapping :=
  (l.children m).find? fun c => Value.ofOption .str (c.values.get? k) == fs.first k

/-- Follows the discriminators of a document; `fuel` bounds the depth of the hierarchy. -/
def descend (l : Layout) (fs : FieldValues) : Nat → Mapping → Except Error Mapping
  | 0, m => .ok m
  | fuel + 1, m =>
    match m.discriminator with
    | none => .ok m
    | some k =>
      match l.nextMapping? m k fs with
      | none => .ok m
      | some c => if c.isHierarchy then descend l fs fuel c else .error .assertion

/-- The mapping at or below `m` that a document belongs to. -/
def resolve (l : Layout) (m : Mapping) (fs : FieldValues) : Except Error Mapping :=
  l.descend fs l.mappings.length m

/-- Attributes with the first values of their fields; fields without a value are left out. -/
def payload (fs : FieldValues) (fields : List MappingField) : List (Value × Value) :=
  fields.filterMap fun f => ((fs.get? f.name).bind List.head?).map fun v => (.str f.ref, v)

/-- The instance that a document stands for. -/
def build (l : Layout) (m : Mapping) (fs : FieldValues) : Except Error Entity := do
  let found ← l.resolve m fs
  let es := (payload fs found.allFields).foldl (fun es (k, v) => Assoc.put es k v) []
  (found.model.build es).orInvalid

/-- The instance that a stored document stands for. -/
def restore (l : Layout) (m : Mapping) (c : CollectionRef) (document : Value) :
    Except Error Entity := do
  let converted ← l.convert m.schema .fromStore document.entryList
  l.build m ((Assoc.get? converted c.name).getD [])

end Layout

end ModelStore
