import ModelStore.Validation.Scalar

/-!
Checks of descriptors given as mappings. Fields are checked in the order of declaration; unknown
entries are ignored except in find options.
-/

namespace ModelStore

/-- Entries of a mapping, or the issue that there are none to build `name` from. -/
def checkEntries {α : Type} (name : String) (v : Value)
    (check : List (Value × Value) → Checked α) : Checked α :=
  match v with
  | .dict es => check es
  | _ => Checked.fail ("Input should be a valid dictionary or instance of " ++ name)

namespace CollectionField

def ofEntries (es : List (Value × Value)) : Checked CollectionField :=
  CollectionField.mk <$> required es "name" Check.nonEmptyText
    <*> required es "type" Check.fieldType
    <*> required es "raw_type" Check.nonEmptyText
    <*> required es "converter" Check.converter
    <*> optional es "primary_key" false Check.boolean
    <*> optional es "sequence" .absent Check.sequence

def check (v : Value) : Checked CollectionField :=
  match v with
  | .record (.field f) => Checked.ok f
  | _ => checkEntries "CollectionField" v ofEntries

end CollectionField

namespace CollectionIndex

def ofEntries (es : List (Value × Value)) : Checked CollectionIndex :=
  CollectionIndex.mk <$> optional es "name" none (Check.nullable Check.nonEmptyText)
    <*> required es "fields" (Check.nonEmptyElements Check.nonEmptyText)
    <*> optional es "unique" false Check.boolean

def check (v : Value) : Checked CollectionIndex :=
  match v with
  | .record (.index i) => Checked.ok i
  | _ => checkEntries "CollectionIndex" v ofEntries

end CollectionIndex

namespace ForeignKeyTarget

def checkCollection (v : Value) : Checked CollectionRef :=
  match v with
  | .object (.collection c) => Checked.ok c
  | _ => Checked.fail
    ("Value error, target collection must be a Collection, got " ++ v.typeName)

def ofEntries (es : List (Value × Value)) : Checked ForeignKeyTarget :=
  ForeignKeyTarget.mk <$> required es "collection" checkCollection
    <*> required es "field" Check.nonEmptyText

def check (v : Value) : Checked ForeignKeyTarget :=
  match v with
  | .record (.foreignKeyTarget t) => Checked.ok t
  | _ => checkEntries "ForeignKeyTarget" v ofEntries

end ForeignKeyTarget

namespace CollectionForeignKey

def ofEntries (es : List (Value × Value)) : Checked CollectionForeignKey :=
  CollectionForeignKey.mk <$> optional es "name" none (Check.nullable Check.nonEmptyText)
    <*> required es "field" Check.nonEmptyText
    <*> required es "target" ForeignKeyTarget.check

def check (v : Value) : Checked CollectionForeignKey :=
  match v with
  | .record (.foreignKey k) => Checked.ok k
  | _ => checkEntries "CollectionForeignKey" v ofEntries

end CollectionForeignKey

namespace MappingField

/-- An absent attribute name is taken from the field name. -/
def withDefaultRef (es : List (Value × Value)) : List (Value × Value) :=
  match valueUnder? es "ref", valueUnder? es "name" with
  | none, some name | some .none, some name => Assoc.put es (.str "ref") name
  | _, _ => es

def ofEntries (es : List (Value × Value)) : Checked MappingField :=
  let es := withDefaultRef es
  MappingField.mk <$> required es "name" Check.nonEmptyText
    <*> required es "ref" Check.nonEmptyText
    <*> required es "type" Check.fieldType
    <*> optional es "raw_type" none (Check.nullable Check.nonEmptyText)
    <*> optional es "converter" none (Check.nullable Check.converter)
    <*> optional es "primary_key" false Check.boolean
    <*> optional es "sequence" .absent Check.sequence

def check (v : Value) : Checked MappingField :=
  match v with
  | .record (.mappingField f) => Checked.ok f
  | _ => checkEntries "MappingField" v ofEntries

end MappingField

namespace OrderClause

def ofEntries (es : List (Value × Value)) : Checked OrderClause :=
  OrderClause.mk <$> required es "field" Check.nonEmptyText
    <*> optional es "order" .ascending Check.sortOrder

def check (v : Value) : Checked OrderClause :=
  match v with
  | .record (.order o) => Checked.ok o
  | _ => checkEntries "OrderClause" v ofEntries

end OrderClause

namespace FindOptions

/-- Entries other than the named ones are not permitted. -/
def noExtras (names : List String) : List (Value × Value) → Checked Unit
  | [] => Checked.ok ()
  | (k, _) :: es =>
    let here : Checked Unit :=
      match k.text? with
      | some s =>
        if names.contains s then Checked.ok ()
        else Checked.fail "Extra inputs are not permitted"
      | none => Checked.fail "Keys should be strings"
    (fun _ _ => ()) <$> here.under (pathKey k) <*> noExtras names es

def ofEntries (es : List (Value × Value)) : Checked FindOptions :=
  (fun skip limit orderBy _ => FindOptions.mk skip limit orderBy)
    <$> optional es "skip" 0 Check.natural
    <*> optional es "limit" none (Check.nullable (Check.integerFrom (-1)))
    <*> optional es "order_by" [] (Check.elements OrderClause.check)
    <*> noExtras ["skip", "limit", "order_by"] es

def check (v : Value) : Checked FindOptions :=
  match v with
  | .record (.options o) => Checked.ok o
  | _ => checkEntries "FindOptions" v ofEntries

end FindOptions

/-- What every mapping is built from. -/
structure MappingConfig where
  model : Value
  name : String
  fields : List Value
  virtualField : Option String
  parent : Option Handle
  discriminatorValues : Assoc String String

namespace MappingConfig

def checkModel (v : Value) : Checked Value :=
  match v with
  | .model _ _ => Checked.ok v
  | _ => Checked.fail ("Value error, model must be a class, got " ++ v.typeName)

def checkParent (v : Value) : Checked (Option Handle) :=
  match v with
  | .none => Checked.ok none
  | .object (.mapping kind id name) => Checked.ok (some (.mapping kind id name))
  | _ => Checked.fail ("Value error, extends must be a Mapping, got " ++ v.typeName)

/-- Names with texts; a name that is no text is reported beside its entry. -/
def checkTexts : List (Value × Value) → Checked (Assoc String String)
  | [] => Checked.ok []
  | (k, v) :: es =>
    (fun name text rest => Assoc.overlay [(name, text)] rest)
      <$> ((Check.text k).under "[key]").under (pathKey k)
      <*> (Check.text v).under (pathKey k)
      <*> checkTexts es

def checkDiscriminators (v : Value) : Checked (Assoc String String) :=
  match v with
  | .dict es => checkTexts es
  | _ => Checked.fail "Input should be a valid dictionary"

def ofEntries (es : List (Value × Value)) : Checked MappingConfig :=
  MappingConfig.mk <$> required es "model" checkModel
    <*> required es "name" Check.nonEmptyText
    <*> optional es "fields" [] (Check.elements Checked.ok)
    <*> optional es "virtual" none (Check.nullable Check.nonEmptyText)
    <*> optional es "extends" none checkParent
    <*> optional es "discriminator_values" [] checkDiscriminators

def check (v : Value) : Checked MappingConfig := checkEntries "MappingConfig" v ofEntries

end MappingConfig

end ModelStore
