import ModelStore.Validation.Descriptor

/-!
Model classes: named attributes with types, inherited along a chain of classes. A validated class
checks its attributes when an instance is built; an ordinary class has none.
-/

namespace ModelStore

inductive AttributeType where
  | int
  | float
  | str
  | bool
  | date
  | datetime
  | bytes
  | any
  deriving DecidableEq, Repr

/-- A typed attribute; one without a default has to be given. -/
structure Attribute where
  name : String
  type : AttributeType
  nullable : Bool
  default : Option Value

structure Model where
  name : String
  /-- The class and the classes it derives from, nearest first. -/
  lineage : List String
  validated : Bool
  attributes : List Attribute
  frozen : Bool

/-- Attributes by name. -/
abbrev Row := Assoc String Value

/-- An instance of a model class. -/
structure Entity where
  model : Model
  attributes : Row

namespace AttributeType

def check (t : AttributeType) (v : Value) : Checked Value :=
  match t with
  | .int => Value.int <$> Check.integer v
  | .float => Value.float <$> Check.number v
  | .str => Value.str <$> Check.text v
  | .bool => Value.bool <$> Check.boolean v
  | .date => Value.date <$> Check.date v
  | .datetime => Value.datetime <$> Check.datetime v
  | .bytes => Value.bytes <$> Check.bytes v
  | .any => Checked.ok v

end AttributeType

namespace Attribute

def check (a : Attribute) (v : Value) : Checked Value :=
  if a.nullable then (·.getD .none) <$> Check.nullable a.type.check v else a.type.check v

def entry (a : Attribute) (es : List (Value × Value)) : Checked (String × Value) :=
  (fun v => (a.name, v)) <$>
    match a.default with
    | some d => optional es a.name d a.check
    | none => required es a.name a.check

end Attribute

namespace Model

/-- Whether the class is the named one or derives from it. -/
def isA (m : Model) (name : String) : Bool := m.lineage.contains name

def toValue (m : Model) : Value := .model m.name m.validated

/-- A redefined attribute keeps its inherited place. -/
def addAttribute : List Attribute → Attribute → List Attribute
  | [], a => [a]
  | b :: bs, a => if b.name == a.name then a :: bs else b :: addAttribute bs a

/-- A class that derives from `base`, or from nothing but its own definition. -/
def derive (base : Option Model) (name : String) (validated : Bool) (own : List Attribute)
    (frozen : Option Bool) : Model :=
  match base with
  | some b =>
    { name
      lineage := name :: b.lineage
      validated := b.validated
      attributes := own.foldl addAttribute b.attributes
      frozen := frozen.getD b.frozen }
  | none =>
    { name
      lineage := [name]
      validated
      attributes := own.foldl addAttribute []
      frozen := frozen.getD false }

def entriesOf (es : List (Value × Value)) : List Attribute → Checked Row
  | [] => Checked.ok []
  | a :: rest => (· :: ·) <$> a.entry es <*> entriesOf es rest

/-- Builds an instance from entries; those that name no attribute are ignored. -/
def build (m : Model) (es : List (Value × Value)) : Checked Entity :=
  Entity.mk m <$> entriesOf es m.attributes

def check (m : Model) (v : Value) : Checked Entity := checkEntries m.name v m.build

end Model

namespace Entity

/-- The value of an attribute, or of nothing. -/
def get (x : Entity) (name : String) : Value := (x.attributes.get? name).getD .none

/-- The attributes of the class, in order of declaration. -/
def fields (x : Entity) : List (String × Value) :=
  x.model.attributes.map fun a => (a.name, x.get a.name)

/--
Assigns an attribute without checking its type. Validated classes have no attributes but their
declared ones and those whose names start with an underscore; frozen instances cannot be changed.
-/
def assign (x : Entity) (name : String) (v : Value) : Except Error Entity :=
  let changed : Entity := { x with attributes := x.attributes.put name v }
  if !x.model.validated || name.startsWith "_" then .ok changed
  else if x.model.frozen then .error (.invalidRecord (Issues.single name "Instance is frozen"))
  else if x.model.attributes.any (·.name == name) then .ok changed
  else .error (.fault (.unknownAttribute x.model.name name))

end Entity

end ModelStore
