import ModelStore.Error

/-!
Checks that collect every issue they find. A check yields a value or issues, each with the path to
the part it is about; two checks side by side report the issues of both.
-/

namespace ModelStore

structure Issue where
  path : List String
  text : String
  deriving DecidableEq, Repr

def Checked (α : Type) : Type := Except (List Issue) α

namespace Checked

def ok {α : Type} (a : α) : Checked α := Except.ok a

def fail {α : Type} (text : String) : Checked α := Except.error [⟨[], text⟩]

/-- Applies a checked function, with the issues of both sides. -/
def both {α β : Type} (f : Checked (α → β)) (a : Checked α) : Checked β :=
  match f, a with
  | .ok f, .ok a => .ok (f a)
  | .error is, .ok _ => .error is
  | .ok _, .error js => .error js
  | .error is, .error js => .error (is ++ js)

instance : Applicative Checked where
  pure := ok
  seq f a := both f (a ())

/-- Continues with a value that passed. -/
def andThen {α β : Type} (a : Checked α) (f : α → Checked β) : Checked β :=
  match a with
  | .ok a => f a
  | .error is => .error is

/-- Places issues under a key. -/
def under {α : Type} (key : String) (a : Checked α) : Checked α :=
  match a with
  | .ok a => .ok a
  | .error is => .error (is.map fun i => { i with path := key :: i.path })

/-- Replaces the issues of the first check if the second succeeds. -/
def orElse {α : Type} (a b : Checked α) : Checked α :=
  match a, b with
  | .ok a, _ => .ok a
  | .error _, .ok b => .ok b
  | .error is, .error js => .error (is ++ js)

def isOk {α : Type} (a : Checked α) : Bool :=
  match a with
  | .ok _ => true
  | .error _ => false

/-- Checks every element, issues being placed under its position. -/
def elements {α : Type} (check : Value → Checked α) : Nat → List Value → Checked (List α)
  | _, [] => ok []
  | i, v :: vs => (· :: ·) <$> (check v).under (toString i) <*> elements check (i + 1) vs

end Checked

namespace Issues

/-- Issues by location: the path joined by points, or the root. -/
def ofList (found : List Issue) : Issues :=
  found.foldl (fun issues i =>
    issues.add (.str (if i.path.isEmpty then root else ".".intercalate i.path)) i.text) []

end Issues

/-- The value of a check; its issues become a validation error. -/
def Checked.orInvalid {α : Type} (a : Checked α) : Except Error α :=
  match a with
  | .ok a => .ok a
  | .error is => .error (.validation (Issues.ofList is))

/-- The value of a check; its issues become an error of the record that was to be built. -/
def Checked.orInvalidRecord {α : Type} (a : Checked α) : Except Error α :=
  match a with
  | .ok a => .ok a
  | .error is => .error (.invalidRecord (Issues.ofList is))

/-- The key of an entry as part of a path. -/
def pathKey (v : Value) : String :=
  match v with
  | .bool b => if b then "1" else "0"
  | _ => v.text?.getD v.quoted

/-- The entry under a name. -/
def valueUnder? (entries : List (Value × Value)) (name : String) : Option Value :=
  (entries.find? fun e => e.1 == .str name).map (·.2)

/-- Checks an entry that has to be there. -/
def required {α : Type} (entries : List (Value × Value)) (name : String)
    (check : Value → Checked α) : Checked α :=
  Checked.under name <|
    match valueUnder? entries name with
    | some v => check v
    | none => Checked.fail "Field required"

/-- Checks an entry that may be left out. -/
def optional {α : Type} (entries : List (Value × Value)) (name : String) (default : α)
    (check : Value → Checked α) : Checked α :=
  match valueUnder? entries name with
  | some v => (check v).under name
  | none => Checked.ok default

end ModelStore
