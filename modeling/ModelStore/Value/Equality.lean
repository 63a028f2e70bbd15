import ModelStore.Value.Basic

/-!
Equality of values. Numbers are equal across their types, a member of the vocabulary equals its
text, containers of one sort compare part by part and objects by identity. A `nan` equals nothing.
Sets and mappings are equal when each part of either has an equal one in the other.
-/

namespace ModelStore

/-- A number of any type. -/
inductive Number where
  | whole (n : Int)
  | double (x : Binary64)

namespace Number

def compare? : Number → Number → Option Ordering
  | .whole m, .whole n => some (compare m n)
  | .whole m, .double y => (y.compareInt? m).map Ordering.swap
  | .double x, .whole n => x.compareInt? n
  | .double x, .double y => x.compare? y

end Number

namespace Value

def number? : Value → Option Number
  | .bool b => some (.whole (if b then 1 else 0))
  | .int n => some (.whole n)
  | .float x => some (.double x)
  | _ => Option.none

mutual

def eq : Value → Value → Bool
  | .none, .none => true
  | .bool b, w => w.number?.any fun n => (Number.whole (if b then 1 else 0)).compare? n == some .eq
  | .int m, w => w.number?.any fun n => (Number.whole m).compare? n == some .eq
  | .float x, w => w.number?.any fun n => (Number.double x).compare? n == some .eq
  | .str s, w => w.text? == some s
  | .operator o, w => w.text? == some o.value
  | .fieldType t, w => w.text? == some t.value
  | .sortOrder o, w => w.text? == some o.value
  | .bytes a, .bytes b => a == b
  | .date d, .date e => d == e
  | .datetime d, .datetime e => d.compare? e == some .eq
  | .list xs, .list ys => eqAll xs ys
  | .tuple xs, .tuple ys => eqAll xs ys
  | .set xs, .set ys | .set xs, .frozenset ys | .frozenset xs, .set ys
  | .frozenset xs, .frozenset ys => xs.length == ys.length && subset xs ys && ys.all (anyEq xs)
  | .dict xs, .dict ys => xs.length == ys.length && eqEntries xs ys && ys.all (anyEqEntry xs)
  | .record r, .record s => r == s
  | .model a _, .model b _ => a == b
  | .object a, .object b => a == b
  | _, _ => false

def eqAll : List Value → List Value → Bool
  | [], [] => true
  | x :: xs, y :: ys => eq x y && eqAll xs ys
  | _, _ => false

/-- Whether every value on the left equals one on the right. -/
def subset : List Value → List Value → Bool
  | [], _ => true
  | x :: xs, ys => ys.any (eq x) && subset xs ys

/-- Whether a value on the left equals one value. -/
def anyEq : List Value → Value → Bool
  | [], _ => false
  | x :: xs, y => eq x y || anyEq xs y

/-- Whether every entry on the left has an equal one on the right. -/
def eqEntries : List (Value × Value) → List (Value × Value) → Bool
  | [], _ => true
  | (k, v) :: es, fs => fs.any (fun f => eq k f.1 && eq v f.2) && eqEntries es fs

/-- Whether an entry on the left equals one entry. -/
def anyEqEntry : List (Value × Value) → Value × Value → Bool
  | [], _ => false
  | (k, v) :: es, f => (eq k f.1 && eq v f.2) || anyEqEntry es f

end

instance : BEq Value := ⟨eq⟩

mutual

/-- The type of the first part that cannot be a member of a set or a key. -/
def unhashable? : Value → Option String
  | .list _ => some "list"
  | .set _ => some "set"
  | .dict _ => some "dict"
  | .tuple xs | .frozenset xs => unhashableIn? xs
  | _ => Option.none

def unhashableIn? : List Value → Option String
  | [] => Option.none
  | x :: xs => (unhashable? x).or (unhashableIn? xs)

end

end Value

end ModelStore
