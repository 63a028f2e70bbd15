import ModelStore.Assoc
import ModelStore.Fault
import ModelStore.Value.Equality

/-! Members of containers: iteration over them and the test whether a value is among them. -/

namespace ModelStore

namespace Value

/-- Characters of text, bytes, elements, keys, or the named fields of a descriptor. -/
def items? : Value → Option (List Value)
  | .bytes bs => some (bs.map fun b => .int b.toNat)
  | .list xs | .tuple xs | .set xs | .frozenset xs => some xs
  | .dict es => some (es.map (·.1))
  | .record r => some (r.attributes.map fun (name, v) => .tuple [.str name, v])
  | v => v.text?.map fun s => s.toList.map fun c => .str (String.singleton c)

def items (v : Value) : Except Fault (List Value) :=
  match v.items? with
  | some xs => .ok xs
  | Option.none => .error (.notIterable v.typeLabel)

/-- Whether `part` occurs as consecutive elements. -/
def occursIn {α : Type} [BEq α] (part : List α) : List α → Bool
  | [] => part.isEmpty
  | x :: xs => part.isPrefixOf (x :: xs) || occursIn part xs

def hashable (v : Value) : Except Fault Unit :=
  match v.unhashable? with
  | some type => .error (.unhashable type)
  | Option.none => .ok ()

/-- Whether `v` is a member; a set may be sought in a set as if it were frozen. -/
def isMember (v container : Value) : Except Fault Bool :=
  match container with
  | .list xs | .tuple xs => .ok (xs.any fun x => eq x v)
  | .set xs | .frozenset xs =>
    match v with
    | .set _ => .ok (xs.any fun x => eq x v)
    | _ => do
      hashable v
      return xs.any fun x => eq x v
  | .dict es => do
    hashable v
    return es.any fun e => eq e.1 v
  | .bytes bs =>
    match v with
    | .bytes part => .ok (occursIn part bs)
    | .int n =>
      if 0 ≤ n ∧ n < 256 then .ok (bs.contains (UInt8.ofNat n.toNat)) else .error .byteMember
    | .bool b => .ok (bs.contains (if b then 1 else 0))
    | _ => .error (.bytesNeeded v.typeLabel)
  | _ =>
    match container.text? with
    | some text =>
      match v.text? with
      | some part => .ok (occursIn part.toList text.toList)
      | Option.none => .error (.textMember v.typeLabel)
    | Option.none =>
      match container.items? with
      | some xs => .ok (xs.any fun x => eq x v)
      | Option.none => .error (.notContainer container.typeLabel)

/-- The entry that a pair of values stands for, at a position among others. -/
def entryOf (index : Nat) (v : Value) : Except Fault (Value × Value) :=
  match v.items? with
  | Option.none => .error (.entryInput index)
  | some [k, x] => do
    hashable k
    return (k, x)
  | some xs => .error (.entryLength index xs.length)

def entriesOf : Nat → List Value → List (Value × Value) → Except Fault (List (Value × Value))
  | _, [], es => .ok es
  | index, v :: vs, es => do
    let (k, x) ← entryOf index v
    entriesOf (index + 1) vs (Assoc.put es k x)

/-- The entries of a mapping, or of pairs; anything that is missing or empty has none. -/
def entries (v : Value) : Except Fault (List (Value × Value)) :=
  match v with
  | .dict es => .ok es
  | _ => do if v.truthy then entriesOf 0 (← v.items) [] else return []

end Value

end ModelStore
