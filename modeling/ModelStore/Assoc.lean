/-!
Association lists with one entry per key, in the order in which the keys were first put. Writing a
present key keeps its place.
-/

namespace ModelStore

abbrev Assoc (α β : Type) := List (α × β)

namespace Assoc

variable {α β : Type} [BEq α]

def get? (m : Assoc α β) (k : α) : Option β := List.lookup k m

def has (m : Assoc α β) (k : α) : Bool := m.any (k == ·.1)

def keys (m : Assoc α β) : List α := m.map (·.1)

def values (m : Assoc α β) : List β := m.map (·.2)

def put : Assoc α β → α → β → Assoc α β
  | [], k, v => [(k, v)]
  | (a, b) :: m, k, v => if k == a then (a, v) :: m else (a, b) :: put m k v

/-- Writes every entry of `n` over `m`, in order. -/
def overlay (m n : Assoc α β) : Assoc α β := n.foldl (fun acc e => put acc e.1 e.2) m

/-- Adds the entry unless the key is present. -/
def ensure (m : Assoc α β) (k : α) (v : β) : Assoc α β := if has m k then m else m ++ [(k, v)]

end Assoc

end ModelStore
