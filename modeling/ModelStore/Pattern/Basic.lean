import ModelStore.Text.Case

/-!
Text patterns: literals, character sets, anchors, groups, repetition, look-around and back
references. Every node carries the flags that govern it.
-/

namespace ModelStore.Pattern

structure Flags where
  ignoreCase : Bool := false
  multiline : Bool := false
  dotAll : Bool := false
  /-- Blanks and comments in the notation are skipped. -/
  verbose : Bool := false
  /-- Character kinds and case cover ASCII only. -/
  ascii : Bool := false
  deriving DecidableEq, Repr

inductive Kind where
  | digit
  | space
  | word
  deriving DecidableEq, Repr

/-- A member of a character set; characters are code points. -/
inductive Member where
  | range (first last : Nat)
  | kind (kind : Kind) (negated : Bool)
  deriving DecidableEq, Repr

inductive Anchor where
  | lineStart
  | lineEnd
  | textStart
  | textEnd
  | boundary (negated : Bool)
  deriving DecidableEq, Repr

inductive Greed where
  | greedy
  | lazy
  | possessive
  deriving DecidableEq, Repr

/-- The least and greatest number of characters a node takes up, if bounded. -/
structure Width where
  least : Nat
  most : Option Nat
  deriving DecidableEq, Repr

inductive Node where
  | empty
  | any (flags : Flags)
  | set (flags : Flags) (negated : Bool) (members : List Member)
  | anchor (flags : Flags) (a : Anchor)
  | seq (p q : Node)
  | alt (p q : Node)
  | repeated (p : Node) (least : Nat) (most : Option Nat) (greed : Greed)
  /-- A group in parentheses; a numbered one captures what it matches. -/
  | group (index : Option Nat) (p : Node)
  | atomic (p : Node)
  | look (ahead negated : Bool) (p : Node)
  | reference (flags : Flags) (index : Nat) (width : Width)
  | conditional (index : Nat) (yes no : Node)
  deriving Repr

namespace Width

def add (v w : Width) : Width := ⟨v.least + w.least, do return (← v.most) + (← w.most)⟩

def either (v w : Width) : Width := ⟨min v.least w.least, do return max (← v.most) (← w.most)⟩

def times (w : Width) (least : Nat) (most : Option Nat) : Width :=
  ⟨w.least * least, if w.most == some 0 then some 0 else do return (← w.most) * (← most)⟩

end Width

def Node.width : Node → Width
  | .empty | .anchor _ _ | .look _ _ _ => ⟨0, some 0⟩
  | .any _ | .set _ _ _ => ⟨1, some 1⟩
  | .seq p q => p.width.add q.width
  | .alt p q => p.width.either q.width
  | .repeated p least most _ => p.width.times least most
  | .group _ p | .atomic p => p.width
  | .reference _ _ w => w
  | .conditional _ yes no => yes.width.either no.width

/-- A look-behind may only look for text of one width. -/
def Node.looksBehindByFixedWidth : Node → Bool
  | .look ahead _ p =>
    (ahead || some p.width.least == p.width.most) && p.looksBehindByFixedWidth
  | .seq p q | .alt p q | .conditional _ p q =>
    p.looksBehindByFixedWidth && q.looksBehindByFixedWidth
  | .repeated p _ _ _ | .group _ p | .atomic p => p.looksBehindByFixedWidth
  | _ => true

inductive Error where
  | malformed
  /-- A repetition count is too large to be stored. -/
  | repetition
  deriving DecidableEq, Repr

end ModelStore.Pattern
