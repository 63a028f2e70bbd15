import ModelStore.Pattern.Reading

/-!
Matching. A node maps a state to the states in which it may leave off, preferred ones first; a text
contains a match when some start leads to a state.
-/

namespace ModelStore.Pattern

/-- Letters that differ in lower case although they share an upper-case form. -/
def caseSiblings : List (List Nat) :=
  [[0x69, 0x131], [0x73, 0x17f], [0xb5, 0x3bc], [0x345, 0x3b9, 0x1fbe], [0x390, 0x1fd3],
   [0x3b0, 0x1fe3], [0x3b2, 0x3d0], [0x3b5, 0x3f5], [0x3b8, 0x3d1], [0x3ba, 0x3f0],
   [0x3c0, 0x3d6], [0x3c1, 0x3f1], [0x3c2, 0x3c3], [0x3c6, 0x3d5], [0x432, 0x1c80],
   [0x434, 0x1c81], [0x43e, 0x1c82], [0x441, 0x1c83], [0x442, 0x1c84, 0x1c85],
   [0x44a, 0x1c86], [0x463, 0x1c87], [0x1c88, 0xa64b], [0x1e61, 0x1e9b], [0xfb05, 0xfb06]]

/-- Lower case as the flags see it. -/
def fold (flags : Flags) (c : Char) : Char :=
  if flags.ascii then c.toLower else Text.lowerChar c

/-- The characters that `c` stands for when case is ignored: all with the same lower case or a sibling. -/
def caseVariants (flags : Flags) (c : Char) : List Char :=
  let low := fold flags c
  if flags.ascii then [low, low.toUpper]
  else
    let lows := low :: ((caseSiblings.find? (·.contains low.toNat)).getD []).map Char.ofNat
    let ofRun (l : Char) (r : Text.CaseRun) : Option Char :=
      let u := Char.ofNat ((l.toNat : Int) - r.shift).toNat
      if Text.lowerChar u == l then some u else none
    lows.flatMap fun l =>
      l :: l.toUpper :: (if l == 'i' then ['İ'] else []) ++ Text.lowerRuns.toList.filterMap (ofRun l)

def Kind.holds (flags : Flags) (k : Kind) (c : Char) : Bool :=
  match k with
  | .digit => if flags.ascii then c.isDigit else (Text.decimalDigit? c).isSome
  | .space => if flags.ascii then Text.isAsciiBlank c else Text.isBlank c
  | .word => if flags.ascii then c.isAlphanum || c == '_' else Text.isWord c

def Member.holds (flags : Flags) (c : Char) : Member → Bool
  | .range first last => first ≤ c.toNat && c.toNat ≤ last
  | .kind k negated => k.holds flags c != negated

def inSet (flags : Flags) (members : List Member) (c : Char) : Bool :=
  if flags.ignoreCase then
    let variants := c :: caseVariants flags c
    members.any fun
      | .kind k negated => k.holds flags (fold flags c) != negated
      | m => variants.any fun v => m.holds flags v
  else members.any (·.holds flags c)

/-- A position and the bounds of the groups captured so far. -/
structure State where
  pos : Nat
  captured : Assoc Nat (Nat × Nat)
  deriving DecidableEq

def Anchor.holds (text : Array Char) (flags : Flags) (pos : Nat) : Anchor → Bool
  | .lineStart => pos == 0 || (flags.multiline && text[pos - 1]? == some '\n')
  | .lineEnd =>
    pos == text.size || (text[pos]? == some '\n' && (flags.multiline || pos + 1 == text.size))
  | .textStart => pos == 0
  | .textEnd => pos == text.size
  | .boundary negated =>
    let isWord (c : Option Char) := c.any (Kind.word.holds flags)
    let before := if pos == 0 then false else isWord text[pos - 1]?
    text.size != 0 && ((before != isWord text[pos]?) != negated)

def step (text : Array Char) (s : State) (accepts : Char → Bool) : List State :=
  match text[s.pos]? with
  | some c => if accepts c then [{ s with pos := s.pos + 1 }] else []
  | none => []

/-- Runs `p` exactly `count` times. -/
def times (p : State → List State) : Nat → State → List State
  | 0, s => [s]
  | count + 1, s => ((p s).flatMap (times p count)).eraseDups

/-- Runs `p` up to `count` times; a run that takes up no text is the last one. -/
def upToTimes (p : State → List State) (lazy : Bool) : Nat → State → List State
  | 0, s => [s]
  | count + 1, s =>
    let more := (p s).flatMap fun t =>
      if t.pos == s.pos then [t] else upToTimes p lazy count t
    (if lazy then s :: more else more ++ [s]).eraseDups

/-- Steps over the text that a group captured. -/
def stepReference (text : Array Char) (flags : Flags) (index : Nat) (s : State) : List State :=
  match s.captured.get? index with
  | none => []
  | some (first, last) =>
    let same (a b : Char) :=
      if flags.ignoreCase then fold flags a == fold flags b else a == b
    let word := (text.extract first last).toList
    let here := (text.extract s.pos (s.pos + word.length)).toList
    if here.length == word.length && (word.zip here).all fun (a, b) => same a b then
      [{ s with pos := s.pos + word.length }]
    else []

def Node.run (text : Array Char) : Node → State → List State
  | .empty, s => [s]
  | .any flags, s => step text s fun c => flags.dotAll || c != '\n'
  | .set flags negated members, s => step text s fun c => inSet flags members c != negated
  | .anchor flags a, s => if a.holds text flags s.pos then [s] else []
  | .seq p q, s => ((p.run text s).flatMap (q.run text)).eraseDups
  | .alt p q, s => (p.run text s ++ q.run text s).eraseDups
  | .repeated p least most greed, s =>
    let left := text.size + 1
    let extra := match most with
      | some m => min (m - least) left
      | none => left
    let ends := ((times (p.run text) least s).flatMap
      (upToTimes (p.run text) (greed == .lazy) extra)).eraseDups
    if greed == .possessive then ends.take 1 else ends
  | .group none p, s => p.run text s
  | .group (some index) p, s =>
    (p.run text s).map fun t => { t with captured := t.captured.put index (s.pos, t.pos) }
  | .atomic p, s => (p.run text s).take 1
  | .look ahead negated p, s =>
    let starts := if ahead then [s]
      else if p.width.least ≤ s.pos then [{ s with pos := s.pos - p.width.least }] else []
    match starts.flatMap (p.run text) with
    | t :: _ => if negated then [] else [{ t with pos := s.pos }]
    | [] => if negated then [s] else []
  | .reference flags index _, s => stepReference text flags index s
  | .conditional index yes no, s =>
    if s.captured.has index then yes.run text s else no.run text s

/-- Whether the pattern matches anywhere in the text. -/
def Node.occursIn (p : Node) (text : String) : Bool :=
  let cs := text.toList.toArray
  (List.range (cs.size + 1)).any fun start => !(p.run cs ⟨start, []⟩).isEmpty

end ModelStore.Pattern
