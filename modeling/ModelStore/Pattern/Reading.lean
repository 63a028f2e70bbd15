import ModelStore.Assoc
import ModelStore.Pattern.Basic

/-!
Reading the notation of patterns. The notation is cut into plain and escaped characters first;
reading then descends by recursion, each step taking fuel.
-/

namespace ModelStore.Pattern

inductive Token where
  | plain (c : Char)
  | escaped (c : Char)
  deriving DecidableEq, Repr

/-- A backslash needs a character after it. -/
def tokens : List Char → Except Error (List Token)
  | [] => .ok []
  | '\\' :: c :: cs => (Token.escaped c :: ·) <$> tokens cs
  | c :: cs => if c == '\\' then .error .malformed else (Token.plain c :: ·) <$> tokens cs

/-- What reading has seen so far. -/
structure Progress where
  rest : List Token
  /-- The number of the next capturing group. -/
  nextGroup : Nat := 1
  names : Assoc String Nat := []
  closed : Assoc Nat Width := []
  /-- The first group number that a look-behind around this place may not refer to. -/
  behind : Option Nat := none
  /-- Flags set for the whole pattern. -/
  flags : Flags := {}
  /-- Groups that conditions refer to. -/
  conditions : List Nat := []

abbrev Reading := StateT Progress (Except Error)

namespace Reading

def fail {α : Type} : Reading α := throw .malformed

def require (b : Bool) : Reading Unit := if b then pure () else fail

def peek : Reading (Option Token) := do return (← get).rest.head?

def next? : Reading (Option Token) := do
  let s ← get
  set { s with rest := s.rest.tail }
  return s.rest.head?

def next : Reading Token := do
  match ← next? with
  | some t => return t
  | none => fail

/-- Takes the character if it comes next. -/
def accept (c : Char) : Reading Bool := do
  if (← peek) == some (.plain c) then
    discard next?
    return true
  else return false

def expect (c : Char) : Reading Unit := do require (← accept c)

/-- Takes up to `limit` plain characters of a class. -/
def takeWhile (limit : Nat) (p : Char → Bool) : Reading (List Char) := do
  let s ← get
  let plain? : Token → Option Char
    | .plain c => if p c then some c else none
    | .escaped _ => none
  let cs := ((s.rest.take limit).takeWhile fun t => (plain? t).isSome).filterMap plain?
  set { s with rest := s.rest.drop cs.length }
  return cs

/-- The characters up to a closing one, which is dropped; escapes keep their backslash. -/
def upTo (stop : Char) : Reading String := do
  let s ← get
  let name := s.rest.takeWhile (· != .plain stop)
  set { s with rest := s.rest.drop (name.length + 1) }
  require (name.length < s.rest.length && !name.isEmpty)
  return String.ofList (name.flatMap fun
    | .plain c => [c]
    | .escaped c => ['\\', c])

end Reading

open Reading

def isHexDigit (c : Char) : Bool := c.isDigit || ('a' ≤ c && c ≤ 'f') || ('A' ≤ c && c ≤ 'F')

def isOctalDigit (c : Char) : Bool := '0' ≤ c && c ≤ '7'

def hexValue (c : Char) : Nat :=
  if c.isDigit then c.toNat - 48 else if c.toNat < 97 then c.toNat - 55 else c.toNat - 87

def numberOf (base : Nat) (cs : List Char) : Nat := cs.foldl (fun n c => base * n + hexValue c) 0

/-- The code point after `\x`, `\u` or `\U`. -/
def hexEscape (width : Nat) : Reading Nat := do
  let cs ← takeWhile width isHexDigit
  let n := numberOf 16 cs
  require (cs.length == width && n < 1114112)
  return n

/-- Control characters by letter. -/
def controlEscape? : Char → Option Nat
  | 'a' => some 7
  | 'f' => some 12
  | 'n' => some 10
  | 'r' => some 13
  | 't' => some 9
  | 'v' => some 11
  | _ => none

def kindEscape? : Char → Option Member
  | 'd' => some (.kind .digit false)
  | 'D' => some (.kind .digit true)
  | 's' => some (.kind .space false)
  | 'S' => some (.kind .space true)
  | 'w' => some (.kind .word false)
  | 'W' => some (.kind .word true)
  | _ => none

def anchorEscape? : Char → Option Anchor
  | 'A' => some .textStart
  | 'Z' => some .textEnd
  | 'b' => some (.boundary false)
  | 'B' => some (.boundary true)
  | _ => none

/-- The code point of an escape that stands for one character, digits apart. -/
def characterEscape (c : Char) : Reading Nat := do
  match controlEscape? c with
  | some n => return n
  | none =>
    if c == 'x' then hexEscape 2
    else if c == 'u' then hexEscape 4
    else if c == 'U' then hexEscape 8
    else
      require !(Text.isAscii c && c.isAlphanum)
      return c.toNat

def single (n : Nat) : Member := .range n n

/-- An escape inside a set. -/
def setEscape (c : Char) : Reading Member := do
  if c == 'b' then return single 8
  match kindEscape? c with
  | some m => return m
  | none =>
    if isOctalDigit c then
      let n := numberOf 8 (c :: (← takeWhile 2 isOctalDigit))
      require (n ≤ 255)
      return single n
    else return single (← characterEscape c)

def setMember : Token → Reading Member
  | .plain c => return single c.toNat
  | .escaped c => setEscape c

/-- The members of a set up to its closing bracket; the first may itself be a bracket. -/
def setMembers : Nat → List Member → Reading (List Member)
  | 0, _ => fail
  | fuel + 1, seen => do
    let t ← next
    if t == .plain ']' && !seen.isEmpty then return seen
    let low ← setMember t
    if ← accept '-' then
      let u ← next
      if u == .plain ']' then return seen ++ [low, single '-'.toNat]
      match low, ← setMember u with
      | .range a _, .range b _ =>
        require (a ≤ b)
        setMembers fuel (seen ++ [.range a b])
      | _, _ => fail
    else setMembers fuel (seen ++ [low])

/-- A reference must be to a closed group, and within a look-behind to one opened before it. -/
def checkBehind (index : Nat) : Reading Unit := do
  let s ← get
  match s.behind with
  | none => return ()
  | some limit => require (s.closed.has index && index < limit)

def reference (flags : Flags) (index : Nat) : Reading Node := do
  match (← get).closed.get? index with
  | none => fail
  | some w =>
    checkBehind index
    return .reference flags index w

/-- Digits after a backslash: an octal code point or the number of a group. -/
def digitEscape (flags : Flags) (c : Char) : Reading Node := do
  let character (n : Nat) : Reading Node := do
    require (n ≤ 255)
    return .set flags false [single n]
  if c == '0' then character (numberOf 8 (c :: (← takeWhile 2 isOctalDigit)))
  else
    match ← takeWhile 1 Char.isDigit with
    | [d] =>
      if isOctalDigit c && isOctalDigit d then
        match ← takeWhile 1 isOctalDigit with
        | [e] => character (numberOf 8 [c, d, e])
        | _ => reference flags (numberOf 10 [c, d])
      else reference flags (numberOf 10 [c, d])
    | _ => reference flags (numberOf 10 [c])

def escape (flags : Flags) (c : Char) : Reading Node := do
  match anchorEscape? c, kindEscape? c with
  | some a, _ => return .anchor flags a
  | none, some m => return .set flags false [m]
  | none, none =>
    if c.isDigit then digitEscape flags c
    else return .set flags false [single (← characterEscape c)]

/-- A count is below `2 ^ 32 - 1`. -/
def checkCount (n : Nat) : Reading Unit :=
  if n < 4294967295 then pure () else throw .repetition

/-- The bounds after an opening brace, or nothing when the brace stands for itself. -/
def bounds? : Reading (Option (Nat × Option Nat)) := do
  let start ← get
  if start.rest.head? == some (.plain '}') then return none
  let low ← takeWhile start.rest.length Char.isDigit
  let comma ← accept ','
  let high ← if comma then takeWhile start.rest.length Char.isDigit else pure low
  if !(← accept '}') then
    set start
    return none
  let least := numberOf 10 low
  checkCount least
  if high.isEmpty then return some (least, none)
  let most := numberOf 10 high
  checkCount most
  require (least ≤ most)
  return some (least, some most)

def isFlag (c : Char) : Bool := ['i', 'm', 's', 'x', 'a', 'u'].contains c

def applyFlag (on : Bool) (f : Flags) : Char → Flags
  | 'i' => { f with ignoreCase := on }
  | 'm' => { f with multiline := on }
  | 's' => { f with dotAll := on }
  | 'x' => { f with verbose := on }
  | 'a' => { f with ascii := true }
  | 'u' => { f with ascii := false }
  | _ => f

/-- The letters of a flag group up to its closing character, which may not be another letter. -/
def flagLetters (stops : List Char) : Reading (List Char × Char) := do
  let letters ← takeWhile (← get).rest.length isFlag
  match ← next with
  | .plain c =>
    require (stops.contains c)
    return (letters, c)
  | .escaped _ => fail

/-- What the opening of a flag group sets: the whole pattern, or the group that follows. -/
inductive FlagScope where
  | whole (flags : Flags)
  | group (flags : Flags)

def flagScope (flags : Flags) (first : Char) : Reading FlagScope := do
  let (on, stop) ← if first == '-' then pure ([], '-') else do
    let (letters, stop) ← flagLetters [')', '-', ':']
    pure (first :: letters, stop)
  require !(on.contains 'a' && on.contains 'u')
  let turned := on.foldl (applyFlag true) flags
  if stop == ')' then
    let s ← get
    set { s with flags := on.foldl (applyFlag true) s.flags }
    return .whole turned
  else if stop == ':' then return .group turned
  else
    let (off, _) ← flagLetters [':']
    require (!off.isEmpty && !off.contains 'a' && !off.contains 'u' && !off.any on.contains)
    return .group (off.foldl (applyFlag false) turned)

def isNameChar (c : Char) : Bool := Text.isWord c

def isName (s : String) : Bool :=
  s.toList.all isNameChar && s.toList.head?.all fun c => (Text.decimalDigit? c).isNone

/-- Opens a capturing group and returns its number. -/
def openGroup (name : Option String) : Reading Nat := do
  let s ← get
  match name with
  | some n => require (isName n && !s.names.has n)
  | none => pure ()
  set { s with
    nextGroup := s.nextGroup + 1
    names := match name with
      | some n => s.names.put n s.nextGroup
      | none => s.names }
  return s.nextGroup

/-- The group that a condition names, by name or number. -/
def conditionGroup (name : String) : Reading Nat := do
  let s ← get
  if isName name then
    match s.names.get? name with
    | some index => return index
    | none => fail
  else
    require (name.toList.all Char.isDigit)
    let index := numberOf 10 name.toList
    require (0 < index && index < 1073741823)
    set { s with conditions := index :: s.conditions }
    return index

/-- Drops a comment up to a character; a missing one is an error if it is required. -/
def skipPast (stop : Char) (required : Bool) : Reading Unit := do
  let s ← get
  let rest := s.rest.dropWhile (· != .plain stop)
  if required then require !rest.isEmpty
  set { s with rest := rest.tail }

def sequence (nodes : List Node) : Node := nodes.reverse.foldl (fun q p => .seq p q) .empty

/-- Puts a repetition in place of the last node, the head of `nodes`. -/
def repeatLast (least : Nat) (most : Option Nat) : List Node → Reading (List Node)
  | [] | .anchor _ _ :: _ | .repeated _ _ _ _ :: _ => fail
  | p :: nodes => do
    if ← accept '?' then
      return .repeated p least most .lazy :: nodes
    if ← accept '+' then
      return .repeated p least most .possessive :: nodes
    return .repeated p least most .greedy :: nodes

mutual

/-- Alternatives up to the end of the group; at top level, flags for the whole pattern may lead. -/
def alternatives : Nat → Flags → Bool → Reading Node
  | 0, _, _ => fail
  | fuel + 1, flags, top => do
    let p ← branch fuel flags top []
    let whole := (← get).flags
    moreAlternatives fuel (if top then whole else flags) p

def moreAlternatives : Nat → Flags → Node → Reading Node
  | 0, _, _ => fail
  | fuel + 1, flags, p => do
    if ← accept '|' then
      let q ← branch fuel flags false []
      moreAlternatives fuel flags (.alt p q)
    else return p

/-- One alternative; `nodes` are those read so far, last one first. -/
def branch : Nat → Flags → Bool → List Node → Reading Node
  | 0, _, _, _ => fail
  | fuel + 1, flags, first, nodes => do
    match ← peek with
    | none | some (.plain '|') | some (.plain ')') => return sequence nodes.reverse
    | some (.escaped c) =>
      discard next
      branch fuel flags first ((← escape flags c) :: nodes)
    | some (.plain c) =>
      discard next
      if flags.verbose && [' ', '\t', '\n', '\r', '\x0b', '\x0c'].contains c then
        branch fuel flags first nodes
      else if flags.verbose && c == '#' then
        skipPast '\n' false
        branch fuel flags first nodes
      else if c == '[' then
        let negated ← accept '^'
        let members ← setMembers fuel []
        branch fuel flags first (.set flags negated members :: nodes)
      else if c == '?' then branch fuel flags first (← repeatLast 0 (some 1) nodes)
      else if c == '*' then branch fuel flags first (← repeatLast 0 none nodes)
      else if c == '+' then branch fuel flags first (← repeatLast 1 none nodes)
      else if c == '{' then
        match ← bounds? with
        | none => branch fuel flags first (.set flags false [single c.toNat] :: nodes)
        | some (least, most) => branch fuel flags first (← repeatLast least most nodes)
      else if c == '.' then branch fuel flags first (.any flags :: nodes)
      else if c == '^' then branch fuel flags first (.anchor flags .lineStart :: nodes)
      else if c == '$' then branch fuel flags first (.anchor flags .lineEnd :: nodes)
      else if c == '(' then
        if ← accept '?' then extension fuel flags first nodes
        else
          let p ← numbered fuel flags none
          branch fuel flags first (p :: nodes)
      else branch fuel flags first (.set flags false [single c.toNat] :: nodes)

/-- The inside of a capturing group and its closing parenthesis. -/
def numbered : Nat → Flags → Option String → Reading Node
  | 0, _, _ => fail
  | fuel + 1, flags, name => do
    let index ← openGroup name
    let p ← alternatives fuel flags false
    expect ')'
    modify fun s => { s with closed := s.closed.put index p.width }
    return .group (some index) p

/-- The inside of a look-around; in a look-behind, later groups are out of reach. -/
def lookaround : Nat → Flags → Bool → Bool → Reading Node
  | 0, _, _, _ => fail
  | fuel + 1, flags, ahead, negated => do
    let outer := (← get).behind
    if !ahead && outer.isNone then modify fun s => { s with behind := some s.nextGroup }
    let p ← alternatives fuel flags false
    if !ahead && outer.isNone then modify fun s => { s with behind := none }
    expect ')'
    return .look ahead negated p

/-- What follows an opening parenthesis and a question mark. -/
def extension : Nat → Flags → Bool → List Node → Reading Node
  | 0, _, _, _ => fail
  | fuel + 1, flags, first, nodes => do
    match ← next with
    | .escaped _ => fail
    | .plain c =>
      if c == 'P' then
        if ← accept '<' then
          let name ← upTo '>'
          let p ← numbered fuel flags (some name)
          branch fuel flags first (p :: nodes)
        else if ← accept '=' then
          let name ← upTo ')'
          match (← get).names.get? name with
          | none => fail
          | some index =>
            let p ← reference flags index
            branch fuel flags first (p :: nodes)
        else fail
      else if c == ':' then
        let p ← alternatives fuel flags false
        expect ')'
        branch fuel flags first (.group none p :: nodes)
      else if c == '>' then
        let p ← alternatives fuel flags false
        expect ')'
        branch fuel flags first (.atomic p :: nodes)
      else if c == '#' then
        skipPast ')' true
        branch fuel flags first nodes
      else if c == '=' || c == '!' then
        let p ← lookaround fuel flags true (c == '!')
        branch fuel flags first (p :: nodes)
      else if c == '<' then
        match ← next with
        | .plain '=' =>
          let p ← lookaround fuel flags false false
          branch fuel flags first (p :: nodes)
        | .plain '!' =>
          let p ← lookaround fuel flags false true
          branch fuel flags first (p :: nodes)
        | _ => fail
      else if c == '(' then
        let index ← conditionGroup (← upTo ')')
        checkBehind index
        let yes ← branch fuel flags false []
        let no ← if ← accept '|' then branch fuel flags false [] else pure .empty
        expect ')'
        branch fuel flags first (.conditional index yes no :: nodes)
      else if isFlag c || c == '-' then
        match ← flagScope flags c with
        | .whole flags =>
          require (first && nodes.isEmpty)
          branch fuel flags first nodes
        | .group inner =>
          let p ← alternatives fuel inner false
          expect ')'
          branch fuel flags first (.group none p :: nodes)
      else fail

end

/-- Reads a whole pattern. -/
def read (source : String) : Except Error Node := do
  let ts ← tokens source.toList
  let (p, s) ← (alternatives (4 * ts.length + 8) {} true).run { rest := ts }
  if s.rest.isEmpty && s.conditions.all (· < s.nextGroup) && p.looksBehindByFixedWidth then
    return p
  else throw .malformed

end ModelStore.Pattern
