import ModelStore.Text.CharClass

/-! Letter case of whole texts: lower case with the final form of sigma, and a capital first letter. -/

namespace ModelStore.Text

def CaseRun.image? (r : CaseRun) (c : Nat) : Option Char :=
  if r.first ≤ c && c ≤ r.last && (c - r.first) % r.step == 0 then
    some (Char.ofNat (Int.toNat (c + r.shift)))
  else none

/-- The single-character lower-case image. -/
def lowerChar (c : Char) : Char :=
  if c == 'İ' then 'i'
  else if isAscii c then c.toLower
  else (lowerRuns.findSome? (·.image? c.toNat)).getD c

def titleChar (c : Char) : List Char :=
  match titleSequences.find? (·.1 == c.toNat) with
  | some (_, image) => image.map Char.ofNat
  | none => [(titleRuns.findSome? (·.image? c.toNat)).getD c]

/-- Whether a sigma between these characters (the ones before it nearest first) ends a word. -/
def isFinalSigma (before after : List Char) : Bool :=
  let cased (cs : List Char) :=
    match cs.dropWhile (covers caseIgnorableRanges ·) with
    | c :: _ => covers casedRanges c
    | [] => false
  cased before && !cased after

/-- Lower case of `cs` in a context whose characters before it are `before`, nearest first. -/
def lowerFrom (before : List Char) : List Char → List Char
  | [] => []
  | c :: cs =>
    let image :=
      if c == 'Σ' then [if isFinalSigma before cs then 'ς' else 'σ']
      else if c == 'İ' then ['i', Char.ofNat 775]
      else [lowerChar c]
    image ++ lowerFrom (c :: before) cs

def lower (s : String) : String := String.ofList (lowerFrom [] s.toList)

/-- A capital first letter followed by lower case. -/
def capitalize (s : String) : String :=
  match s.toList with
  | [] => ""
  | c :: cs => String.ofList (titleChar c ++ lowerFrom [c] cs)

end ModelStore.Text
