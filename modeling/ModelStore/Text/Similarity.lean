/-!
Similarity of names. Two sequences are compared by their longest common block and, recursively, by
what lies before and after it; the share of matched symbols ranks suggestions.
-/

namespace ModelStore.Text

section

variable {α : Type} [BEq α]

/-- A common block: its start in either sequence and its length. -/
structure Block where
  left : Nat
  right : Nat
  size : Nat

def commonPrefix : List α → List α → Nat
  | x :: xs, y :: ys => if x == y then commonPrefix xs ys + 1 else 0
  | _, _ => 0

/-- In words of 200 symbols and more, the symbols that make up over one percent. -/
def popularSymbols (word : List α) : List α :=
  if word.length < 200 then []
  else word.filter fun x => word.length / 100 + 1 < word.count x

/-- Lengths of the runs that end at `x` and each symbol of the word, given those one symbol earlier. -/
def runsEndingAt (popular : List α) (x : α) : Nat → List Nat → List α → List Nat
  | diagonal, above :: row, y :: ys =>
    (if x == y && !popular.contains y then diagonal + 1 else 0) ::
      runsEndingAt popular x above row ys
  | _, _, _ => []

/-- The first run of `row`, which ends at `left`, that is longer than `best`. -/
def longerRun (left : Nat) : Block → Nat → List Nat → Block
  | best, _, [] => best
  | best, right, run :: row =>
    longerRun left (if best.size < run then ⟨left + 1 - run, right + 1 - run, run⟩ else best)
      (right + 1) row

def longestRun (popular word : List α) : Block → Nat → List Nat → List α → Block
  | best, _, _, [] => best
  | best, left, row, x :: xs =>
    let row := runsEndingAt popular x 0 row word
    longestRun popular word (longerRun left best 0 row) (left + 1) row xs

/-- The earliest longest block free of popular symbols, then widened over equal symbols of any kind. -/
def longestBlock (popular xs word : List α) : Block :=
  let b := longestRun popular word ⟨0, 0, 0⟩ 0 (List.replicate word.length 0) xs
  let before := commonPrefix (xs.take b.left).reverse (word.take b.right).reverse
  let after := commonPrefix (xs.drop (b.left + b.size)) (word.drop (b.right + b.size))
  ⟨b.left - before, b.right - before, before + b.size + after⟩

/-- The number of symbols in matching blocks; every level consumes a symbol of `xs`. -/
def matchedWithin (popular : List α) : Nat → List α → List α → Nat
  | 0, _, _ => 0
  | fuel + 1, xs, word =>
    let b := longestBlock popular xs word
    if b.size == 0 then 0
    else
      matchedWithin popular fuel (xs.take b.left) (word.take b.right) + b.size +
        matchedWithin popular fuel (xs.drop (b.left + b.size)) (word.drop (b.right + b.size))

def matched (xs word : List α) : Nat := matchedWithin (popularSymbols word) xs.length xs word

end

/-- A share of matched symbols: `matched` of `total`, counting both sequences. -/
structure Score where
  matched : Nat
  total : Nat

namespace Score

/-- Two empty sequences agree in full. -/
def of (matched total : Nat) : Score := if total == 0 then ⟨1, 1⟩ else ⟨2 * matched, total⟩

/-- At least three fifths. -/
def isClose (s : Score) : Bool := 3 * s.total ≤ 5 * s.matched

def lt (s t : Score) : Bool := s.matched * t.total < t.matched * s.total

end Score

/--
The candidates closest to a word, at most `count`, best first and of equal ones the greater name
first. A symbol of the word that is no character is `none` and matches nothing.
-/
def closeMatches (word : List (Option Char)) (candidates : List String) (count : Nat) :
    List String :=
  let scored := candidates.map fun c =>
    let cs := c.toList.map some
    (Score.of (matched cs word) (cs.length + word.length), c)
  let atLeast (a b : Score × String) := b.1.lt a.1 || (!a.1.lt b.1 && !decide (a.2 < b.2))
  (((scored.filter (·.1.isClose)).mergeSort atLeast).take count).map (·.2)

end ModelStore.Text
