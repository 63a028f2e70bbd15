import Mathlib
import ModelStore.Query.Basic

/-!
The branches of a query as the nodes of a tree. Branches are numbered in the order in which they are
opened, so the branches below a branch take up the positions right after it: a clause spans an
interval of positions. From this follow the links between branches and the clause that is read off.
-/

namespace ModelStore

/-- The branch that a child refers to. -/
def Child.target? : Child → Option Nat
  | .leaf _ => none
  | .branch i | .negated i => some i

/-- The comparison that a child is. -/
def Child.leaf? : Child → Option Comparison
  | .leaf c => some c
  | .branch _ | .negated _ => none

namespace Branch

def targets (b : Branch) : List Nat := b.children.filterMap Child.target?

def clause (b : Branch) (cs : List Clause) : Clause := if b.isOr then .or cs else .and cs

theorem isOr_of_clause {b : Branch} {cs ds : List Clause} (shape : .and ds = b.clause cs) :
    b.isOr = false := by
  unfold clause at shape
  split at shape
  · cases shape
  · exact Bool.eq_false_iff.mpr ‹_›

end Branch

namespace Query

mutual

/-- The branch at `i` is the clause, the branches below it being those up to `stop`. -/
inductive Spans (bs : List Branch) : Nat → Nat → Clause → Prop where
  | node {i stop : Nat} {b : Branch} {cs : List Clause} {c : Clause} (found : bs[i]? = some b)
      (parts : SpansAll bs (i + 1) stop b.children cs) (shape : c = b.clause cs) :
      Spans bs i stop c

/-- The children are the clauses, the branches below them being those from `start` to `stop`. -/
inductive SpansAll (bs : List Branch) : Nat → Nat → List Child → List Clause → Prop where
  | nil {i : Nat} : SpansAll bs i i [] []
  | leaf {start stop : Nat} {c : Comparison} {ks : List Child} {cs : List Clause}
      (rest : SpansAll bs start stop ks cs) :
      SpansAll bs start stop (.leaf c :: ks) (.comparison c :: cs)
  | branch {i m stop : Nat} {c : Clause} {ks : List Child} {cs : List Clause}
      (head : Spans bs i m c) (rest : SpansAll bs m stop ks cs) :
      SpansAll bs i stop (.branch i :: ks) (c :: cs)
  | negated {i m stop : Nat} {ds cs : List Clause} {ks : List Child}
      (head : Spans bs i m (.and ds)) (rest : SpansAll bs m stop ks cs) :
      SpansAll bs i stop (.negated i :: ks) (.not (.and ds) :: cs)

end

variable {bs bs' : List Branch} {i j start next stop : Nat} {b : Branch} {c : Clause}
  {ks ks' : List Child} {cs cs' : List Clause}

mutual

theorem Spans.lt {i stop : Nat} {c : Clause} : Spans bs i stop c → i < stop
  | .node _ parts _ => parts.le

theorem SpansAll.le {start stop : Nat} {ks : List Child} {cs : List Clause} :
    SpansAll bs start stop ks cs → start ≤ stop
  | .nil => Nat.le_refl _
  | .leaf rest => rest.le
  | .branch head rest => Nat.le_trans (Nat.le_of_lt head.lt) rest.le
  | .negated head rest => Nat.le_trans (Nat.le_of_lt head.lt) rest.le

end

mutual

/-- A clause depends on nothing but the branches that it spans. -/
theorem Spans.agree {i stop : Nat} {c : Clause}
    (same : ∀ j, i ≤ j → j < stop → bs'[j]? = bs[j]?) : Spans bs i stop c → Spans bs' i stop c
  | .node found parts shape => by
    have bound := parts.le
    refine .node ((same i (Nat.le_refl _) (by omega)).trans found) (SpansAll.agree ?_ parts) shape
    intro j low high
    exact same j (by omega) high

theorem SpansAll.agree {start stop : Nat} {ks : List Child} {cs : List Clause}
    (same : ∀ j, start ≤ j → j < stop → bs'[j]? = bs[j]?) :
    SpansAll bs start stop ks cs → SpansAll bs' start stop ks cs
  | .nil => .nil
  | .leaf rest => .leaf (SpansAll.agree same rest)
  | .branch head rest => by
    have first := head.lt
    have second := rest.le
    refine .branch (Spans.agree ?_ head) (SpansAll.agree ?_ rest)
    · exact fun j low high => same j low (by omega)
    · exact fun j low high => same j (by omega) high
  | .negated head rest => by
    have first := head.lt
    have second := rest.le
    refine .negated (Spans.agree ?_ head) (SpansAll.agree ?_ rest)
    · exact fun j low high => same j low (by omega)
    · exact fun j low high => same j (by omega) high

end

theorem SpansAll.append (h : SpansAll bs start next ks cs) (h' : SpansAll bs next stop ks' cs') :
    SpansAll bs start stop (ks ++ ks') (cs ++ cs') := by
  induction ks generalizing start cs with
  | nil => cases h with
    | nil => exact h'
  | cons k ks ih =>
    cases h with
    | leaf rest => exact .leaf (ih rest)
    | branch head rest => exact .branch head (ih rest)
    | negated head rest => exact .negated head (ih rest)

theorem SpansAll.split (h : SpansAll bs start stop (ks ++ ks') cs) :
    ∃ next front back, cs = front ++ back ∧ SpansAll bs start next ks front ∧
      SpansAll bs next stop ks' back := by
  induction ks generalizing start cs with
  | nil => exact ⟨start, [], cs, rfl, .nil, h⟩
  | cons k ks ih =>
    cases h with
    | leaf rest =>
      obtain ⟨next, front, back, rfl, first, second⟩ := ih rest
      exact ⟨next, _ :: front, back, rfl, .leaf first, second⟩
    | branch head rest =>
      obtain ⟨next, front, back, rfl, first, second⟩ := ih rest
      exact ⟨next, _ :: front, back, rfl, .branch head first, second⟩
    | negated head rest =>
      obtain ⟨next, front, back, rfl, first, second⟩ := ih rest
      exact ⟨next, _ :: front, back, rfl, .negated head first, second⟩

/-! The clause that is read off with enough fuel. -/

/-- The clause of a child, with the given fuel for the branches below it. -/
def freezeChild (bs : List Branch) (fuel : Nat) : Child → Clause
  | .leaf c => .comparison c
  | .branch i => freezeBranch bs fuel i
  | .negated i => .not (freezeBranch bs fuel i)

theorem freezeBranch_succ (bs : List Branch) (fuel i : Nat) :
    freezeBranch bs (fuel + 1) i =
      ((bs[i]?).getD {}).clause (((bs[i]?).getD {}).children.map (freezeChild bs fuel)) := by
  simp only [freezeBranch, Branch.clause]
  congr 1

mutual

theorem Spans.freeze {fuel i stop : Nat} {c : Clause} (enough : stop ≤ i + fuel) :
    Spans bs i stop c → freezeBranch bs fuel i = c
  | .node found parts shape => by
    have bound := parts.le
    cases fuel with
    | zero => omega
    | succ fuel =>
      rw [freezeBranch_succ, found, shape, Option.getD_some, parts.freeze (by omega)]

theorem SpansAll.freeze {fuel start stop : Nat} {ks : List Child} {cs : List Clause}
    (enough : stop ≤ start + fuel) :
    SpansAll bs start stop ks cs → ks.map (freezeChild bs fuel) = cs
  | .nil => rfl
  | .leaf rest => by rw [List.map_cons, rest.freeze enough, freezeChild]
  | .branch head rest => by
    have first := head.lt
    have second := rest.le
    rw [List.map_cons, rest.freeze (by omega), freezeChild, head.freeze (by omega)]
  | .negated head rest => by
    have first := head.lt
    have second := rest.le
    rw [List.map_cons, rest.freeze (by omega), freezeChild, head.freeze (by omega)]

end

/-! Links between branches. -/

/-- The branches that the branch at a position refers to. -/
def targetsAt (bs : List Branch) (i : Nat) : List Nat := ((bs[i]?).getD {}).targets

/-- All references made by the branches from `start` to `stop`. -/
def references (bs : List Branch) (start stop : Nat) : List Nat :=
  (List.range' start (stop - start)).flatMap (targetsAt bs)

theorem references_split (low : start ≤ next) (high : next ≤ stop) :
    references bs start stop = references bs start next ++ references bs next stop := by
  have lengths : stop - start = (next - start) + (stop - next) := by omega
  have middle : start + (next - start) = next := by omega
  simp only [references, lengths, ← List.range'_append_1, List.flatMap_append, middle]

theorem references_first (low : start < stop) :
    references bs start stop = targetsAt bs start ++ references bs (start + 1) stop := by
  have length : stop - start = (stop - (start + 1)) + 1 := by omega
  simp only [references, length, List.range'_succ, List.flatMap_cons]

mutual

/-- Every branch below the first is referred to once. -/
theorem Spans.count {i stop : Nat} {c : Clause} (j : Nat) :
    Spans bs i stop c → (references bs i stop).count j = if i < j ∧ j < stop then 1 else 0
  | .node found parts shape => by
    have rest := parts.count j
    rw [references_first (by have := parts.le; omega), List.count_append]
    simp only [targetsAt, found, Option.getD_some, Branch.targets]
    rw [rest]
    simp only [Nat.lt_iff_add_one_le]

theorem SpansAll.count {start stop : Nat} {ks : List Child} {cs : List Clause} (j : Nat) :
    SpansAll bs start stop ks cs →
      (ks.filterMap Child.target?).count j + (references bs start stop).count j =
        if start ≤ j ∧ j < stop then 1 else 0
  | .nil => by
    simp only [references, Nat.sub_self, List.range'_zero, List.flatMap_nil, List.filterMap_nil,
      List.count_nil]
    split <;> omega
  | .leaf rest => by simpa only [List.filterMap_cons, Child.target?] using rest.count j
  | .branch head rest => by
    have here := head.count j
    have there := rest.count j
    have first := head.lt
    have second := rest.le
    rw [references_split (Nat.le_of_lt first) second]
    simp only [List.filterMap_cons, Child.target?, List.count_append, List.count_cons]
    simp only [beq_iff_eq]
    split at here <;> split at there <;> split <;> split <;> omega
  | .negated head rest => by
    have here := head.count j
    have there := rest.count j
    have first := head.lt
    have second := rest.le
    rw [references_split (Nat.le_of_lt first) second]
    simp only [List.filterMap_cons, Child.target?, List.count_append, List.count_cons]
    simp only [beq_iff_eq]
    split at here <;> split at there <;> split <;> split <;> omega

end

end Query

end ModelStore
