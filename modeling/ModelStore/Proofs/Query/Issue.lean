import ModelStore.Filter
import ModelStore.Proofs.Query.Calls

/-!
Clauses entered into a query by calls on the builder: a clause with parts opens a branch, enters its
parts and closes the branch. The main statement is that this adds the clauses to the innermost open
branch and leaves everything else as it was.
-/

namespace ModelStore.Query

open Clause (comparisonsAll)

mutual

/-- Enters a clause that is written with negations of conjunctions only. -/
def issue : Clause → Query → Except Error Query
  | .comparison c, q => q.append c
  | .and cs, q => Filter.inBranch openAnd (issueAll cs) q
  | .or cs, q => Filter.inBranch openOr (issueAll cs) q
  | .not (.and cs), q => Filter.inBranch openNot (issueAll cs) q
  | .not _, q | .foreign _, q => .ok q

def issueAll : List Clause → Query → Except Error Query
  | [], q => .ok q
  | c :: cs, q => do issueAll cs (← issue c q)

end

/-- The second query is the first one with these clauses added to the branch at `i`. -/
structure Gains (q r : Query) (i : Nat) (cs : List Clause) : Prop where
  frame : r = { q with branches := r.branches }
  branches : ∃ ks fresh, r.branches = extended q.branches i ks fresh ∧
    SpansAll r.branches q.branches.length r.branches.length ks cs

variable {bs : List Branch} {q r s : Query} {i tip : Nat} {rest : List Nat}
  {ks ks' : List Child} {fresh fresh' : List Branch} {c : Clause} {cs cs' : List Clause}

theorem extended_extended (inside : tip < bs.length) :
    extended (extended bs tip ks fresh) tip ks' fresh' =
      extended bs tip (ks ++ ks') (fresh ++ fresh') := by
  have within : tip < (bs.modify tip fun b => { b with children := b.children ++ ks }).length := by
    rwa [List.length_modify]
  rw [extended, extended, modify_append within, List.modify_modify_eq, extended, List.append_assoc]
  congr 2
  funext b
  simp only [Function.comp_apply, List.append_assoc]

theorem extended_opened (isOr : Bool) :
    extended (extended bs tip ks [{ isOr }]) bs.length ks' fresh' =
      extended bs tip ks ({ isOr, children := ks' } :: fresh') := by
  have length : (bs.modify tip fun b => { b with children := b.children ++ ks }).length =
      bs.length := List.length_modify ..
  rw [extended, extended, ← length]
  rw [List.modify, ← Nat.add_zero (List.length _), List.modifyTailIdx_add, extended, List.append_assoc]
  rfl

namespace Gains

theorem refl : Gains q q i [] := by
  refine ⟨rfl, [], [], ?_, .nil⟩
  simp only [extended, List.append_nil]
  exact (List.modify_id ..).symm

theorem length_le (h : Gains q r i cs) : q.branches.length ≤ r.branches.length := by
  obtain ⟨ks, fresh, branches, -⟩ := h.branches
  rw [branches, length_extended]
  omega

theorem trans (first : Gains q r i cs) (second : Gains r s i cs') (inside : i < q.branches.length) :
    Gains q s i (cs ++ cs') := by
  have within : i < r.branches.length := Nat.lt_of_lt_of_le inside first.length_le
  obtain ⟨frame, ks, fresh, branches, spans⟩ := first
  obtain ⟨frame', ks', fresh', branches', spans'⟩ := second
  refine ⟨by rw [frame', frame], ks ++ ks', fresh ++ fresh', ?_, SpansAll.append ?_ spans'⟩
  · rw [branches', branches, extended_extended inside]
  · refine spans.agree fun x low high => ?_
    rw [branches', extended_other high (by omega)]

theorem append (tip : q.stack = i :: rest) (x : Comparison) :
    ∃ r, q.append x = .ok r ∧ Gains q r i [.comparison x] := by
  refine ⟨{ q with branches := appendChild q.branches i (.leaf x) }, ?_, rfl, [.leaf x], [], ?_, ?_⟩
  · simp only [Query.append, current, tip]
    rfl
  · exact appendChild_eq_extended ..
  · rw [appendChild_eq_extended, length_extended]
    exact .leaf .nil

/-- What fills a branch becomes one part of the branch around it. -/
theorem inBranch {call : String} {isOr : Bool} {link : Nat → Child}
    {fill : Query → Except Error Query} {d : Clause} (tip : q.stack = i :: rest)
    (inside : i < q.branches.length)
    (filled : ∀ p : Query, p.stack = q.branches.length :: i :: rest →
      q.branches.length < p.branches.length →
      ∃ r, fill p = .ok r ∧ Gains p r q.branches.length cs)
    (linked : ∀ (bs : List Branch) (j stop : Nat), Spans bs j stop (Branch.clause { isOr } cs) →
      SpansAll bs j stop [link j] [d]) :
    ∃ r, Filter.inBranch (fun q => q.openBranch call isOr link) fill q = .ok r ∧ Gains q r i [d] := by
  let p : Query := { q with
    branches := appendChild (q.branches ++ [{ isOr }]) i (link q.branches.length)
    stack := q.branches.length :: i :: rest }
  have opened : q.openBranch call isOr link = .ok p := by
    simp only [openBranch, current, tip]
    rfl
  have start : p.branches = extended q.branches i [link q.branches.length] [{ isOr }] :=
    appendChild_fresh_eq_extended _ _ inside
  have length : p.branches.length = q.branches.length + 1 := by
    rw [start, length_extended]
    rfl
  obtain ⟨r, success, frame, ks, fresh, branches, spans⟩ := filled p rfl (by omega)
  have closed : r.close = .ok { r with stack := i :: rest } := by rw [frame]; rfl
  refine ⟨{ r with stack := i :: rest }, ?_, ?_, [link q.branches.length],
    { isOr, children := ks } :: fresh, ?_, ?_⟩
  · simp only [Filter.inBranch, opened, Bind.bind, Except.bind, success, closed]
  · rw [frame, ← tip]
  · rw [branches, start, extended_opened]
  · refine linked _ _ _ (.node (b := { isOr, children := ks }) ?_ ?_ rfl)
    · have found : p.branches[q.branches.length]? = some { isOr } := by
        rw [start, extended, List.getElem?_append_right (Nat.le_of_eq (List.length_modify ..)),
          List.length_modify, Nat.sub_self]
        rfl
      rw [branches]
      exact extended_tip _ _ found
    · rw [← length]
      exact spans

end Gains

mutual

theorem issue_gains : ∀ (c : Clause) {q : Query} {i : Nat} {rest : List Nat},
    q.stack = i :: rest → i < q.branches.length → c.regular = true →
    ∃ r, issue c q = .ok r ∧ Gains q r i [c]
  | .comparison x, q, i, rest, tip, _, _ => Gains.append tip x
  | .and cs, q, i, rest, tip, inside, regular =>
    Gains.inBranch tip inside (fun _ tip' inside' => issueAll_gains cs tip' inside' regular)
      fun _ _ _ node => .branch node .nil
  | .or cs, q, i, rest, tip, inside, regular =>
    Gains.inBranch tip inside (fun _ tip' inside' => issueAll_gains cs tip' inside' regular)
      fun _ _ _ node => .branch node .nil
  | .not (.and cs), q, i, rest, tip, inside, regular =>
    Gains.inBranch tip inside (fun _ tip' inside' => issueAll_gains cs tip' inside' regular)
      fun _ _ _ node => .negated node .nil
  | .not (.or _), _, _, _, _, _, regular => by cases regular
  | .not (.not _), _, _, _, _, _, regular => by cases regular
  | .not (.comparison _), _, _, _, _, _, regular => by cases regular
  | .not (.foreign _), _, _, _, _, _, regular => by cases regular
  | .foreign _, _, _, _, _, _, regular => by cases regular

/-- Clauses are entered one after another, whatever has been entered before. -/
theorem issueAll_gains : ∀ (cs : List Clause) {q : Query} {i : Nat} {rest : List Nat},
    q.stack = i :: rest → i < q.branches.length → Clause.regularAll cs = true →
    ∃ r, issueAll cs q = .ok r ∧ Gains q r i cs
  | [], q, _, _, _, _, _ => ⟨q, rfl, .refl⟩
  | c :: cs, q, i, rest, tip, inside, regular => by
    obtain ⟨here, there⟩ := Bool.and_eq_true_iff.mp regular
    obtain ⟨r, entered, gained⟩ := issue_gains c tip inside here
    have tip' : r.stack = i :: rest := by rw [gained.frame, tip]
    have inside' := Nat.lt_of_lt_of_le inside gained.length_le
    obtain ⟨s, entered', gained'⟩ := issueAll_gains cs tip' inside' there
    refine ⟨s, ?_, gained.trans gained' inside⟩
    simp only [issueAll, entered, Bind.bind, Except.bind, entered']

end

/-- Entered at the root, clauses come after those that were there. -/
theorem Gains.whereClause (h : Gains q r 0 cs) (old : Spans q.branches 0 q.branches.length (.and cs')) :
    r.whereClause = .and (cs' ++ cs) ∧ Spans r.branches 0 r.branches.length (.and (cs' ++ cs)) := by
  have whole : Spans r.branches 0 r.branches.length (.and (cs' ++ cs)) := by
    obtain ⟨-, ks, fresh, branches, spans⟩ := h
    cases old with
    | node found parts shape =>
      rename_i b ds
      have conjunction := Branch.isOr_of_clause shape
      have same : ds = cs' := by
        rw [Branch.clause, conjunction] at shape
        exact (Clause.and.inj shape).symm
      subst same
      have found' : r.branches[0]? = some { b with children := b.children ++ ks } := by
        rw [branches]
        exact extended_tip _ _ found
      have before : SpansAll r.branches 1 q.branches.length b.children ds :=
        parts.agree fun x low high => by rw [branches, extended_other high (by omega)]
      refine .node found' (before.append spans) ?_
      simp only [Branch.clause, conjunction]
      rfl
  exact ⟨whole.freeze (by omega), whole⟩

end ModelStore.Query
