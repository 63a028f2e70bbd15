import Mathlib
import ModelStore.Proofs.Query.Calls

/-!
The branches of a query as a tree in terms of its links alone, and what is read off from it. The main
statement is about all runs of calls on a new query: the links form a tree, the clause is read off
without an end of fuel and without a negation of anything but a conjunction, and it holds what the
calls added.
-/

namespace ModelStore

namespace Query

mutual

/-- Reading off the clause of a branch comes to an end with this clause. -/
inductive Reads (bs : List Branch) : Nat → Clause → Prop where
  | branch {i : Nat} {b : Branch} {cs : List Clause} (found : bs[i]? = some b)
      (parts : ReadsAll bs b.children cs) : Reads bs i (b.clause cs)

/-- What stands under a negation has to be read off as a conjunction. -/
inductive ReadsAll (bs : List Branch) : List Child → List Clause → Prop where
  | nil : ReadsAll bs [] []
  | leaf {c : Comparison} {ks : List Child} {cs : List Clause} (rest : ReadsAll bs ks cs) :
      ReadsAll bs (.leaf c :: ks) (.comparison c :: cs)
  | branch {i : Nat} {c : Clause} {ks : List Child} {cs : List Clause} (head : Reads bs i c)
      (rest : ReadsAll bs ks cs) : ReadsAll bs (.branch i :: ks) (c :: cs)
  | negated {i : Nat} {ds cs : List Clause} {ks : List Child} (head : Reads bs i (.and ds))
      (rest : ReadsAll bs ks cs) : ReadsAll bs (.negated i :: ks) (.not (.and ds) :: cs)

end

/-- Links lead forward and reach every branch but the first once, those of negations lead to
    conjunctions, and the open branches are a path from the first one. -/
structure IsTree (bs : List Branch) (stack : List Nat) : Prop where
  root : ∃ b, bs[0]? = some b ∧ b.isOr = false
  forward : ∀ i j, j ∈ targetsAt bs i → i < j ∧ j < bs.length
  once : ∀ j, 0 < j → j < bs.length → (references bs 0 bs.length).count j = 1
  conjunction : ∀ (i : Nat) (b : Branch) (j : Nat), bs[i]? = some b → Child.negated j ∈ b.children →
    ∃ d, bs[j]? = some d ∧ d.isOr = false
  path : stack = [] ∨ (stack.getLast? = some 0 ∧ stack.IsChain fun j i => j ∈ targetsAt bs i)

variable {bs : List Branch} {i j start stop : Nat} {c : Clause} {ks : List Child} {cs : List Clause}

mutual

theorem Spans.reads {i stop : Nat} {c : Clause} : Spans bs i stop c → Reads bs i c
  | .node found parts shape => shape ▸ .branch found parts.reads

theorem SpansAll.reads {start stop : Nat} {ks : List Child} {cs : List Clause} :
    SpansAll bs start stop ks cs → ReadsAll bs ks cs
  | .nil => .nil
  | .leaf rest => .leaf rest.reads
  | .branch head rest => .branch head.reads rest.reads
  | .negated head rest => .negated head.reads rest.reads

end

theorem Branch.clause_regular {b : Branch} (parts : Clause.regularAll cs = true) :
    (b.clause cs).regular = true := by
  unfold Branch.clause
  split <;> exact parts

mutual

theorem Spans.regular {i stop : Nat} {c : Clause} : Spans bs i stop c → c.regular = true
  | .node _ parts shape => shape ▸ Branch.clause_regular parts.regular

theorem SpansAll.regular {start stop : Nat} {ks : List Child} {cs : List Clause} :
    SpansAll bs start stop ks cs → Clause.regularAll cs = true
  | .nil => rfl
  | .leaf rest => rest.regular
  | .branch head rest => Bool.and_eq_true_iff.mpr ⟨head.regular, rest.regular⟩
  | .negated head rest => Bool.and_eq_true_iff.mpr ⟨head.regular, rest.regular⟩

end

mutual

/-- Every branch of an interval has a clause of its own within it. -/
theorem Spans.within {i stop : Nat} {c : Clause} (j : Nat) (low : i ≤ j) (high : j < stop) :
    Spans bs i stop c → ∃ next d, next ≤ stop ∧ Spans bs j next d
  | .node found parts shape => by
    by_cases here : i = j
    · subst here
      exact ⟨stop, c, Nat.le_refl _, .node found parts shape⟩
    · exact parts.within j (by omega) high

theorem SpansAll.within {start stop : Nat} {ks : List Child} {cs : List Clause} (j : Nat)
    (low : start ≤ j) (high : j < stop) :
    SpansAll bs start stop ks cs → ∃ next d, next ≤ stop ∧ Spans bs j next d
  | .nil => by omega
  | .leaf rest => rest.within j low high
  | .branch (m := middle) head rest => by
    by_cases first : j < middle
    · obtain ⟨next, d, bound, here⟩ := head.within j low first
      exact ⟨next, d, Nat.le_trans bound rest.le, here⟩
    · exact rest.within j (Nat.le_of_not_lt first) high
  | .negated (m := middle) head rest => by
    by_cases first : j < middle
    · obtain ⟨next, d, bound, here⟩ := head.within j low first
      exact ⟨next, d, Nat.le_trans bound rest.le, here⟩
    · exact rest.within j (Nat.le_of_not_lt first) high

end

theorem SpansAll.target_within {k : Child} (h : SpansAll bs start stop ks cs) (member : k ∈ ks)
    (target : k.target? = some j) : start ≤ j ∧ j < stop := by
  obtain ⟨front, back, rfl⟩ := List.append_of_mem member
  obtain ⟨next, _, _, rfl, first, second⟩ := h.split
  have low := first.le
  cases second with
  | leaf rest => cases target
  | branch head rest | negated head rest =>
    cases target
    exact ⟨low, Nat.lt_of_lt_of_le head.lt rest.le⟩

theorem SpansAll.negated_conjunction (h : SpansAll bs start stop ks cs)
    (member : Child.negated j ∈ ks) : ∃ d, bs[j]? = some d ∧ d.isOr = false := by
  obtain ⟨front, back, rfl⟩ := List.append_of_mem member
  obtain ⟨next, _, _, rfl, -, second⟩ := h.split
  cases second with
  | negated head rest =>
    cases head with
    | node found parts shape => exact ⟨_, found, Branch.isOr_of_clause shape⟩

theorem Spine.path {stack : List Nat} (h : Spine bs stack) :
    stack.getLast? = some 0 ∧ stack.IsChain fun j i => j ∈ targetsAt bs i := by
  induction h with
  | root => exact ⟨rfl, .singleton _⟩
  | down found children target later above ih =>
    refine ⟨ih.1, .cons_cons ?_ ih.2⟩
    simp only [targetsAt, found, Option.getD_some, Branch.targets, children]
    exact List.mem_filterMap.mpr ⟨_, List.mem_append_right _ (List.mem_singleton.mpr rfl), target⟩

theorem WellFormed.isTree {q : Query} (wf : q.WellFormed) : IsTree q.branches q.stack := by
  obtain ⟨cs, tree⟩ := wf.tree
  have at_node : ∀ (i : Nat) (b : Branch), q.branches[i]? = some b → ∃ stop cs, stop ≤ q.branches.length ∧
      SpansAll q.branches (i + 1) stop b.children cs := fun i b found => by
    obtain ⟨inside, -⟩ := List.getElem?_eq_some_iff.mp found
    obtain ⟨stop, d, bound, here⟩ := tree.within i (Nat.zero_le _) inside
    cases here with
    | node found' parts _ =>
      cases found.symm.trans found'
      exact ⟨stop, _, bound, parts⟩
  refine ⟨?_, fun i j link => ?_, fun j low high => ?_, fun i b j found link => ?_, ?_⟩
  · cases tree with
    | node found parts shape => exact ⟨_, found, Branch.isOr_of_clause shape⟩
  · cases found : q.branches[i]? with
    | none =>
      simp only [targetsAt, found, Option.getD_none] at link
      cases link
    | some b =>
      simp only [targetsAt, found, Option.getD_some] at link
      obtain ⟨k, member, target⟩ := List.mem_filterMap.mp link
      obtain ⟨stop, cs, bound, parts⟩ := at_node i b found
      obtain ⟨first, last⟩ := parts.target_within member target
      exact ⟨first, Nat.lt_of_lt_of_le last bound⟩
  · rw [tree.count, if_pos ⟨low, high⟩]
  · obtain ⟨stop, cs, -, parts⟩ := at_node i b found
    exact parts.negated_conjunction link
  · exact wf.spine.imp_right Spine.path

/-- What the calls make of a query: a tree, read off as a clause that holds all that was added. -/
structure Builds (q : Query) (calls : List Call) : Prop where
  tree : IsTree (q.run calls).branches (q.run calls).stack
  reads : Reads (q.run calls).branches 0 (q.run calls).whereClause
  root : ∃ cs, (q.run calls).whereClause = .and cs
  regular : (q.run calls).whereClause.regular = true
  comparisons : (q.run calls).whereClause.comparisons = (q.log calls).map Prod.snd
  places : ∀ i, leavesAt (q.run calls).branches i =
    ((q.log calls).filter (·.1 == i)).map Prod.snd
  failure : ∀ (call : Call) (e : Error), call.apply (q.run calls) = .error e →
    ((q.run calls).after call).branches = (q.run calls).branches ∧
      ((q.run calls).after call).stack = (q.run calls).stack
  keeps : ∀ more : List Call, (q.run calls).whereClause.Extends (q.run (calls ++ more)).whereClause

theorem after_of_error {q : Query} {call : Call} {e : Error} (failed : call.apply q = .error e) :
    q.after call = q := by
  simp only [after, failed]

/-- Whatever is called on a new query, its branches and its stack stand for one tree. -/
theorem run_builds_tree {q : Query} (branches : q.branches = [{}]) (stack : q.stack = [])
    (calls : List Call) : Builds q calls := by
  have start := WellFormed.of_fresh branches stack
  have whole := start.run calls
  have spans := whole.wf.spans
  have empty : q.whereClause = .and [] := by rw [whereClause, branches]; rfl
  have bare : ∀ i, leavesAt q.branches i = [] := fun i => by
    rw [branches]
    cases i <;> rfl
  obtain ⟨cs, conjunction⟩ := whole.wf.tree
  refine
    { tree := whole.wf.isTree
      reads := spans.reads
      root := ⟨cs, conjunction.freeze (by omega)⟩
      regular := spans.regular
      comparisons := ?_
      places := fun i => ?_
      failure := fun call e failed => ?_
      keeps := fun more => ?_ }
  · rw [whole.grows.adds, empty]
    rfl
  · rw [whole.places, bare, List.nil_append]
  · rw [after_of_error failed]
    exact ⟨rfl, rfl⟩
  · rw [run, run, List.foldl_append]
    exact (whole.wf.run more).grows.keeps

/-- Branches that are abandoned by a return to the root, and calls that fail among the others. -/
theorem run_builds_tree_after_restart :
    Builds { collection := { id := 0, name := "pets" }, label := "p" }
      [.openOr, .restart, .openOr, .operation (.str "age") (.str "$gt") (.int 3), .openNot,
        .operation (.str "") (.str "$eq") .none, .operation (.str "kind") (.str "$in") (.list []),
        .restart, .close, .operation (.str "id") (.str "$neq") (.int 1)] :=
  run_builds_tree rfl rfl _

end Query

end ModelStore
