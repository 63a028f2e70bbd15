import ModelStore.Proofs.Query.Spine

/-!
Runs of calls on the builder of a condition. Each call leaves the branches as one tree with the open
branches as its spine, and what it adds comes after all that was there.
-/

namespace ModelStore.Query

open Clause (Grows comparisonsAll)

inductive Call where
  | restart
  | openAnd
  | openOr
  | openNot
  | operation (field operator value : Value)
  | close

def Call.apply (q : Query) : Call → Except Error Query
  | .restart => .ok q.restart
  | .openAnd => q.openAnd
  | .openOr => q.openOr
  | .openNot => q.openNot
  | .operation field operator value => q.operation field operator value
  | .close => q.close

/-- A call that fails leaves the query as it was. -/
def after (q : Query) (call : Call) : Query :=
  match call.apply q with
  | .ok r => r
  | .error _ => q

def run (q : Query) (calls : List Call) : Query := calls.foldl after q

/-- The comparison that a call adds and the branch that is the innermost open one then. -/
def added (q : Query) (call : Call) : List (Nat × Comparison) :=
  match call, call.apply q, q.stack with
  | .operation field operator value, .ok _, i :: _ =>
    match comparisonOperator operator with
    | .ok o => [(i, ⟨o, field, freezeValue value⟩)]
    | .error _ => []
  | _, _, _ => []

/-- All comparisons that a run adds, in the order of the calls. -/
def log (q : Query) : List Call → List (Nat × Comparison)
  | [] => []
  | call :: calls => q.added call ++ (q.after call).log calls

/-- The branches are one tree below a conjunction, and the open ones are none or its spine. -/
structure WellFormed (q : Query) : Prop where
  tree : ∃ cs, Spans q.branches 0 q.branches.length (.and cs)
  spine : q.stack = [] ∨ Spine q.branches q.stack

variable {q r : Query} {i : Nat} {rest : List Nat}

theorem WellFormed.spans (wf : q.WellFormed) :
    Spans q.branches 0 q.branches.length q.whereClause := by
  obtain ⟨cs, spans⟩ := wf.tree
  have same : q.whereClause = .and cs := spans.freeze (by omega)
  rwa [same]

theorem WellFormed.of_fresh (branches : q.branches = [{}]) (stack : q.stack = []) :
    q.WellFormed := by
  refine ⟨⟨[], ?_⟩, .inl stack⟩
  rw [branches]
  exact .node rfl .nil rfl

theorem Spine.nonempty {bs : List Branch} {stack : List Nat} (h : Spine bs stack) :
    ∃ tip rest, stack = tip :: rest := by
  cases h with
  | root => exact ⟨_, _, rfl⟩
  | down => exact ⟨_, _, rfl⟩

theorem Spine.tip_lt {bs : List Branch} {tip : Nat} {c : Clause} (spine : Spine bs (tip :: rest))
    (whole : Spans bs 0 bs.length c) : tip < bs.length := by
  obtain ⟨d, here, -⟩ := spine.lift whole
  exact here.lt

/-! One step. -/

/-- What an addition at the innermost open branch does to the clause. -/
theorem WellFormed.add {ks : List Child} {fresh : List Branch} {ds : List Clause}
    (wf : q.WellFormed) (tip : q.stack = i :: rest)
    (branches : r.branches = extended q.branches i ks fresh)
    (new : SpansAll (extended q.branches i ks fresh) q.branches.length
      (q.branches.length + fresh.length) ks ds) :
    (∃ cs, Spans r.branches 0 r.branches.length (.and cs)) ∧ Spine r.branches q.stack ∧
      Grows (comparisonsAll ds) q.whereClause r.whereClause := by
  obtain none | spine := wf.spine
  · cases none.symm.trans tip
  rw [tip] at spine ⊢
  have inside := spine.tip_lt wf.spans
  have before : ∀ x, x < i → r.branches[x]? = q.branches[x]? := fun x low => by
    rw [branches]
    exact extended_other (Nat.lt_trans low inside) (Nat.ne_of_lt low)
  obtain ⟨d, here, lift⟩ := spine.lift wf.spans
  obtain ⟨d', there, grows⟩ := here.extend new
  rw [← branches] at there
  obtain ⟨c, whole, grown⟩ := lift r.branches _ d' before there grows
  obtain ⟨cs, conjunction⟩ := wf.tree
  have root : q.whereClause = .and cs := conjunction.freeze (by omega)
  have same : r.whereClause = c := whole.freeze (by omega)
  obtain ⟨cs', rfl⟩ := (root ▸ grown).of_and
  exact ⟨⟨cs', whole⟩, spine.agree before, same ▸ grown⟩

theorem appendChild_eq_extended (bs : List Branch) (i : Nat) (k : Child) :
    appendChild bs i k = extended bs i [k] [] := (List.append_nil _).symm

theorem appendChild_fresh_eq_extended {bs : List Branch} (b : Branch) (k : Child)
    (inside : i < bs.length) : appendChild (bs ++ [b]) i k = extended bs i [k] [b] :=
  modify_append inside _ _

/-- The operations that open a branch do so under the innermost open one. -/
theorem openBranch_cases {call : String} {isOr : Bool} {link : Nat → Child}
    (done : q.openBranch call isOr link = .ok r) :
    ∃ i rest, q.stack = i :: rest ∧
      r = { q with
        branches := appendChild (q.branches ++ [{ isOr }]) i (link q.branches.length)
        stack := q.branches.length :: i :: rest } := by
  unfold openBranch current at done
  cases tip : q.stack with
  | nil =>
    rw [tip] at done
    cases done
  | cons i rest =>
    rw [tip] at done
    cases done
    exact ⟨i, rest, rfl, rfl⟩

theorem operation_cases {field operator value : Value}
    (done : q.operation field operator value = .ok r) :
    ∃ i rest o, q.stack = i :: rest ∧ comparisonOperator operator = .ok o ∧
      r = { q with branches := appendChild q.branches i (.leaf ⟨o, field, freezeValue value⟩) } := by
  unfold operation append current at done
  cases tip : q.stack with
  | nil =>
    rw [tip] at done
    cases done
  | cons i rest =>
    simp only [tip, discard, Functor.discard, Bind.bind, Except.bind] at done
    by_cases name : isName field
    · simp only [Functor.mapConst, name, if_true] at done
      cases known : comparisonOperator operator with
      | error e =>
        rw [known] at done
        cases done
      | ok o =>
        rw [known] at done
        cases done
        exact ⟨i, rest, o, rfl, rfl, rfl⟩
    · simp only [Functor.mapConst, name] at done
      cases done

theorem close_cases (done : q.close = .ok r) :
    ∃ j i rest, q.stack = j :: i :: rest ∧ r = { q with stack := i :: rest } := by
  unfold close at done
  split at done
  · rename_i j i rest stack
    cases done
    exact ⟨j, i, rest, stack, rfl⟩
  · cases done

/-! The comparisons that belong to a branch itself. -/

def leavesAt (bs : List Branch) (i : Nat) : List Comparison :=
  ((bs[i]?).getD {}).children.filterMap Child.leaf?

theorem leavesAt_extended {bs : List Branch} {tip : Nat} (ks : List Child) (fresh : List Branch)
    (inside : tip < bs.length) (bare : ∀ b ∈ fresh, b.children = []) (i : Nat) :
    leavesAt (extended bs tip ks fresh) i =
      leavesAt bs i ++ if tip = i then ks.filterMap Child.leaf? else [] := by
  by_cases low : i < bs.length
  · by_cases here : tip = i
    · subst here
      simp only [leavesAt, extended_tip ks fresh (List.getElem?_eq_getElem low), List.getElem?_eq_getElem low,
        Option.getD_some, List.filterMap_append, if_true]
    · simp only [leavesAt, extended_other low (Ne.symm here), if_neg here, List.append_nil]
  · have outside : bs[i]? = none := List.getElem?_eq_none (Nat.le_of_not_lt low)
    have apart : tip ≠ i := by omega
    simp only [leavesAt, outside, Option.getD_none, List.filterMap_nil, if_neg apart, List.append_nil]
    cases found : (extended bs tip ks fresh)[i]? with
    | none => rfl
    | some b =>
      rw [extended, List.getElem?_append_right (by rw [List.length_modify]; omega)] at found
      rw [Option.getD_some, bare b (List.mem_of_getElem? found), List.filterMap_nil]

/-- From the first query to the second nothing is lost, and these comparisons come at the end of the
    whole clause and of their branches. -/
structure Advances (q r : Query) (xs : List (Nat × Comparison)) : Prop where
  wf : r.WellFormed
  grows : Grows (xs.map Prod.snd) q.whereClause r.whereClause
  places : ∀ i, leavesAt r.branches i =
    leavesAt q.branches i ++ (xs.filter (·.1 == i)).map Prod.snd

namespace Advances

theorem of_branches (wf : q.WellFormed) (branches : r.branches = q.branches)
    (spine : r.stack = [] ∨ Spine q.branches r.stack) : Advances q r [] := by
  have same : r.whereClause = q.whereClause := by rw [whereClause, whereClause, branches]
  refine ⟨⟨by rw [branches]; exact wf.tree, by rwa [branches]⟩, same ▸ .refl, fun i => ?_⟩
  rw [branches]
  exact (List.append_nil _).symm

theorem trans {p q r : Query} {xs ys : List (Nat × Comparison)} (first : Advances p q xs)
    (second : Advances q r ys) : Advances p r (xs ++ ys) := by
  refine ⟨second.wf, ⟨first.grows.keeps.trans second.grows.keeps, ?_⟩, fun i => ?_⟩
  · rw [second.grows.adds, first.grows.adds, List.map_append, List.append_assoc]
  · rw [second.places, first.places, List.filter_append, List.map_append, List.append_assoc]

theorem restart (wf : q.WellFormed) : Advances q q.restart [] :=
  of_branches wf rfl (.inr .root)

theorem close (wf : q.WellFormed) (done : q.close = .ok r) : Advances q r [] := by
  obtain ⟨j, i, rest, stack, rfl⟩ := close_cases done
  refine of_branches wf rfl (.inr ?_)
  obtain none | spine := wf.spine
  · cases none.symm.trans stack
  · rw [stack] at spine
    cases spine with
    | down _ _ _ _ above => exact above

/-- A new branch is the last child of the innermost one, which it is opened in. -/
theorem openBranch {call : String} {isOr : Bool} {link : Nat → Child} {d : Clause}
    (wf : q.WellFormed) (done : q.openBranch call isOr link = .ok r)
    (target : ∀ j, (link j).target? = some j) (bare : ∀ j, (link j).leaf? = none)
    (empty : Clause.comparisonsAll [d] = [])
    (linked : ∀ bs j, Spans bs j (j + 1) (Branch.clause { isOr } []) →
      SpansAll bs j (j + 1) [link j] [d]) : Advances q r [] := by
  obtain ⟨i, rest, tip, step⟩ := openBranch_cases done
  obtain none | spine := wf.spine
  · cases none.symm.trans tip
  rw [tip] at spine
  have inside := spine.tip_lt wf.spans
  have branches : r.branches = extended q.branches i [link q.branches.length] [{ isOr }] := by
    rw [step]
    exact appendChild_fresh_eq_extended _ _ inside
  have fresh : r.branches[q.branches.length]? = some { isOr } := by
    rw [branches, extended, List.getElem?_append_right (Nat.le_of_eq (List.length_modify ..)),
      List.length_modify, Nat.sub_self]
    rfl
  have new := linked _ _ (.node fresh .nil rfl)
  rw [branches] at new
  obtain ⟨tree, above, grows⟩ := wf.add tip branches new
  rw [empty] at grows
  refine ⟨⟨tree, .inr ?_⟩, grows, fun x => ?_⟩
  · have found := extended_tip [link q.branches.length] [{ isOr }]
      (List.getElem?_eq_getElem inside)
    rw [← branches] at found
    rw [tip] at above
    rw [step] at found above ⊢
    exact .down found rfl (target _) inside above
  · rw [branches, leavesAt_extended _ _ inside fun b new => by rw [List.mem_singleton.mp new]]
    simp only [List.filterMap_cons, bare, List.filterMap_nil, ite_self, List.filter_nil, List.map_nil]

theorem openAnd (wf : q.WellFormed) (done : q.openAnd = .ok r) : Advances q r [] :=
  openBranch wf done (fun _ => rfl) (fun _ => rfl) rfl fun _ _ node => .branch node .nil

theorem openOr (wf : q.WellFormed) (done : q.openOr = .ok r) : Advances q r [] :=
  openBranch wf done (fun _ => rfl) (fun _ => rfl) rfl fun _ _ node => .branch node .nil

theorem openNot (wf : q.WellFormed) (done : q.openNot = .ok r) : Advances q r [] :=
  openBranch wf done (fun _ => rfl) (fun _ => rfl) rfl fun _ _ node => .negated node .nil

theorem operation {field operator value : Value} (wf : q.WellFormed)
    (done : q.operation field operator value = .ok r) :
    Advances q r (q.added (.operation field operator value)) := by
  obtain ⟨i, rest, o, tip, known, step⟩ := operation_cases done
  have one : q.added (.operation field operator value) = [(i, ⟨o, field, freezeValue value⟩)] := by
    simp only [added, Call.apply, done, tip, known]
  have branches : r.branches = extended q.branches i [.leaf ⟨o, field, freezeValue value⟩] [] := by
    rw [step, appendChild_eq_extended]
  obtain none | spine := wf.spine
  · cases none.symm.trans tip
  rw [tip] at spine
  have inside := spine.tip_lt wf.spans
  obtain ⟨tree, above, grows⟩ := wf.add tip branches (.leaf .nil)
  refine ⟨⟨tree, .inr ?_⟩, one ▸ grows, fun x => ?_⟩
  · rw [step] at above ⊢
    exact above
  · rw [branches, leavesAt_extended _ _ inside fun b new => (List.not_mem_nil new).elim, one]
    by_cases here : i = x
    · simp only [here, if_true, List.filter_cons, beq_self_eq_true]
      rfl
    · simp only [if_neg here, List.filter_cons, beq_eq_false_iff_ne.mpr here]
      rfl

end Advances

theorem WellFormed.after (wf : q.WellFormed) (call : Call) :
    Advances q (q.after call) (q.added call) := by
  cases done : call.apply q with
  | error e =>
    have same : q.after call = q := by simp only [Query.after, done]
    have none : q.added call = [] := by
      unfold added
      split
      · rename_i stack success
        cases done.symm.trans success
      · rfl
    rw [same, none]
    exact .of_branches wf rfl wf.spine
  | ok r =>
    have next : q.after call = r := by simp only [Query.after, done]
    rw [next]
    cases call with
    | restart =>
      cases done
      exact .restart wf
    | openAnd => exact .openAnd wf done
    | openOr => exact .openOr wf done
    | openNot => exact .openNot wf done
    | operation field operator value => exact .operation wf done
    | close => exact .close wf done

theorem WellFormed.run (wf : q.WellFormed) (calls : List Call) :
    Advances q (q.run calls) (q.log calls) := by
  induction calls generalizing q with
  | nil => exact .of_branches wf rfl wf.spine
  | cons call calls ih =>
    have first := wf.after call
    exact first.trans (ih first.wf)

end ModelStore.Query
