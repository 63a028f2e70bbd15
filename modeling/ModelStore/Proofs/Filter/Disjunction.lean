import ModelStore.Proofs.Filter.Grammar
import ModelStore.Proofs.Filter.Meaning

/-!
Disjunctions of filters. A disjunction is true of the rows of which one of its items is true, but for the
items that make no clause: by itself such an item is true of every row, and in a disjunction it is nothing.
-/

namespace ModelStore.Filter

variable {leaf : Leaf} {e : Evaluator} {column : Value → Except Fault Value} {v w : Value} {vs : List Value}
  {cs ds : List Clause} {q₀ q : Query} {opts : Value}

/-! Conditions whose comparisons have a truth value have one. -/

/-- Whether a condition can be told of a row. -/
def Told (e : Evaluator) (column : Value → Except Fault Value) (c : Clause) : Prop :=
  ∃ b, e.satisfies column c = .ok b

theorem exists_satisfiesAll (each : ∀ c ∈ cs, Told e column c) : ∃ b, e.satisfiesAll column cs = .ok b := by
  induction cs with
  | nil => exact ⟨true, rfl⟩
  | cons c cs ih =>
    obtain ⟨⟨b, here⟩, each⟩ := List.forall_mem_cons.mp each
    obtain ⟨b', rest⟩ := ih each
    rw [Evaluator.satisfiesAll, here]
    cases b with
    | true => exact ⟨b', rest⟩
    | false => exact ⟨false, rfl⟩

theorem exists_satisfiesAny (each : ∀ c ∈ cs, Told e column c) : ∃ b, e.satisfiesAny column cs = .ok b := by
  induction cs with
  | nil => exact ⟨false, rfl⟩
  | cons c cs ih =>
    obtain ⟨⟨b, here⟩, each⟩ := List.forall_mem_cons.mp each
    obtain ⟨b', rest⟩ := ih each
    rw [Evaluator.satisfiesAny, here]
    cases b with
    | true => exact ⟨true, rfl⟩
    | false => exact ⟨b', rest⟩

theorem told_handedOn {truth : Truth} (truths : Evaluates e column leaf truth) :
    HandedOn leaf (Told e column) where
  comparison made := ⟨_, truths _ _ _ _ made⟩
  and each := exists_satisfiesAll each
  or each := exists_satisfiesAny each
  not each := by
    obtain ⟨b, inside⟩ := exists_satisfiesAll each
    refine ⟨!b, ?_⟩
    rw [Evaluator.satisfies, Evaluator.satisfies, inside]
    rfl

/-! An item of a disjunction makes one clause or none. -/

/-- Whether a filter asks for anything: a mapping without entries does not, nor does one under a field. -/
def constrains : Value → Bool
  | .dict [] => false
  | .dict [(k, .dict [])] => role k != .field
  | _ => true

/-- Whether no key of a mapping is `None`. -/
def isKeyed : Value → Bool
  | .dict es => es.all fun x => !x.1.isNone
  | _ => true

theorem single_of_constrains {k : Value} (named : k.isNone = false) (asks : constrains (.dict [(k, v)]) = true) :
    Single (entryClauses leaf .none k v) := by
  by_cases field_key : role k = .field
  · cases v with
    | dict es =>
      refine .select .wrapped (.ite .wrapped (.error _)) (.ite .wrapped (.error _)) fun _ => ?_
      match es with
      | [] => simp [constrains, field_key] at asks
      | [x] =>
        rw [if_neg (by simp), entriesClauses_singleton]
        exact .operator named
      | x :: y :: es =>
        rw [if_pos (by simp)]
        exact .wrapped
    | list vs | tuple vs =>
      exact .select (.error _) (.ite .wrapped (.error _)) (.ite .wrapped (.error _)) fun _ => .leafOf
    | _ => exact .entry _ _ _ fun _ => rfl
  · exact .entry v .none k fun found => (field_key found).elim

/-- A filter that asks for something makes one clause in a disjunction, which is as true as its clauses are
    together; one that asks for nothing makes none. -/
theorem joint_cases (e : Evaluator) (column : Value → Except Fault Value) (keyed : isKeyed v = true)
    (made : clauses leaf .none v = .ok cs) :
    (constrains v = true ∧ ∃ d, jointClauses leaf .none v = .ok [d] ∧
      e.satisfies column d = e.satisfiesAll column cs) ∨
    (constrains v = false ∧ jointClauses leaf .none v = .ok [] ∧ cs = []) := by
  cases v with
  | dict es =>
    match es with
    | [] =>
      cases made
      exact .inr ⟨rfl, rfl, rfl⟩
    | [(k, v)] =>
      have joint : jointClauses leaf .none (.dict [(k, v)]) = .ok cs := made
      rw [clauses, entriesClauses_singleton] at made
      by_cases asks : constrains (.dict [(k, v)]) = true
      · left
        have named : k.isNone = false := by simpa [isKeyed] using keyed
        obtain ⟨d, rfl⟩ := single_of_constrains named asks cs made
        exact ⟨asks, d, joint, Evaluator.satisfiesAll_single.symm⟩
      · right
        rw [Bool.not_eq_true] at asks
        have empty : v = .dict [] ∧ role k = .field := by
          unfold constrains at asks
          split at asks
          · rename_i same
            cases same
          · rename_i same
            cases same
            exact ⟨rfl, by simpa using asks⟩
          · cases asks
        obtain ⟨rfl, field_key⟩ := empty
        have none : entryClauses leaf .none k (.dict []) = .ok [] := by
          simp only [entryClauses, select, field_key]
          rfl
        cases none.symm.trans made
        exact ⟨asks, joint, rfl⟩
    | x :: y :: es =>
      left
      refine ⟨by simp [constrains], .and cs, ?_, rfl⟩
      have whole : entriesClauses leaf .none (x :: y :: es) = .ok cs := made
      rw [jointClauses, if_pos (by simp), whole]
      rfl
  | _ => cases made

/-- Whether a row satisfies a filter by itself. -/
def isTrue (e : Evaluator) (column : Value → Except Fault Value) (leaf : Leaf) (v : Value) : Bool :=
  match clauses leaf .none v with
  | .ok cs => (e.satisfiesAll column cs).toOption.getD false
  | .error _ => false

theorem satisfiesAll_isTrue {truth : Truth} (truths : Evaluates e column leaf truth)
    (made : clauses leaf .none v = .ok cs) : e.satisfiesAll column cs = .ok (isTrue e column leaf v) := by
  obtain ⟨b, told⟩ := exists_satisfiesAll (((told_handedOn truths).everywhere v).whole .none cs made)
  simp only [isTrue, made, told, Except.toOption, Option.getD_some]

/-- A disjunction is true if an item of it that asks for something is. -/
theorem jointClausesAll_told {truth : Truth} (truths : Evaluates e column leaf truth)
    (accepted : ∀ v ∈ vs, isKeyed v = true ∧ ∃ cs, clauses leaf .none v = .ok cs) :
    ∃ ds, jointClausesAll leaf .none vs = .ok ds ∧
      e.satisfiesAny column ds = .ok (vs.any fun v => constrains v && isTrue e column leaf v) := by
  induction vs with
  | nil => exact ⟨[], rfl, rfl⟩
  | cons v vs ih =>
    obtain ⟨⟨keyed, cs, made⟩, accepted⟩ := List.forall_mem_cons.mp accepted
    obtain ⟨rest, later, told⟩ := ih accepted
    rcases joint_cases e column keyed made with ⟨asks, d, joint, same⟩ | ⟨idle, joint, -⟩
    · refine ⟨d :: rest, ?_, ?_⟩
      · rw [jointClausesAll, joint, later]
        rfl
      · have first : e.satisfiesAny column [d] = .ok (isTrue e column leaf v) := by
          rw [Evaluator.satisfiesAny_single, same, satisfiesAll_isTrue truths made]
        have all := Evaluator.satisfiesAny_append first told
        rwa [List.any_cons, asks, Bool.true_and]
    · refine ⟨rest, ?_, ?_⟩
      · rw [jointClausesAll, joint, later]
        rfl
      · rwa [List.any_cons, idle, Bool.false_and, Bool.false_or]

/-! Disjunctions that are read as they are written. -/

/-- A query that is read into an empty one has the clauses of the filter as its condition. -/
theorem whereClause_of_read (unseeded : q₀.branches = [{}])
    (accepted : read (.ok q₀) v opts (some unchanged) = .ok q) :
    ∃ cs, clauses plainLeaf .none v = .ok cs ∧ q.whereClause = .and cs := by
  obtain ⟨o, p, -, parsed, rfl⟩ := read_cases accepted
  have tree : Query.Spans q₀.branches 0 q₀.branches.length (.and []) := by
    rw [unseeded]
    exact .node rfl .nil rfl
  cases found : clauses plainLeaf .none v with
  | error x =>
    have failed := expression_error (q := q₀.restart) unchanged_faithful ⟨0, [], rfl, tree.lt⟩ found
    cases parsed.symm.trans failed
  | ok cs =>
    obtain ⟨r, parsed', -, root⟩ :=
      expression_of_clauses (q := q₀.restart) unchanged_faithful rfl tree found
    cases parsed.symm.trans parsed'
    exact ⟨cs, rfl, root⟩

theorem areExpressions_of_clauses (some_ : vs ≠ []) (made : ∀ v ∈ vs, ∃ cs, clauses leaf .none v = .ok cs) :
    areExpressions vs = true := by
  simp only [areExpressions, Bool.and_eq_true, Bool.not_eq_true', List.isEmpty_eq_false_iff, List.all_eq_true]
  refine ⟨some_, fun v member => ?_⟩
  obtain ⟨cs, found⟩ := made v member
  cases v with
  | dict es => rfl
  | _ => cases found

theorem clauses_any (leaf : Leaf) (items : members? w = some vs) (mappings : areExpressions vs = true) :
    clauses leaf .none (.dict [(.str "$or", w)]) = wrapped .or (jointClausesAll leaf .none vs) := by
  have key : role (.str "$or") = .any := by decide +kernel
  rw [clauses, entriesClauses_singleton, entryClauses_sequence items]
  simp only [select, key, if_pos mappings]

section Total

variable {table : Operator → Value → Value → Bool}
  (total : ∀ o ∈ Operator.comparisons, ∀ v w, e.compare (.operator o) v w = .ok (table o v w))

include total

theorem matches_isTrue (unseeded : q₀.branches = [{}]) (accepted : read (.ok q₀) v opts (some unchanged) = .ok q)
    (row : List (Value × Value)) :
    e.matches q.whereClause row = .ok (isTrue e (Evaluator.columnOf row) plainLeaf v) := by
  obtain ⟨cs, made, root⟩ := whereClause_of_read unseeded accepted
  rw [Evaluator.matches, root, Evaluator.satisfies]
  exact satisfiesAll_isTrue (plainLeaf_evaluates row total) made

/-- A disjunction of filters that are accepted is accepted, and true of the rows of which one of those is
    true that ask for something. The others are true of every row by themselves. -/
theorem any_read (unseeded : q₀.branches = [{}]) (items : members? w = some vs) (some_ : vs ≠ [])
    (keyed : ∀ v ∈ vs, isKeyed v = true)
    (accepted : ∀ v ∈ vs, ∃ q, read (.ok q₀) v .none (some unchanged) = .ok q) :
    ∃ q, read (.ok q₀) (.dict [(.str "$or", w)]) .none (some unchanged) = .ok q ∧
      ∀ row, ∃ b, e.matches q.whereClause row = .ok b ∧
        (b = true ↔ ∃ v ∈ vs, constrains v = true ∧
          ∃ p, read (.ok q₀) v .none (some unchanged) = .ok p ∧ e.matches p.whereClause row = .ok true) ∧
        ∀ v ∈ vs, constrains v = false → ∀ p, read (.ok q₀) v .none (some unchanged) = .ok p →
          e.matches p.whereClause row = .ok true := by
  have made : ∀ v ∈ vs, isKeyed v = true ∧ ∃ cs, clauses plainLeaf .none v = .ok cs := by
    intro v member
    obtain ⟨p, read_⟩ := accepted v member
    obtain ⟨cs, found, -⟩ := whereClause_of_read unseeded read_
    exact ⟨keyed v member, cs, found⟩
  have whole := clauses_any plainLeaf items
    (areExpressions_of_clauses some_ fun v member => (made v member).2)
  have valid : options .none = .ok {} := rfl
  have root : 0 < q₀.branches.length := by simp [unseeded]
  obtain ⟨ds, joint, -⟩ := jointClausesAll_told (plainLeaf_evaluates [] total) made
  rw [joint] at whole
  obtain ⟨q, accepted_⟩ := read_of_clauses unchanged_faithful root valid whole
  refine ⟨q, accepted_, fun row => ?_⟩
  have truths := plainLeaf_evaluates row total
  obtain ⟨ds', joint', told⟩ := jointClausesAll_told truths made
  cases joint.symm.trans joint'
  obtain ⟨cs, found, where_⟩ := whereClause_of_read unseeded accepted_
  cases whole.symm.trans found
  refine ⟨vs.any fun v => constrains v && isTrue e (Evaluator.columnOf row) plainLeaf v, ?_, ?_, ?_⟩
  · rw [Evaluator.matches, where_, Evaluator.satisfies, Evaluator.satisfiesAll_single, Evaluator.satisfies]
    exact told
  · rw [List.any_eq_true]
    refine exists_congr fun v => and_congr_right fun member => ?_
    rw [Bool.and_eq_true]
    refine and_congr_right fun _ => ?_
    obtain ⟨p, read_⟩ := accepted v member
    constructor
    · intro holds
      exact ⟨p, read_, by rw [matches_isTrue total unseeded read_ row, holds]⟩
    · rintro ⟨p', read', holds⟩
      rw [matches_isTrue total unseeded read' row] at holds
      exact Except.ok.inj holds
  · intro v member idle p read_
    obtain ⟨cs, found, where_⟩ := whereClause_of_read unseeded read_
    rcases joint_cases e (Evaluator.columnOf row) (keyed v member) found with
      ⟨asks, -⟩ | ⟨-, -, rfl⟩
    · cases idle.symm.trans asks
    · rw [Evaluator.matches, where_]
      rfl

end Total

/-- A fresh query of pets. -/
def pets : Query := { collection := { id := 0, name := "pets" }, label := "p" }

/-- Nothing in particular, no age in particular, or an age of one. -/
def choices : List Value :=
  [.dict [], .dict [(.str "age", .dict [])], .dict [(.str "age", .int 1)]]

theorem any_read_choices :
    ∃ q, read (.ok pets) (.dict [(.str "$or", .list choices)]) .none (some unchanged) = .ok q ∧
      alike.matches q.whereClause [(.str "age", .int 1)] = .ok true := by
  have keyed : ∀ v ∈ choices, isKeyed v = true := by
    simp [choices, isKeyed, Value.isNone]
  have accepted : ∀ v ∈ choices, ∃ q, read (.ok pets) v .none (some unchanged) = .ok q := by
    intro v member
    simp only [choices, List.mem_cons, List.not_mem_nil, or_false] at member
    rcases member with rfl | rfl | rfl <;> exact ⟨_, by cbv⟩
  have items : members? (.list choices) = some choices := rfl
  obtain ⟨q, read_, told⟩ := any_read alike_compare rfl items (by simp [choices]) keyed accepted
  refine ⟨q, read_, ?_⟩
  obtain ⟨b, holds, iff_, -⟩ := told [(.str "age", .int 1)]
  rw [holds]
  refine congrArg Except.ok (iff_.mpr ⟨.dict [(.str "age", .int 1)], by simp [choices], rfl, ?_⟩)
  exact ⟨_, by cbv, by cbv⟩

/-- A filter that is true of a row by itself can be one of a disjunction that is not. -/
theorem not_any_of_item :
    ¬ ∀ (q₀ q p : Query) (vs : List Value) (v : Value) (row : List (Value × Value)) (e : Evaluator)
        (table : Operator → Value → Value → Bool), q₀.branches = [{}] →
      (∀ o ∈ Operator.comparisons, ∀ v w, e.compare (.operator o) v w = .ok (table o v w)) →
      read (.ok q₀) (.dict [(.str "$or", .list vs)]) .none (some unchanged) = .ok q →
      v ∈ vs → read (.ok q₀) v .none (some unchanged) = .ok p →
      e.matches p.whereClause row = .ok true → e.matches q.whereClause row = .ok true := by
  intro permissive
  have all : ∃ p, read (.ok pets) (.dict []) .none (some unchanged) = .ok p ∧
      alike.matches p.whereClause [(.str "age", .int 2)] = .ok true := ⟨_, by cbv, by cbv⟩
  have none : ∃ q, read (.ok pets) (.dict [(.str "$or", .list choices)]) .none (some unchanged) = .ok q ∧
      alike.matches q.whereClause [(.str "age", .int 2)] = .ok false := ⟨_, by cbv, by cbv⟩
  obtain ⟨p, alone, holds⟩ := all
  obtain ⟨q, read_, fails⟩ := none
  have promised := permissive pets q p choices (.dict []) _ alike _ rfl alike_compare read_
    (List.mem_cons_self ..) alone holds
  cases fails.symm.trans promised

end ModelStore.Filter
