import ModelStore.Proofs.Query.Rebuilding
import ModelStore.Proofs.Query.Tree
import ModelStore.Proofs.Value.Symmetry

/-!
Conditions written as nested mappings. A tuple is written as a list, and a value may well look like a written
condition. The builder keeps no list as a value, though, and a comparison has an entry more than a node: what is
built can be read back, and two conditions are written alike just if they are equal.
-/

namespace ModelStore

theorem Operator.ofValue?_value (o : Operator) : Operator.ofValue? o.value = some o := by
  cases o <;> rfl

/-- The value is none that the builder would replace. -/
def Comparison.Frozen (x : Comparison) : Prop := Query.freezeValue x.value = x.value

namespace Clause

mutual

/-- Clauses of one shape are equal if they compare equal fields with equal values by the same operators. -/
def eq : Clause → Clause → Bool
  | .and cs, .and ds | .or cs, .or ds => eqAll cs ds
  | .not c, .not d => eq c d
  | .comparison x, .comparison y => x.operator == y.operator && x.field == y.field && x.value == y.value
  | .foreign v, .foreign w => v == w
  | _, _ => false

def eqAll : List Clause → List Clause → Bool
  | [], [] => true
  | c :: cs, d :: ds => eq c d && eqAll cs ds
  | _, _ => false

end

instance : BEq Clause := ⟨eq⟩

mutual

/-- The clause that is written so; a list as a value stands for a tuple. -/
def ofValue? : Value → Option Clause
  | .dict [(.str "operator", .str "$and"), (.str "children", .list vs)] => .and <$> ofValues? vs
  | .dict [(.str "operator", .str "$or"), (.str "children", .list vs)] => .or <$> ofValues? vs
  | .dict [(.str "operator", .str "$not"), (.str "child", v)] => .not <$> ofValue? v
  | .dict [(.str "operator", .str o), (.str "field", field), (.str "value", v)] =>
    (Operator.ofValue? o).map fun operator => .comparison ⟨operator, field, Query.freezeValue v⟩
  | _ => none

def ofValues? : List Value → Option (List Clause)
  | [] => some []
  | v :: vs => do return (← ofValue? v) :: (← ofValues? vs)

end

variable {v w : Value} {P : Comparison → Prop}

mutual

theorem of_comparisons : ∀ c : Clause, c.regular = true → (∀ x ∈ c.comparisons, P x) → c.Of P
  | .and cs, regular, each => .and (all_of_comparisons cs regular each)
  | .or cs, regular, each => .or (all_of_comparisons cs regular each)
  | .not (.and cs), regular, each => .not (.and (all_of_comparisons cs regular each))
  | .comparison x, _, each => .comparison (each x (List.mem_singleton_self x))
  | .not (.or _), regular, _ | .not (.not _), regular, _ | .not (.comparison _), regular, _
  | .not (.foreign _), regular, _ | .foreign _, regular, _ => by cases regular

theorem all_of_comparisons : ∀ cs : List Clause, regularAll cs = true → (∀ x ∈ comparisonsAll cs, P x) →
    ∀ c ∈ cs, c.Of P
  | [], _, _ => List.forall_mem_nil _
  | c :: cs, regular, each => by
    obtain ⟨here, there⟩ := Bool.and_eq_true_iff.mp regular
    rw [comparisonsAll] at each
    exact List.forall_mem_cons.mpr
      ⟨of_comparisons c here fun x member => each x (List.mem_append_left _ member),
        all_of_comparisons cs there fun x member => each x (List.mem_append_right _ member)⟩

end

/-! What is read back. -/

theorem freezeValue_freezeValue (v : Value) : Query.freezeValue (Query.freezeValue v) = Query.freezeValue v := by
  cases v <;> rfl

theorem freezeValue_plainValue (frozen : Query.freezeValue v = v) : Query.freezeValue (plainValue v) = v := by
  cases v <;> first | rfl | cases frozen

mutual

theorem ofValue?_toValue : ∀ c : Clause, c.Of Comparison.Frozen → ofValue? c.toValue = some c
  | .and cs, .and each => by
    rw [toValue, ofValue?, ofValues?_toValues cs each]
    rfl
  | .or cs, .or each => by
    rw [toValue, ofValue?, ofValues?_toValues cs each]
    rfl
  | .not c, .not inner => by
    rw [toValue, ofValue?, ofValue?_toValue c inner]
    rfl
  | .comparison x, .comparison frozen => by
    rw [toValue, ofValue?, Operator.ofValue?_value, freezeValue_plainValue frozen]
    rfl

theorem ofValues?_toValues : ∀ cs : List Clause, (∀ c ∈ cs, c.Of Comparison.Frozen) →
    ofValues? (toValues cs) = some cs
  | [], _ => by rw [toValues, ofValues?]
  | c :: cs, each => by
    obtain ⟨first, others⟩ := List.forall_mem_cons.mp each
    rw [toValues, ofValues?, ofValue?_toValue c first, ofValues?_toValues cs others]
    rfl

end

/-! What is written alike. -/

theorem list_beq_plainValue (frozen : Query.freezeValue w = w) (xs : List Value) :
    (Value.list xs == plainValue w) = (Value.tuple xs == w) := by
  simp only [Value.beq_eq_eq]
  cases w with
  | list ys => cases frozen
  | tuple ys => rw [plainValue, Value.eq, Value.eq]
  | _ => simp [plainValue, Value.eq]

/-- With no list among them, values stay apart when tuples become lists. -/
theorem plainValue_beq (hv : Query.freezeValue v = v) (hw : Query.freezeValue w = w) :
    (plainValue v == plainValue w) = (v == w) := by
  cases v with
  | tuple xs => exact list_beq_plainValue hw xs
  | list xs => cases hv
  | _ =>
    cases w with
    | tuple ys =>
      rw [Value.beq_swap, Value.beq_swap _ (Value.tuple ys)]
      exact list_beq_plainValue hv ys
    | _ => rfl

theorem eq_str (s t : String) : Value.eq (.str s) (.str t) = (s == t) := Value.str_beq_str s t

theorem node_beq {k l : String} (hk : k ≠ "operator") (hl : "operator" ≠ l) (o p : String) (v w : Value) :
    (Value.dict [(.str "operator", .str o), (.str k, v)] == .dict [(.str "operator", .str p), (.str l, w)]) =
      (o == p && k == l && v == w) := by
  rw [Value.beq_eq_eq, Value.eq, Value.eqEntries_eq, Value.anyEqEntry_eq, Bool.eq_iff_iff]
  simp only [List.length_cons, List.length_nil, BEq.rfl, List.all_cons, List.all_nil, List.any_cons, List.any_nil,
    Value.eqEntry, eq_str, Bool.true_and, Bool.or_false, Bool.and_true, Bool.and_eq_true, Bool.or_eq_true,
    beq_iff_eq, hk, hl, false_and, or_false, false_or, Value.beq_eq_eq]
  tauto

theorem leaf_beq (o p : String) (f g v w : Value) :
    (Value.dict [(.str "operator", .str o), (.str "field", f), (.str "value", v)] ==
      .dict [(.str "operator", .str p), (.str "field", g), (.str "value", w)]) = (o == p && f == g && v == w) := by
  rw [Value.beq_eq_eq, Value.eq, Value.eqEntries_eq, Value.anyEqEntry_eq, Bool.eq_iff_iff]
  simp only [List.length_cons, List.length_nil, BEq.rfl, List.all_cons, List.all_nil, List.any_cons, List.any_nil,
    Value.eqEntry, eq_str, String.reduceBEq, Bool.true_and, Bool.false_and, Bool.or_false, Bool.false_or,
    Bool.and_true, Bool.and_eq_true, beq_iff_eq, Value.beq_eq_eq]
  tauto

theorem node_beq_leaf (e f e' f' g' : Value × Value) :
    (Value.dict [e, f] == .dict [e', f', g']) = false := by
  rw [Value.beq_eq_eq, Value.eq]
  rfl

theorem operator_value_beq (o p : Operator) : (o.value == p.value) = (o == p) := by
  rw [Bool.eq_iff_iff, beq_iff_eq, beq_iff_eq]
  refine ⟨fun same => Option.some.inj ?_, congrArg Operator.value⟩
  rw [← Operator.ofValue?_value, same, Operator.ofValue?_value]

/-- What is written of a comparison is written of no node. -/
theorem leaf_beq_node {c : Clause} (made : c.Of P) (node : c.kind? ≠ some .comparison) (x : Comparison) :
    (toValue (.comparison x) == c.toValue) = false := by
  rw [Value.beq_swap]
  cases made with
  | comparison => exact (node rfl).elim
  | and | or | not => exact node_beq_leaf ..

mutual

theorem toValue_beq : ∀ c d : Clause, c.Of Comparison.Frozen → d.Of Comparison.Frozen →
    (c.toValue == d.toValue) = eq c d
  | .and cs, .and ds, .and hc, .and hd | .or cs, .or ds, .or hc, .or hd => by
    rw [toValue, toValue, node_beq (by decide) (by decide), eq, Value.beq_eq_eq, Value.eq, toValues_beq cs ds hc hd]
    rfl
  | .not c, .not d, .not hc, .not hd => by
    rw [toValue, toValue, node_beq (by decide) (by decide), eq, ← toValue_beq c d hc hd]
    rfl
  | .comparison x, .comparison y, .comparison hx, .comparison hy => by
    rw [toValue, toValue, leaf_beq, operator_value_beq, plainValue_beq hx hy, eq]
  -- nodes of two kinds differ in the operator, and a comparison has an entry more than a node
  | .and _, .or _, _, _ | .and _, .not _, _, _ | .or _, .and _, _, _ | .or _, .not _, _, _
  | .not _, .and _, _, _ | .not _, .or _, _, _ => by
    rw [toValue, toValue, node_beq (by decide) (by decide)]
    rfl
  | .comparison x, .and _, _, made | .comparison x, .or _, _, made | .comparison x, .not _, _, made =>
    leaf_beq_node made nofun x
  | .and _, .comparison x, made, _ | .or _, .comparison x, made, _ | .not _, .comparison x, made, _ =>
    (Value.beq_swap ..).trans (leaf_beq_node made nofun x)

theorem toValues_beq : ∀ cs ds : List Clause, (∀ c ∈ cs, c.Of Comparison.Frozen) →
    (∀ d ∈ ds, d.Of Comparison.Frozen) → Value.eqAll (toValues cs) (toValues ds) = eqAll cs ds
  | [], [], _, _ => by rw [toValues, Value.eqAll, eqAll]
  | [], _ :: _, _, _ | _ :: _, [], _, _ => by simp [toValues, Value.eqAll, eqAll]
  | c :: cs, d :: ds, hc, hd => by
    obtain ⟨first, others⟩ := List.forall_mem_cons.mp hc
    obtain ⟨first', others'⟩ := List.forall_mem_cons.mp hd
    rw [toValues, toValues, Value.eqAll, eqAll, ← toValue_beq c d first first', toValues_beq cs ds others others']
    rfl

end

end Clause

namespace Query

theorem added_frozen (q : Query) (call : Call) : ∀ e ∈ q.added call, e.2.Frozen := by
  unfold added
  split
  · split
    · exact List.forall_mem_singleton.mpr (Clause.freezeValue_freezeValue _)
    · exact List.forall_mem_nil _
  · exact List.forall_mem_nil _

/-- The calls of the builder that are not about the condition. -/
inductive Sets (q r : Query) : Prop where
  | select {field : Value} (done : q.select field = .ok r)
  | join {self : Nat} {other : Value} (done : q.join self other = .ok r)
  | orderBy {field order : Value} (done : q.orderBy field order = .ok r)
  | skip {v : Value} (done : q.skip v = .ok r)
  | limit {v : Value} (done : q.limit v = .ok r)

/-- Queries that come about by calls of the builder; one that fails leaves the query as it was. -/
inductive Built : Query → Prop where
  | create {q : Query} {collection label : Value} (done : create collection label = .ok q) : Built q
  | call {q r : Query} {call : Call} (before : Built q) (done : call.apply q = .ok r) : Built r
  | sets {q r : Query} (before : Built q) (set : Sets q r) : Built r

variable {q r : Query}

theorem create_cases {collection label : Value} (done : create collection label = .ok q) :
    q.branches = [{}] ∧ q.stack = [] := by
  unfold create at done
  split at done
  · split at done
    · cases done
      exact ⟨rfl, rfl⟩
    · split at done <;> cases done
      exact ⟨rfl, rfl⟩
    · cases done
  · cases done

theorem Sets.same (set : Sets q r) : r.branches = q.branches ∧ r.stack = q.stack := by
  cases set with
  | orderBy done =>
    rcases Outcome.of_bind done with ⟨o, -, done⟩
    cases done
    exact ⟨rfl, rfl⟩
  | select done | join done | skip done | limit done =>
    simp only [Query.select, Query.join, Query.skip, Query.limit] at done
    split at done
    · split at done <;> cases done
      exact ⟨rfl, rfl⟩
    · cases done

theorem Built.run (built : q.Built) (calls : List Call) : (q.run calls).Built := by
  induction calls generalizing q with
  | nil => exact built
  | cons call calls ih =>
    refine ih (q := q.after call) ?_
    unfold after
    split
    · rename_i r done
      exact .call built done
    · exact built

/-- What is built is one tree, and its comparisons hold frozen values. -/
theorem Built.frozen (built : q.Built) : q.WellFormed ∧ ∀ x ∈ q.whereClause.comparisons, x.Frozen := by
  induction built with
  | create done =>
    obtain ⟨branches, stack⟩ := create_cases done
    refine ⟨.of_fresh branches stack, ?_⟩
    rw [whereClause, branches]
    exact List.forall_mem_nil _
  | @call q r call before done ih =>
    obtain ⟨wf, each⟩ := ih
    have step := wf.after call
    have grown := step.grows.adds
    have same : q.after call = r := by rw [after, done]
    rw [same] at step grown
    refine ⟨step.wf, ?_⟩
    rw [grown]
    exact List.forall_mem_append.mpr ⟨each, List.forall_mem_map.mpr (q.added_frozen call)⟩
  | sets before set ih =>
    obtain ⟨⟨tree, spine⟩, each⟩ := ih
    obtain ⟨branches, stack⟩ := set.same
    rw [whereClause, branches]
    exact ⟨⟨branches ▸ tree, by rwa [branches, stack]⟩, each⟩

theorem Built.of_frozen (built : q.Built) : q.whereClause.Of Comparison.Frozen :=
  let ⟨wf, each⟩ := built.frozen
  Clause.of_comparisons _ wf.spans.regular each

/-- What is built is read back from how it is written, and is written like what else is built just if it is equal
    to that. -/
theorem Built.written_unambiguous (built : q.Built) (other : r.Built) :
    Clause.ofValue? q.whereClause.toValue = some q.whereClause ∧
      (q.whereClause.toValue == r.whereClause.toValue) = (q.whereClause == r.whereClause) :=
  ⟨Clause.ofValue?_toValue _ built.of_frozen, Clause.toValue_beq _ _ built.of_frozen other.of_frozen⟩

/-! Conditions on pets. -/

def listed : List Call :=
  [.restart, .openOr, .operation (.str "kind") (.str "$in") (.list [.str "dog"]), .openNot]

def tupled : List Call :=
  [.openAnd, .restart, .openOr, .operation (.str "kind") (.operator .isIn) (.tuple [.str "dog"]),
    .operation (.str "") (.str "$eq") .none, .openNot, .close]

/-- Its second comparison is with what a negation would be written like. -/
def posing : List Call :=
  [.restart, .openOr, .operation (.str "kind") (.str "$in") (.list [.str "dog"]),
    .operation (.str "kind") (.str "$eq") (Clause.toValue (.not (.and [])))]

theorem newQuery_built : newQuery.Built :=
  @Built.create newQuery (.object (.collection newQuery.collection)) (.str newQuery.label) rfl

theorem written_unambiguous_pets :
    ((newQuery.run listed).whereClause.toValue == (newQuery.run tupled).whereClause.toValue) = true ∧
      ((newQuery.run listed).whereClause.toValue == (newQuery.run posing).whereClause.toValue) = false ∧
      Clause.ofValue? (newQuery.run posing).whereClause.toValue = some (newQuery.run posing).whereClause := by
  obtain ⟨-, alike⟩ := (newQuery_built.run listed).written_unambiguous (newQuery_built.run tupled)
  obtain ⟨-, apart⟩ := (newQuery_built.run listed).written_unambiguous (newQuery_built.run posing)
  obtain ⟨back, -⟩ := (newQuery_built.run posing).written_unambiguous newQuery_built
  exact ⟨alike.trans (by decide +kernel), apart.trans (by decide +kernel), back⟩

end Query

end ModelStore
