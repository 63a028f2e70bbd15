import ModelStore.Proofs.Evaluator
import ModelStore.Proofs.Filter.Clauses

/-!
What a filter means, told along the filter itself, for a given truth of comparisons. The main
statement is that a row satisfies the query that a filter is read into exactly if the filter is true
of the row.
-/

namespace ModelStore.Filter

/-- Whether the comparison of a field with a value holds. -/
abbrev Truth := Value → Operator → Value → Bool

/-- The meaning of an entry by its role. -/
def byRole (truth : Truth) (field k v : Value) (negation all any under : Bool) : Bool :=
  match role k with
  | .unknown => false
  | .comparison o => truth field o v
  | .negation => negation
  | .all => all
  | .any => any
  | .field => under

mutual

/-- The entries of a mapping are a conjunction. -/
def means (truth : Truth) (field : Value) : Value → Bool
  | .dict es => meansAll truth field es
  | _ => false
  termination_by structural v => v

def meansAll (truth : Truth) (field : Value) : List (Value × Value) → Bool
  | [] => true
  | (k, v) :: es => entryMeans truth field k v && meansAll truth field es
  termination_by structural v => v

/-- Each of the entries taken by itself. -/
def meansAny (truth : Truth) (field : Value) : List (Value × Value) → Bool
  | [] => false
  | (k, v) :: es => entryMeans truth field k v || meansAny truth field es
  termination_by structural v => v

/--
An entry whose key is a field compares that field with the value or, if the value is a mapping, is
the mapping under that field. An operator applies to the field around it.
-/
def entryMeans (truth : Truth) (field k : Value) : Value → Bool
  | .dict es =>
    byRole truth field k (.dict es) (!meansAll truth field es) (meansAll truth field es)
      (meansAny truth field es) (meansAll truth k es)
  | .list vs =>
    byRole truth field k (.list vs) false (itemsMeanAll truth field vs) (itemsMeanAny truth field vs)
      (truth k .eq (.list vs))
  | .tuple vs =>
    byRole truth field k (.tuple vs) false (itemsMeanAll truth field vs)
      (itemsMeanAny truth field vs) (truth k .eq (.tuple vs))
  | v => byRole truth field k v false false false (truth k .eq v)
  termination_by structural v => v

def itemsMeanAll (truth : Truth) (field : Value) : List Value → Bool
  | [] => true
  | v :: vs => means truth field v && itemsMeanAll truth field vs
  termination_by structural v => v

def itemsMeanAny (truth : Truth) (field : Value) : List Value → Bool
  | [] => false
  | v :: vs => means truth field v || itemsMeanAny truth field vs
  termination_by structural v => v

end

mutual

/-- Whether no mapping in the value is empty. -/
def isFull : Value → Bool
  | .dict es => !es.isEmpty && areFullEntries es
  | .list vs | .tuple vs => areFull vs
  | _ => true

def areFullEntries : List (Value × Value) → Bool
  | [] => true
  | (_, v) :: es => isFull v && areFullEntries es

def areFull : List Value → Bool
  | [] => true
  | v :: vs => isFull v && areFull vs

end

mutual

/-- Whether no mapping beneath a disjunction is empty. -/
def isSolid : Value → Bool
  | .dict es => areSolidEntries es
  | .list vs | .tuple vs => areSolid vs
  | _ => true

def areSolidEntries : List (Value × Value) → Bool
  | [] => true
  | (k, v) :: es => (if role k = .any then isFull v else isSolid v) && areSolidEntries es

def areSolid : List Value → Bool
  | [] => true
  | v :: vs => isSolid v && areSolid vs

end

variable {truth : Truth} {leaf : Leaf} {e : Evaluator} {column : Value → Except Fault Value}
  {field k v w : Value} {o : Operator} {vs : List Value} {es : List (Value × Value)}
  {cs ds : List Clause} {xs ys : Except Error (List Clause)} {a b : Bool}

theorem entryMeans_sequence (sequence : members? w = some vs) :
    entryMeans truth field k w =
      byRole truth field k w false (itemsMeanAll truth field vs) (itemsMeanAny truth field vs)
        (truth k .eq w) := by
  cases w <;> cases sequence <;> rfl

theorem entryMeans_flat (flat : isFlat v = true) :
    entryMeans truth field k v = byRole truth field k v false false false (truth k .eq v) := by
  cases v <;> first | rfl | cases flat

theorem isFull_sequence (sequence : members? w = some vs) : isFull w = areFull vs := by
  cases w <;> cases sequence <;> rfl

theorem isSolid_sequence (sequence : members? w = some vs) : isSolid w = areSolid vs := by
  cases w <;> cases sequence <;> rfl

theorem isSolid_flat (flat : isFlat v = true) : isSolid v = true := by
  cases v <;> first | rfl | cases flat

theorem areFull_iff : areFull vs = true ↔ ∀ v ∈ vs, isFull v = true := by
  induction vs with
  | nil => simp only [areFull, List.not_mem_nil, false_implies, implies_true]
  | cons v vs ih => simp only [areFull, Bool.and_eq_true, ih, List.forall_mem_cons]

theorem areSolid_iff : areSolid vs = true ↔ ∀ v ∈ vs, isSolid v = true := by
  induction vs with
  | nil => simp only [areSolid, List.not_mem_nil, false_implies, implies_true]
  | cons v vs ih => simp only [areSolid, Bool.and_eq_true, ih, List.forall_mem_cons]

theorem areFullEntries_iff : areFullEntries es = true ↔ ∀ x ∈ es, isFull x.2 = true := by
  induction es with
  | nil => simp only [areFullEntries, List.not_mem_nil, false_implies, implies_true]
  | cons x es ih => simp only [areFullEntries, Bool.and_eq_true, ih, List.forall_mem_cons]

theorem areSolidEntries_iff : areSolidEntries es = true ↔
    ∀ x ∈ es, (if role x.1 = .any then isFull x.2 else isSolid x.2) = true := by
  induction es with
  | nil => simp only [areSolidEntries, List.not_mem_nil, false_implies, implies_true]
  | cons x es ih => simp only [areSolidEntries, Bool.and_eq_true, ih, List.forall_mem_cons]

theorem isSolid_of_isFull : ∀ v, isFull v = true → isSolid v = true := by
  intro v
  induction v using induction with
  | dict es ih =>
    intro full
    obtain ⟨-, parts⟩ := Bool.and_eq_true_iff.mp full
    refine areSolidEntries_iff.mpr fun x member => ?_
    have part := areFullEntries_iff.mp parts x member
    split
    · exact part
    · exact ih x member part
  | sequence w vs members ih =>
    rw [isFull_sequence members, isSolid_sequence members, areFull_iff, areSolid_iff]
    exact fun full v member => ih v member (full v member)
  | flat v flat => exact fun _ => isSolid_flat flat

theorem entriesClauses_singleton {x : Value × Value} :
    entriesClauses leaf field [x] = entryClauses leaf field x.1 x.2 := by
  simp only [entriesClauses, Bind.bind, Except.bind, Pure.pure, Except.pure]
  cases entryClauses leaf field x.1 x.2 with
  | error _ => rfl
  | ok ds =>
    dsimp only
    rw [List.append_nil]

/-! The clauses of a single entry are one, unless a mapping under it is empty. -/

/-- If there are clauses, there is exactly one. -/
def Single (xs : Except Error (List Clause)) : Prop := ∀ ds, xs = .ok ds → ∃ d, ds = [d]

namespace Single

theorem error (x : Error) : Single (.error x) := fun _ same => nomatch same

theorem leafOf : Single (leafOf leaf field o v) := by
  intro ds same
  unfold Filter.leafOf at same
  split at same
  · cases same
  · cases made : leaf field o v <;> rw [made] at same <;> cases same
    exact ⟨_, rfl⟩

theorem wrapped {f : List Clause → Clause} : Single (wrapped f xs) := by
  intro ds same
  cases xs with
  | error x => cases same
  | ok parts =>
    cases same
    exact ⟨_, rfl⟩

theorem ite {p : Prop} [Decidable p] (first : Single xs) (second : Single ys) :
    Single (if p then xs else ys) := by
  split
  · exact first
  · exact second

theorem select {negation all any under : Except Error (List Clause)} (not : Single negation)
    (and : Single all) (or : Single any) (open_ : role k = .field → Single under) :
    Single (select leaf field k v negation all any under) := by
  unfold Filter.select
  cases found : role k with
  | unknown => exact error _
  | comparison o => exact leafOf
  | negation => exact not
  | all => exact and
  | any => exact or
  | field => exact (open_ found).ite (error _)

/-- An operator makes one clause of any operand, and a field one of a full operand. -/
theorem entry : ∀ v field k, (role k = .field → isFull v = true) →
    Single (entryClauses leaf field k v) := by
  intro v
  induction v using induction with
  | dict es ih =>
    intro field k full
    refine select wrapped (wrapped.ite (error _)) (wrapped.ite (error _)) fun field_key => ?_
    obtain ⟨some, parts⟩ := Bool.and_eq_true_iff.mp (full field_key)
    cases es with
    | nil => cases some
    | cons x es =>
      cases es with
      | nil =>
        rw [if_neg (by simp only [List.length_singleton, Nat.lt_irrefl, not_false_eq_true]),
          entriesClauses_singleton]
        exact ih x (List.mem_cons_self ..) k x.1
          fun _ => areFullEntries_iff.mp parts x (List.mem_cons_self ..)
      | cons y es =>
        rw [if_pos (by simp only [List.length_cons]; omega)]
        exact wrapped
  | sequence w vs members ih =>
    intro field k _
    rw [entryClauses_sequence members]
    exact select (error _) (wrapped.ite (error _)) (wrapped.ite (error _)) fun _ => leafOf
  | flat v flat =>
    intro field k _
    rw [entryClauses_flat flat]
    exact select (error _) (error _) (error _) fun _ => leafOf

theorem operator (under : field.isNone = false) : Single (entryClauses leaf field k v) := by
  by_cases field_key : role k = .field
  · have refused : entryClauses leaf field k v = .error (.multipleFields field k) := by
      cases v <;> simp only [entryClauses, Filter.select, field_key, under, Bool.false_eq_true, if_false]
    rw [refused]
    exact error _
  · exact entry v field k fun found => (field_key found).elim

end Single

/-! Rows that satisfy the clauses are those that the filter is true of. -/

/-- The comparison of the leaf holds of the row exactly if it is true. -/
def Evaluates (e : Evaluator) (column : Value → Except Fault Value) (leaf : Leaf) (truth : Truth) :
    Prop :=
  ∀ (field : Value) (o : Operator) (v : Value) (c : Comparison), leaf field o v = .ok c →
    e.satisfies column (.comparison c) = .ok (truth field o v)

/-- If there are clauses, all together evaluate to this truth value. -/
def Holds (e : Evaluator) (column : Value → Except Fault Value)
    (xs : Except Error (List Clause)) (b : Bool) : Prop :=
  ∀ ds, xs = .ok ds → e.satisfiesAll column ds = .ok b

/-- If there are clauses, their disjunction evaluates to this truth value. -/
def HoldsAny (e : Evaluator) (column : Value → Except Fault Value)
    (xs : Except Error (List Clause)) (b : Bool) : Prop :=
  ∀ ds, xs = .ok ds → e.satisfiesAny column ds = .ok b

namespace Holds

theorem error (x : Error) : Holds e column (.error x) b := fun _ same => nomatch same

theorem leafOf (truths : Evaluates e column leaf truth) :
    Holds e column (leafOf leaf field o v) (truth field o v) := by
  intro ds same
  unfold Filter.leafOf at same
  split at same
  · cases same
  · cases made : leaf field o v <;> rw [made] at same <;> cases same
    rw [Evaluator.satisfiesAll_single]
    exact truths field o v _ made

theorem append (first : Holds e column xs a) (second : Holds e column ys b) :
    Holds e column (do let as ← xs; return as ++ (← ys)) (a && b) := by
  intro ds same
  cases xs with
  | error x => cases same
  | ok as =>
    cases ys with
    | error x => cases same
    | ok bs =>
      cases same
      exact Evaluator.satisfiesAll_append (first as rfl) fun _ => second bs rfl

theorem wrapped {f : List Clause → Clause}
    (h : ∀ ds, xs = .ok ds → e.satisfies column (f ds) = .ok b) : Holds e column (wrapped f xs) b := by
  intro ds same
  cases xs with
  | error x => cases same
  | ok parts =>
    cases same
    rw [Evaluator.satisfiesAll_single]
    exact h parts rfl

theorem and (h : Holds e column xs b) : Holds e column (Filter.wrapped .and xs) b := wrapped h

theorem or (h : HoldsAny e column xs b) : Holds e column (Filter.wrapped .or xs) b := wrapped h

theorem not (h : Holds e column xs b) :
    Holds e column (Filter.wrapped (fun cs => .not (.and cs)) xs) (!b) := by
  refine wrapped fun ds same => ?_
  have inside : e.satisfies column (.and ds) = .ok b := h ds same
  rw [Evaluator.satisfies, inside]
  rfl

theorem ite {p : Prop} [Decidable p] (first : Holds e column xs b) (second : Holds e column ys b) :
    Holds e column (if p then xs else ys) b := by
  split
  · exact first
  · exact second

theorem any (h : Holds e column xs b) (one : Single xs) : HoldsAny e column xs b := by
  intro ds same
  obtain ⟨d, rfl⟩ := one ds same
  have holds := h [d] same
  rw [Evaluator.satisfiesAll_single] at holds
  rwa [Evaluator.satisfiesAny_single]

theorem select {negation all any under : Except Error (List Clause)} {n m k' u : Bool}
    (truths : Evaluates e column leaf truth) (not : Holds e column negation n)
    (and : Holds e column all m) (or : role k = .any → Holds e column any k')
    (open_ : Holds e column under u) :
    Holds e column (select leaf field k v negation all any under) (byRole truth field k v n m k' u) := by
  unfold Filter.select byRole
  cases found : role k with
  | unknown => exact error _
  | comparison o => exact leafOf truths
  | negation => exact not
  | all => exact and
  | any => exact or found
  | field => exact open_.ite (error _)

theorem entries (parts : ∀ x ∈ es, ∀ field, Holds e column (entryClauses leaf field x.1 x.2)
      (entryMeans truth field x.1 x.2)) :
    Holds e column (entriesClauses leaf field es) (meansAll truth field es) := by
  induction es with
  | nil => exact fun _ same => by cases same; rfl
  | cons x es ih =>
    have here := parts x (List.mem_cons_self ..) field
    exact here.append (ih fun y member => parts y (List.mem_cons_of_mem _ member))

theorem clausesAll (parts : ∀ v ∈ vs, Holds e column (clauses leaf field v) (means truth field v)) :
    Holds e column (clausesAll leaf field vs) (itemsMeanAll truth field vs) := by
  induction vs with
  | nil => exact fun _ same => by cases same; rfl
  | cons v vs ih =>
    have here := parts v (List.mem_cons_self ..)
    exact here.append (ih fun x member => parts x (List.mem_cons_of_mem _ member))

end Holds

namespace HoldsAny

theorem error (x : Error) : HoldsAny e column (.error x) b := fun _ same => nomatch same

theorem append (first : HoldsAny e column xs a) (second : HoldsAny e column ys b) :
    HoldsAny e column (do let as ← xs; return as ++ (← ys)) (a || b) := by
  intro ds same
  cases xs with
  | error x => cases same
  | ok as =>
    cases ys with
    | error x => cases same
    | ok bs =>
      cases same
      exact Evaluator.satisfiesAny_append (first as rfl) (second bs rfl)

/-- Under an open field all keys are operators, so that each entry is one clause. -/
theorem entries (parts : ∀ x ∈ es, Holds e column (entryClauses leaf field x.1 x.2)
      (entryMeans truth field x.1 x.2)) (under : field.isNone = false) :
    HoldsAny e column (entriesClauses leaf field es) (meansAny truth field es) := by
  induction es with
  | nil => exact fun _ same => by cases same; rfl
  | cons x es ih =>
    have here := (parts x (List.mem_cons_self ..)).any (Single.operator under)
    exact here.append (ih fun y member => parts y (List.mem_cons_of_mem _ member))

theorem jointClausesAll
    (parts : ∀ v ∈ vs, HoldsAny e column (jointClauses leaf field v) (means truth field v)) :
    HoldsAny e column (jointClausesAll leaf field vs) (itemsMeanAny truth field vs) := by
  induction vs with
  | nil => exact fun _ same => by cases same; rfl
  | cons v vs ih =>
    have here := parts v (List.mem_cons_self ..)
    exact here.append (ih fun x member => parts x (List.mem_cons_of_mem _ member))

end HoldsAny

/-- What holds of the clauses of a value in all places where it can stand. -/
structure Agrees (e : Evaluator) (column : Value → Except Fault Value) (leaf : Leaf) (truth : Truth)
    (v : Value) : Prop where
  whole : ∀ field, isSolid v = true → Holds e column (clauses leaf field v) (means truth field v)
  joint : ∀ field, isFull v = true →
    HoldsAny e column (jointClauses leaf field v) (means truth field v)
  entry : ∀ field k, (if role k = .any then isFull v else isSolid v) = true →
    Holds e column (entryClauses leaf field k v) (entryMeans truth field k v)

theorem Agrees.all (truths : Evaluates e column leaf truth) : ∀ v, Agrees e column leaf truth v := by
  intro v
  induction v using induction with
  | dict es ih =>
    have parts : areSolidEntries es = true → ∀ x ∈ es, ∀ field,
        Holds e column (entryClauses leaf field x.1 x.2) (entryMeans truth field x.1 x.2) :=
      fun solid x member field =>
        (ih x member).entry field x.1 (areSolidEntries_iff.mp solid x member)
    refine ⟨fun field solid => .entries (parts solid), fun field full => ?_, fun field k safe => ?_⟩
    · have solid := isSolid_of_isFull (.dict es) full
      have whole : Holds e column (entriesClauses leaf field es) (meansAll truth field es) :=
        .entries (parts solid)
      obtain ⟨some, operands⟩ := Bool.and_eq_true_iff.mp full
      simp only [jointClauses, means]
      split
      · exact whole.and.any .wrapped
      · refine whole.any ?_
        rcases es with _ | ⟨x, _ | ⟨y, es⟩⟩
        · cases some
        · rw [entriesClauses_singleton]
          exact .entry x.2 field x.1 fun _ => areFullEntries_iff.mp operands x (List.mem_cons_self ..)
        · rename_i short
          simp only [List.length_cons] at short
          omega
    · have solid : areSolidEntries es = true := by
        split at safe
        · exact isSolid_of_isFull (.dict es) safe
        · exact safe
      have whole : ∀ field, Holds e column (entriesClauses leaf field es) (meansAll truth field es) :=
        fun field => .entries (parts solid)
      refine .select truths (whole field).not (.ite (whole field).and (.error _)) (fun _ => ?_)
        (.ite (whole k).and (whole k))
      by_cases under : field.isNone = true
      · simp only [under, Bool.not_true, Bool.false_and, Bool.false_eq_true, if_false]
        exact .error _
      · refine .ite (.or (.entries (fun x member => parts solid x member field) ?_)) (.error _)
        exact Bool.eq_false_iff.mpr under
  | sequence w vs members ih =>
    refine ⟨fun field _ => ?_, fun field _ => ?_, fun field k safe => ?_⟩
    · cases w <;> cases members <;> exact .error _
    · cases w <;> cases members <;> exact .error _
    · rw [entryClauses_sequence members, entryMeans_sequence members]
      have solid : areSolid vs = true := by
        rw [← isSolid_sequence members]
        split at safe
        · exact isSolid_of_isFull w safe
        · exact safe
      refine .select truths (.error _) (.ite (.and (.clausesAll fun v member => ?_)) (.error _))
        (fun any_key => .ite (.or (.jointClausesAll fun v member => ?_)) (.error _)) (.leafOf truths)
      · exact (ih v member).whole field (areSolid_iff.mp solid v member)
      · rw [if_pos any_key, isFull_sequence members] at safe
        exact (ih v member).joint field (areFull_iff.mp safe v member)
  | flat v flat =>
    refine ⟨fun field _ => ?_, fun field _ => ?_, fun field k _ => ?_⟩
    · cases v <;> first | exact .error _ | cases flat
    · cases v <;> first | exact .error _ | cases flat
    · rw [entryClauses_flat flat, entryMeans_flat flat]
      exact .select truths (.error _) (.error _) (fun _ => .error _) (.leafOf truths)

/-! Filters that are read as they are written. -/

/-- The value of a row under a key, or of none. -/
def cell (row : List (Value × Value)) (key : Value) : Value :=
  ((row.find? fun x => x.1 == key).map (·.2)).getD .none

theorem comparisonOperator_cases {o' : Operator}
    (known : Query.comparisonOperator (.operator o) = .ok o') : o' = o ∧ o ∈ Operator.comparisons := by
  cases o <;> cases known <;> exact ⟨rfl, by decide⟩

theorem plainLeaf_cases {c : Comparison} (made : plainLeaf field o v = .ok c) :
    Query.isName field = true ∧ o ∈ Operator.comparisons ∧ c = ⟨o, field, Query.freezeValue v⟩ := by
  unfold plainLeaf at made
  split at made
  · cases known : Query.comparisonOperator (.operator o) with
    | error x =>
      rw [known] at made
      cases made
    | ok o' =>
      obtain ⟨rfl, member⟩ := comparisonOperator_cases known
      rw [known] at made
      cases made
      exact ⟨‹_›, member, rfl⟩
  · cases made

theorem columnOf_of_isName {row : List (Value × Value)} (name : Query.isName field = true) :
    Evaluator.columnOf row field = .ok (cell row field) := by
  cases field with
  | str _ | operator _ | fieldType _ | sortOrder _ => rfl
  | _ => cases name

theorem plainLeaf_evaluates (row : List (Value × Value)) {table : Operator → Value → Value → Bool}
    (total : ∀ o ∈ Operator.comparisons, ∀ v w, e.compare (.operator o) v w = .ok (table o v w)) :
    Evaluates e (Evaluator.columnOf row) plainLeaf
      fun field o v => table o (cell row field) (Query.freezeValue v) := by
  intro field o v c made
  obtain ⟨name, member, rfl⟩ := plainLeaf_cases made
  simp only [Evaluator.satisfies, columnOf_of_isName name, Bind.bind, Except.bind]
  exact total o member _ _

/-- A filter is true of a row exactly if the row satisfies the condition that it is read into. -/
theorem matches_of_read {q₀ q : Query} {filter options : Value} {row : List (Value × Value)}
    {table : Operator → Value → Value → Bool} (unseeded : q₀.branches = [{}])
    (accepted : read (.ok q₀) filter options (some unchanged) = .ok q)
    (solid : isSolid filter = true)
    (total : ∀ o ∈ Operator.comparisons, ∀ v w, e.compare (.operator o) v w = .ok (table o v w)) :
    e.matches q.whereClause row =
      .ok (means (fun field o v => table o (cell row field) (Query.freezeValue v)) .none filter) := by
  obtain ⟨o, p, -, parsed, rfl⟩ := read_cases accepted
  have tree : Query.Spans q₀.branches 0 q₀.branches.length (.and []) := by
    rw [unseeded]
    exact .node rfl .nil rfl
  cases found : clauses plainLeaf .none filter with
  | error x =>
    have failed := expression_error (q := q₀.restart) unchanged_faithful ⟨0, [], rfl, tree.lt⟩ found
    cases parsed.symm.trans failed
  | ok cs =>
    obtain ⟨r, parsed', -, root⟩ :=
      expression_of_clauses (q := q₀.restart) unchanged_faithful rfl tree found
    cases parsed.symm.trans parsed'
    have evaluated :=
      (Agrees.all (plainLeaf_evaluates row total) filter).whole .none solid cs found
    change e.satisfies (Evaluator.columnOf row) p.whereClause = _
    rw [root]
    exact evaluated

/-- An evaluator of which every operator compares by equality. -/
def alike : Evaluator := Operator.comparisons.map fun o => (o, Comparator.equal)

theorem alike_compare : ∀ o ∈ Operator.comparisons, ∀ v w : Value,
    alike.compare (.operator o) v w = .ok (v == w) := by
  intro o member v w
  cases o with
  | and | or | not => exact absurd member (by decide)
  | _ => rfl

/-- Cats of three, or anything of one or seven; and not an unknown age. -/
def petFilter : Value :=
  .dict
    [(.str "$or", .list
      [.dict [(.str "kind", .str "cat"), (.str "age", .int 3)],
       .dict [(.str "age", .dict [(.str "$or", .dict [(.str "$in", .int 1), (.str "$eq", .int 7)])])]]),
     (.str "$not", .dict [(.str "age", .none), (.str "kind", .dict [])])]

theorem matches_of_read_nested :
    isSolid petFilter = true ∧
      ∃ q, read (.ok { collection := { id := 0, name := "pets" }, label := "p" }) petFilter .none
          (some unchanged) = .ok q ∧
        alike.matches q.whereClause [(.str "age", .int 7)] = .ok true := by
  have solid : isSolid petFilter = true := by cbv
  obtain ⟨q, accepted⟩ : ∃ q, read (.ok { collection := { id := 0, name := "pets" }, label := "p" })
      petFilter .none (some unchanged) = .ok q := ⟨_, by cbv⟩
  refine ⟨solid, q, accepted, (matches_of_read rfl accepted solid alike_compare).trans ?_⟩
  cbv

end ModelStore.Filter
