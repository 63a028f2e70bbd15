import ModelStore.Proofs.Query.Issue

/-!
The clauses that a filter stands for, told without a query under construction. The main statement is
that reading a filter is the same as first finding its clauses and then entering them.
-/

namespace ModelStore.Filter

open Clause (regularAll)
open Query (issue issueAll)

/-- Whether a value is no mapping, list or tuple, so that no part of it is read. -/
def isFlat : Value → Bool
  | .dict _ | .list _ | .tuple _ => false
  | _ => true

/-- The members of a list or a tuple. -/
def members? : Value → Option (List Value)
  | .list vs | .tuple vs => some vs
  | _ => none

/-- Induction along the values of mappings and the members of lists and tuples. -/
@[elab_as_elim]
theorem induction {P : Value → Prop}
    (dict : ∀ es : List (Value × Value), (∀ e ∈ es, P e.2) → P (.dict es))
    (sequence : ∀ (w : Value) (vs : List Value), members? w = some vs → (∀ v ∈ vs, P v) → P w)
    (flat : ∀ v : Value, isFlat v = true → P v) : ∀ v : Value, P v
  | .dict es => dict es fun e _ => induction dict sequence flat e.2
  | .list vs => sequence _ vs rfl fun v _ => induction dict sequence flat v
  | .tuple vs => sequence _ vs rfl fun v _ => induction dict sequence flat v
  | .none | .bool _ | .int _ | .float _ | .str _ | .bytes _ | .date _ | .datetime _ | .set _
  | .frozenset _ | .operator _ | .fieldType _ | .sortOrder _ | .converter _ | .record _ | .model _ _
  | .object _ => flat _ rfl
termination_by v => sizeOf v
decreasing_by
  · have inside := List.sizeOf_lt_of_mem ‹e ∈ es›
    cases e
    simp only [Value.dict.sizeOf_spec, Prod.mk.sizeOf_spec] at inside ⊢
    omega
  · have inside := List.sizeOf_lt_of_mem ‹v ∈ vs›
    simp only [Value.list.sizeOf_spec]
    omega
  · have inside := List.sizeOf_lt_of_mem ‹v ∈ vs›
    simp only [Value.tuple.sizeOf_spec]
    omega

/-- The comparison that a field, an operator and a value make, if they make one. -/
abbrev Leaf := Value → Operator → Value → Except Error Comparison

/-- The comparison as it is written. -/
def plainLeaf : Leaf := fun field o v => do
  if Query.isName field then
    return ⟨← Query.comparisonOperator (.operator o), field, Query.freezeValue v⟩
  else .error (.invalid "field" "Field name must be a non-empty string")

def leafOf (leaf : Leaf) (field : Value) (o : Operator) (v : Value) :
    Except Error (List Clause) :=
  if field.isNone then .error (.fieldRequired o.value)
  else do return [.comparison (← leaf field o v)]

/-- The clauses of an entry by its role: those for each kind of operand are given. -/
def select (leaf : Leaf) (field k v : Value) (negation all any under : Except Error (List Clause)) :
    Except Error (List Clause) :=
  match role k with
  | .unknown => .error (.unknownOperator k.display operatorNames)
  | .comparison o => leafOf leaf field o v
  | .negation => negation
  | .all => all
  | .any => any
  | .field => if field.isNone then under else .error (.multipleFields field k)

/-- Clauses as the parts of one clause. -/
def wrapped (f : List Clause → Clause) (cs : Except Error (List Clause)) :
    Except Error (List Clause) := do return [f (← cs)]

mutual

def clauses (leaf : Leaf) (field : Value) : Value → Except Error (List Clause)
  | .dict es => entriesClauses leaf field es
  | v => .error (notMapping field v)
  termination_by structural v => v

/-- The clauses of a mapping within a disjunction, where several entries make one clause. -/
def jointClauses (leaf : Leaf) (field : Value) : Value → Except Error (List Clause)
  | .dict es =>
    if 1 < es.length then wrapped .and (entriesClauses leaf field es)
    else entriesClauses leaf field es
  | v => .error (notMapping field v)
  termination_by structural v => v

def entriesClauses (leaf : Leaf) (field : Value) :
    List (Value × Value) → Except Error (List Clause)
  | [] => .ok []
  | (k, v) :: es => do
    let cs ← entryClauses leaf field k v
    return cs ++ (← entriesClauses leaf field es)
  termination_by structural v => v

def entryClauses (leaf : Leaf) (field k : Value) : Value → Except Error (List Clause)
  | .dict es =>
    let oneByOne := !field.isNone && !es.isEmpty
    select leaf field k (.dict es)
      (wrapped (fun cs => .not (.and cs)) (entriesClauses leaf field es))
      (if oneByOne then wrapped .and (entriesClauses leaf field es)
       else .error (notExpressions field .and))
      (if oneByOne then wrapped .or (entriesClauses leaf field es)
       else .error (notExpressions field .or))
      (if 1 < es.length then wrapped .and (entriesClauses leaf k es)
       else entriesClauses leaf k es)
  | .list vs =>
    select leaf field k (.list vs)
      (.error (notMapping field (.list vs)))
      (if areExpressions vs then wrapped .and (clausesAll leaf field vs)
       else .error (notExpressions field .and))
      (if areExpressions vs then wrapped .or (jointClausesAll leaf field vs)
       else .error (notExpressions field .or))
      (leafOf leaf k .eq (.list vs))
  | .tuple vs =>
    select leaf field k (.tuple vs)
      (.error (notMapping field (.tuple vs)))
      (if areExpressions vs then wrapped .and (clausesAll leaf field vs)
       else .error (notExpressions field .and))
      (if areExpressions vs then wrapped .or (jointClausesAll leaf field vs)
       else .error (notExpressions field .or))
      (leafOf leaf k .eq (.tuple vs))
  | v =>
    select leaf field k v
      (.error (notMapping field v))
      (.error (notExpressions field .and))
      (.error (notExpressions field .or))
      (leafOf leaf k .eq v)
  termination_by structural v => v

def clausesAll (leaf : Leaf) (field : Value) : List Value → Except Error (List Clause)
  | [] => .ok []
  | v :: vs => do
    let cs ← clauses leaf field v
    return cs ++ (← clausesAll leaf field vs)
  termination_by structural v => v

def jointClausesAll (leaf : Leaf) (field : Value) : List Value → Except Error (List Clause)
  | [] => .ok []
  | v :: vs => do
    let cs ← jointClauses leaf field v
    return cs ++ (← jointClausesAll leaf field vs)
  termination_by structural v => v

end

variable {leaf : Leaf} {t : Translator} {field k v w : Value} {o : Operator} {vs : List Value}
  {es : List (Value × Value)} {q r : Query} {cs : List Clause}

theorem entryClauses_sequence (sequence : members? w = some vs) :
    entryClauses leaf field k w =
      select leaf field k w (.error (notMapping field w))
        (if areExpressions vs then wrapped .and (clausesAll leaf field vs)
         else .error (notExpressions field .and))
        (if areExpressions vs then wrapped .or (jointClausesAll leaf field vs)
         else .error (notExpressions field .or))
        (leafOf leaf k .eq w) := by
  cases w <;> cases sequence <;> rfl

theorem entryClauses_flat (flat : isFlat v = true) :
    entryClauses leaf field k v =
      select leaf field k v (.error (notMapping field v)) (.error (notExpressions field .and))
        (.error (notExpressions field .or)) (leafOf leaf k .eq v) := by
  cases v <;> first | rfl | cases flat

theorem entry_sequence (sequence : members? w = some vs) :
    entry t field k w q =
      dispatch t field k w (fun _ => .error (notMapping field w))
        (if areExpressions vs then inBranch Query.openAnd fun q => expressions t field vs q
         else fun _ => .error (notExpressions field .and))
        (if areExpressions vs then inBranch Query.openOr fun q => conjunctions t field vs q
         else fun _ => .error (notExpressions field .or))
        (compared t k .eq w) q := by
  cases w <;> cases sequence <;> rfl

theorem entry_flat (flat : isFlat v = true) :
    entry t field k v q =
      dispatch t field k v (fun _ => .error (notMapping field v))
        (fun _ => .error (notExpressions field .and)) (fun _ => .error (notExpressions field .or))
        (compared t k .eq v) q := by
  cases v <;> first | rfl | cases flat

/-! What every way to make a clause hands on holds of all clauses. -/

/-- If there are clauses at all, each of them has the property. -/
def Every (P : Clause → Prop) (xs : Except Error (List Clause)) : Prop := ∀ ds, xs = .ok ds → ∀ d ∈ ds, P d

/-- A property of comparisons that is handed on to the clauses that are made of them. -/
structure HandedOn (leaf : Leaf) (P : Clause → Prop) : Prop where
  comparison : ∀ {field o v c}, leaf field o v = .ok c → P (.comparison c)
  and : ∀ {ds}, (∀ d ∈ ds, P d) → P (.and ds)
  or : ∀ {ds}, (∀ d ∈ ds, P d) → P (.or ds)
  not : ∀ {ds}, (∀ d ∈ ds, P d) → P (.not (.and ds))

namespace Every

variable {P : Clause → Prop} {xs ys : Except Error (List Clause)}

theorem error (e : Error) : Every P (.error e) := fun _ same => nomatch same

theorem leafOf (handed : HandedOn leaf P) : Every P (leafOf leaf field o v) := by
  intro ds same
  unfold Filter.leafOf at same
  split at same
  · cases same
  · cases made : leaf field o v <;> rw [made] at same <;> cases same
    exact List.forall_mem_singleton.mpr (handed.comparison made)

theorem wrapped {f : List Clause → Clause} (h : Every P xs)
    (handed : ∀ {ds}, (∀ d ∈ ds, P d) → P (f ds)) : Every P (wrapped f xs) := by
  intro ds same
  cases xs with
  | error e => cases same
  | ok parts =>
    cases same
    exact List.forall_mem_singleton.mpr (handed (h parts rfl))

theorem append (first : Every P xs) (second : Every P ys) : Every P (do let as ← xs; return as ++ (← ys)) := by
  intro all same
  cases xs with
  | error e => cases same
  | ok as =>
    cases ys with
    | error e => cases same
    | ok bs =>
      cases same
      exact List.forall_mem_append.mpr ⟨first as rfl, second bs rfl⟩

theorem ite {p : Prop} [Decidable p] (first : Every P xs) (second : Every P ys) :
    Every P (if p then xs else ys) := by
  split
  · exact first
  · exact second

theorem select {negation all any under : Except Error (List Clause)} (handed : HandedOn leaf P)
    (not : Every P negation) (and : Every P all) (or : Every P any) (open_ : Every P under) :
    Every P (select leaf field k v negation all any under) := by
  unfold Filter.select
  split
  · exact error _
  · exact leafOf handed
  · exact not
  · exact and
  · exact or
  · exact open_.ite (error _)

theorem entries (parts : ∀ e ∈ es, ∀ field k, Every P (entryClauses leaf field k e.2)) :
    Every P (entriesClauses leaf field es) := by
  induction es with
  | nil => exact fun _ same => by cases same; exact List.forall_mem_nil _
  | cons e es ih =>
    have here := parts e (List.mem_cons_self ..) field e.1
    exact here.append (ih fun x member => parts x (List.mem_cons_of_mem _ member))

theorem clausesAll (parts : ∀ v ∈ vs, ∀ field, Every P (clauses leaf field v)) :
    Every P (clausesAll leaf field vs) := by
  induction vs with
  | nil => exact fun _ same => by cases same; exact List.forall_mem_nil _
  | cons v vs ih =>
    have here := parts v (List.mem_cons_self ..) field
    exact here.append (ih fun x member => parts x (List.mem_cons_of_mem _ member))

theorem jointClausesAll (parts : ∀ v ∈ vs, ∀ field, Every P (jointClauses leaf field v)) :
    Every P (jointClausesAll leaf field vs) := by
  induction vs with
  | nil => exact fun _ same => by cases same; exact List.forall_mem_nil _
  | cons v vs ih =>
    have here := parts v (List.mem_cons_self ..) field
    exact here.append (ih fun x member => parts x (List.mem_cons_of_mem _ member))

end Every

/-- What holds of the clauses of a value in all places where it can stand. -/
structure Everywhere (leaf : Leaf) (P : Clause → Prop) (v : Value) : Prop where
  whole : ∀ field, Every P (clauses leaf field v)
  joint : ∀ field, Every P (jointClauses leaf field v)
  entry : ∀ field k, Every P (entryClauses leaf field k v)

theorem HandedOn.everywhere {P : Clause → Prop} (handed : HandedOn leaf P) : ∀ v, Everywhere leaf P v := by
  intro v
  induction v using induction with
  | dict es ih =>
    have parts : ∀ field, Every P (entriesClauses leaf field es) :=
      fun _ => .entries fun e member => (ih e member).entry
    have one : ∀ field, Every P (if 1 < es.length then wrapped .and (entriesClauses leaf field es)
        else entriesClauses leaf field es) :=
      fun field => ((parts field).wrapped handed.and).ite (parts field)
    refine ⟨parts, one, fun field k => .select handed ?_ (.ite ?_ (.error _)) (.ite ?_ (.error _)) (one k)⟩
    · exact (parts field).wrapped handed.not
    · exact (parts field).wrapped handed.and
    · exact (parts field).wrapped handed.or
  | sequence w vs members ih =>
    have not_mapping : ∀ field, Every P (clauses leaf field w) ∧ Every P (jointClauses leaf field w) :=
      fun field => by cases w <;> cases members <;> exact ⟨.error _, .error _⟩
    refine ⟨fun field => (not_mapping field).1, fun field => (not_mapping field).2, fun field k => ?_⟩
    rw [entryClauses_sequence members]
    refine .select handed (.error _) (.ite ?_ (.error _)) (.ite ?_ (.error _)) (.leafOf handed)
    · exact (Every.clausesAll fun v member => (ih v member).whole).wrapped handed.and
    · exact (Every.jointClausesAll fun v member => (ih v member).joint).wrapped handed.or
  | flat v flat =>
    have not_mapping : ∀ field, Every P (clauses leaf field v) ∧ Every P (jointClauses leaf field v) :=
      fun field => by cases v <;> first | exact ⟨.error _, .error _⟩ | cases flat
    refine ⟨fun field => (not_mapping field).1, fun field => (not_mapping field).2, fun field k => ?_⟩
    rw [entryClauses_flat flat]
    exact .select handed (.error _) (.error _) (.error _) (.leafOf handed)

/-! All clauses are made of comparisons, and of conjunctions where they are negated. -/

/-- If there are clauses at all, they are regular. -/
def Regular (cs : Except Error (List Clause)) : Prop := ∀ ds, cs = .ok ds → regularAll ds = true

theorem regularAll_iff {cs : List Clause} : regularAll cs = true ↔ ∀ c ∈ cs, c.regular = true := by
  induction cs with
  | nil => simp [regularAll]
  | cons c cs ih => simp [regularAll, ih]

theorem Regular.of_every {xs : Except Error (List Clause)} (every : Every (·.regular = true) xs) : Regular xs :=
  fun ds same => regularAll_iff.mpr (every ds same)

/-- The clauses of a value are regular in all places where it can stand. -/
theorem regular_everywhere (leaf : Leaf) : ∀ v, Everywhere leaf (·.regular = true) v :=
  HandedOn.everywhere
    { comparison := fun _ => rfl
      and := regularAll_iff.mpr
      or := regularAll_iff.mpr
      not := regularAll_iff.mpr }

/-! Reading a filter is entering its clauses. -/

/-- Whether a branch is open, and one of the branches of the query. -/
def Ready (q : Query) : Prop := ∃ i rest, q.stack = i :: rest ∧ i < q.branches.length

/-- A translator that adds the comparison of the leaf, if there is one. -/
def Faithful (t : Translator) (leaf : Leaf) : Prop :=
  ∀ (q : Query) (field : Value) (o : Operator) (v : Value), Ready q →
    t q field o v = leaf field o v >>= q.append

/-- A way to change a query that is to enter the clauses, and that fails if there are none. -/
def Enters (f : Query → Except Error Query) (cs : Except Error (List Clause)) : Prop :=
  ∀ q : Query, Ready q → f q = cs >>= fun ds => issueAll ds q

theorem unchanged_faithful : Faithful unchanged plainLeaf := by
  rintro q field o v ⟨i, rest, tip, -⟩
  simp only [unchanged, Query.operation, Query.current, tip, plainLeaf]
  split
  · cases Query.comparisonOperator (.operator o) <;> rfl
  · rfl

theorem issueAll_append {xs ys : List Clause} :
    issueAll (xs ++ ys) q = issueAll xs q >>= fun r => issueAll ys r := by
  induction xs generalizing q with
  | nil => rfl
  | cons x xs ih =>
    simp only [List.cons_append, issueAll, Bind.bind, Except.bind]
    cases issue x q with
    | error e => rfl
    | ok r => exact ih

theorem Ready.issueAll (ready : Ready q) (regular : regularAll cs = true) :
    ∃ r, issueAll cs q = .ok r ∧ Ready r := by
  obtain ⟨i, rest, tip, inside⟩ := ready
  obtain ⟨r, entered, gained⟩ := Query.issueAll_gains cs tip inside regular
  refine ⟨r, entered, i, rest, ?_, Nat.lt_of_lt_of_le inside gained.length_le⟩
  rw [gained.frame, tip]

theorem Ready.openBranch (ready : Ready q) (call : String) (isOr : Bool) (link : Nat → Child) :
    ∃ p, q.openBranch call isOr link = .ok p ∧ Ready p := by
  obtain ⟨i, rest, tip, inside⟩ := ready
  refine ⟨_, by simp only [Query.openBranch, Query.current, tip]; rfl, _, _, rfl, ?_⟩
  simp only [Query.appendChild, List.length_modify, List.length_append, List.length_singleton]
  omega

namespace Enters

variable {f g : Query → Except Error Query} {xs ys : Except Error (List Clause)}

theorem error (e : Error) : Enters (fun _ => .error e) (.error e) := fun _ _ => rfl

theorem compared (faithful : Faithful t leaf) : Enters (compared t field o v) (leafOf leaf field o v) := by
  intro q ready
  unfold Filter.compared leafOf
  split
  · rfl
  · rw [faithful q field o v ready]
    cases leaf field o v with
    | error e => rfl
    | ok c =>
      change q.append c = _
      simp only [Bind.bind, Except.bind, Pure.pure, Except.pure, issueAll, issue]
      cases q.append c <;> rfl

theorem inBranch {call : String} {isOr : Bool} {link : Nat → Child} {wrap : List Clause → Clause}
    (h : Enters f xs)
    (one : ∀ ds, issue (wrap ds) = Filter.inBranch (fun q => q.openBranch call isOr link) (issueAll ds)) :
    Enters (Filter.inBranch (fun q => q.openBranch call isOr link) f) (wrapped wrap xs) := by
  intro q ready
  obtain ⟨p, opened, ready'⟩ := ready.openBranch call isOr link
  simp only [Filter.inBranch, opened, Bind.bind, Except.bind, h p ready']
  cases xs with
  | error e => rfl
  | ok ds =>
    simp only [wrapped, Bind.bind, Except.bind, Pure.pure, Except.pure, issueAll, one,
      Filter.inBranch, opened]
    cases Query.issueAll ds p with
    | error e => rfl
    | ok r =>
      dsimp only
      cases r.close <;> rfl

theorem andThen (first : Enters f xs) (regular : Regular xs) (second : Enters g ys) :
    Enters (fun q => do g (← f q)) (do let as ← xs; return as ++ (← ys)) := by
  intro q ready
  change f q >>= g = _
  rw [first q ready]
  cases xs with
  | error e => rfl
  | ok as =>
    obtain ⟨r, entered, ready'⟩ := ready.issueAll (regular as rfl)
    have after := second r ready'
    cases ys with
    | error e =>
      simp only [Bind.bind, Except.bind, entered] at after ⊢
      exact after
    | ok bs =>
      simp only [Bind.bind, Except.bind, Pure.pure, Except.pure, entered, issueAll_append] at after ⊢
      exact after

theorem ite {p : Prop} [Decidable p] (first : Enters f xs) (second : Enters g ys) :
    Enters (if p then f else g) (if p then xs else ys) := by
  split
  · exact first
  · exact second

theorem dispatch {negation all any under : Query → Except Error Query}
    {not and or open_ : Except Error (List Clause)} (faithful : Faithful t leaf)
    (h₁ : Enters negation not) (h₂ : Enters all and) (h₃ : Enters any or) (h₄ : Enters under open_) :
    Enters (fun q => dispatch t field k v negation all any under q)
      (select leaf field k v not and or open_) := by
  unfold Filter.dispatch select
  cases role k with
  | unknown => exact error _
  | comparison o => exact compared faithful
  | negation => exact h₁
  | all => exact h₂
  | any => exact h₃
  | field =>
    intro q ready
    by_cases none : field.isNone
    · simp only [none, if_true]
      exact h₄ q ready
    · simp only [none]
      rfl

theorem entries (parts : ∀ e ∈ es, ∀ field k,
      Enters (fun q => entry t field k e.2 q) (entryClauses leaf field k e.2)) :
    Enters (fun q => entries t field es q) (entriesClauses leaf field es) := by
  induction es with
  | nil => exact fun _ _ => rfl
  | cons e es ih =>
    have here := parts e (List.mem_cons_self ..) field e.1
    have there := ih fun x member => parts x (List.mem_cons_of_mem _ member)
    exact here.andThen (.of_every ((regular_everywhere leaf e.2).entry field e.1)) there

theorem expressions (parts : ∀ v ∈ vs, Enters (fun q => expression t field v q) (clauses leaf field v)) :
    Enters (fun q => expressions t field vs q) (clausesAll leaf field vs) := by
  induction vs with
  | nil => exact fun _ _ => rfl
  | cons v vs ih =>
    have here := parts v (List.mem_cons_self ..)
    have there := ih fun x member => parts x (List.mem_cons_of_mem _ member)
    exact here.andThen (.of_every ((regular_everywhere leaf v).whole field)) there

theorem conjunctions (parts : ∀ v ∈ vs,
      Enters (fun q => conjunction t field v q) (jointClauses leaf field v)) :
    Enters (fun q => conjunctions t field vs q) (jointClausesAll leaf field vs) := by
  induction vs with
  | nil => exact fun _ _ => rfl
  | cons v vs ih =>
    have here := parts v (List.mem_cons_self ..)
    have there := ih fun x member => parts x (List.mem_cons_of_mem _ member)
    exact here.andThen (.of_every ((regular_everywhere leaf v).joint field)) there

structure Everywhere (t : Translator) (leaf : Leaf) (v : Value) : Prop where
  whole : ∀ field, Enters (fun q => expression t field v q) (clauses leaf field v)
  joint : ∀ field, Enters (fun q => conjunction t field v q) (jointClauses leaf field v)
  entry : ∀ field k, Enters (fun q => entry t field k v q) (entryClauses leaf field k v)

theorem everywhere (faithful : Faithful t leaf) : ∀ v, Everywhere t leaf v := by
  intro v
  induction v using induction with
  | dict es ih =>
    have parts : ∀ field, Enters (fun q => Filter.entries t field es q) (entriesClauses leaf field es) :=
      fun _ => entries fun e member => (ih e member).entry
    have one : ∀ field, Enters
        (if 1 < es.length then Filter.inBranch Query.openAnd fun q => Filter.entries t field es q
         else fun q => Filter.entries t field es q)
        (if 1 < es.length then wrapped .and (entriesClauses leaf field es)
         else entriesClauses leaf field es) :=
      fun field => ite ((parts field).inBranch fun _ => rfl) (parts field)
    refine ⟨parts, fun field => ?_, fun field k => dispatch faithful ?_ (ite ?_ (error _))
      (ite ?_ (error _)) (one k)⟩
    · intro q ready
      have read := one field q ready
      simp only [conjunction, jointClauses]
      rw [← read]
      split <;> rfl
    all_goals exact (parts field).inBranch fun _ => rfl
  | sequence w vs members ih =>
    have not_mapping : ∀ field, Enters (fun q => expression t field w q) (clauses leaf field w) ∧
        Enters (fun q => conjunction t field w q) (jointClauses leaf field w) :=
      fun field => by cases w <;> cases members <;> exact ⟨error _, error _⟩
    refine ⟨fun field => (not_mapping field).1, fun field => (not_mapping field).2, fun field k => ?_⟩
    simp only [entry_sequence members, entryClauses_sequence members]
    refine dispatch faithful (error _) (ite ?_ (error _)) (ite ?_ (error _)) (compared faithful)
    · exact (expressions fun v member => (ih v member).whole field).inBranch fun _ => rfl
    · exact (conjunctions fun v member => (ih v member).joint field).inBranch fun _ => rfl
  | flat v flat =>
    have not_mapping : ∀ field, Enters (fun q => expression t field v q) (clauses leaf field v) ∧
        Enters (fun q => conjunction t field v q) (jointClauses leaf field v) :=
      fun field => by cases v <;> first | exact ⟨error _, error _⟩ | cases flat
    refine ⟨fun field => (not_mapping field).1, fun field => (not_mapping field).2, fun field k => ?_⟩
    simp only [entry_flat flat, entryClauses_flat flat]
    exact dispatch faithful (error _) (error _) (error _) (compared faithful)

end Enters

/-- A filter is read at the root of a query as its clauses after those that were there. -/
theorem expression_of_clauses {old : List Clause} (faithful : Faithful t leaf) (tip : q.stack = [0])
    (tree : Query.Spans q.branches 0 q.branches.length (.and old))
    (found : clauses leaf field v = .ok cs) :
    ∃ r, expression t field v q = .ok r ∧ r = { q with branches := r.branches } ∧
      r.whereClause = .and (old ++ cs) := by
  have regular := Regular.of_every ((regular_everywhere leaf v).whole field) cs found
  obtain ⟨r, entered, gained⟩ := Query.issueAll_gains cs tip tree.lt regular
  have read := (Enters.everywhere faithful v).whole field q ⟨0, [], tip, tree.lt⟩
  rw [found] at read
  exact ⟨r, read.trans entered, gained.frame, (gained.whereClause tree).1⟩

theorem expression_error {e : Error} (faithful : Faithful t leaf) (ready : Ready q)
    (failed : clauses leaf field v = .error e) : expression t field v q = .error e := by
  have read := (Enters.everywhere faithful v).whole field q ready
  rwa [failed] at read

theorem read_cases {filter opts : Value} (accepted : read (.ok q) filter opts (some t) = .ok r) :
    ∃ o p, options opts = .ok o ∧ expression t .none filter q.restart = .ok p ∧
      r = applyOptions p o := by
  unfold read at accepted
  by_cases mapping : isMapping filter = true
  · simp only [mapping, Bool.not_true, Bool.false_eq_true, if_false, Bind.bind, Except.bind,
      Pure.pure, Except.pure] at accepted
    cases shaped : options opts with
    | error e =>
      rw [shaped] at accepted
      cases accepted
    | ok o =>
      cases parsed : expression t .none filter q.restart with
      | error e =>
        simp only [shaped, parsed] at accepted
        cases accepted
      | ok p =>
        simp only [shaped, parsed] at accepted
        cases accepted
        exact ⟨o, p, rfl, rfl, rfl⟩
  · simp only [mapping] at accepted
    cases accepted

end ModelStore.Filter
