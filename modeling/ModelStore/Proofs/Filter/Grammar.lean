import ModelStore.Proofs.Filter.Clauses

/-!
The grammar of filters, and what is wrong with a filter that is not formed by it. The field under which a
filter stands is given, with nothing for no field. Clauses are found for exactly the filters of the grammar;
any other filter is refused for its first violation.
-/

namespace ModelStore.Filter

mutual

/-- A mapping of which each entry is formed by the rules. -/
inductive IsExpression : Value → Value → Prop where
  | mapping {field : Value} {es : List (Value × Value)} (each : ∀ e ∈ es, IsEntry field e.1 e.2) :
      IsExpression field (.dict es)

/-- An operator with an operand that suits it or, if no field is open, a field with a filter or a value. -/
inductive IsEntry : Value → Value → Value → Prop where
  | comparison {field k v : Value} {o : Operator} (key : role k = .comparison o)
      (named : Query.isName field = true) : IsEntry field k v
  | negation {field k v : Value} (key : role k = .negation) (operand : IsExpression field v) : IsEntry field k v
  | joint {field k v : Value} (key : role k = .all ∨ role k = .any) (operand : IsOperand field v) :
      IsEntry field k v
  | under {field k : Value} {es : List (Value × Value)} (key : role k = .field) (top : field.isNone = true)
      (operand : IsExpression k (.dict es)) : IsEntry field k (.dict es)
  | value {field k v : Value} (key : role k = .field) (top : field.isNone = true) (plain : isMapping v = false)
      (named : Query.isName k = true) : IsEntry field k v

/-- What a conjunction or disjunction combines: filters in a list or, under a field, entries one by one. -/
inductive IsOperand : Value → Value → Prop where
  | items {field v : Value} {vs : List Value} (members : members? v = some vs) (some_ : vs ≠ [])
      (each : ∀ v ∈ vs, IsExpression field v) : IsOperand field v
  | oneByOne {field : Value} {es : List (Value × Value)} (open_ : field.isNone = false) (some_ : es ≠ [])
      (each : ∀ e ∈ es, IsEntry field e.1 e.2) : IsOperand field (.dict es)

end

/-- What can be wrong with a filter. -/
inductive Violation where
  | malformed
  | unknownOperator
  | fieldRequired
  | multipleFields
  deriving DecidableEq, Repr

/-- The name of the error that reports a violation. -/
def Violation.errorName : Violation → String
  | .malformed => "ValidationError"
  | .unknownOperator => "UnknownOperatorError"
  | .fieldRequired => "FieldRequiredError"
  | .multipleFields => "MultipleFieldsInBranchError"

/-- A comparison without a field, or with one that has no name. -/
inductive Unnamed : Value → Violation → Prop where
  | missing {field : Value} (none : field.isNone = true) : Unnamed field .fieldRequired
  | empty {field : Value} (some_ : field.isNone = false) (unnamed : Query.isName field = false) :
      Unnamed field .malformed

mutual

/-- The first violation of a filter: all that is read before it is formed by the rules. -/
inductive Breaks : Value → Value → Violation → Prop where
  | notMapping {field v : Value} (other : isMapping v = false) : Breaks field v .malformed
  | entry {field k v : Value} {x : Violation} {before after : List (Value × Value)}
      (fine : ∀ e ∈ before, IsEntry field e.1 e.2) (broken : EntryBreaks field k v x) :
      Breaks field (.dict (before ++ (k, v) :: after)) x

inductive EntryBreaks : Value → Value → Value → Violation → Prop where
  | unknown {field k v : Value} (key : role k = .unknown) : EntryBreaks field k v .unknownOperator
  | comparison {field k v : Value} {o : Operator} {x : Violation} (key : role k = .comparison o)
      (broken : Unnamed field x) : EntryBreaks field k v x
  | negation {field k v : Value} {x : Violation} (key : role k = .negation) (broken : Breaks field v x) :
      EntryBreaks field k v x
  | joint {field k v : Value} {x : Violation} (key : role k = .all ∨ role k = .any)
      (broken : OperandBreaks field v x) : EntryBreaks field k v x
  | second {field k v : Value} (key : role k = .field) (open_ : field.isNone = false) :
      EntryBreaks field k v .multipleFields
  | under {field k : Value} {es : List (Value × Value)} {x : Violation} (key : role k = .field)
      (top : field.isNone = true) (broken : Breaks k (.dict es) x) : EntryBreaks field k (.dict es) x
  | value {field k v : Value} {x : Violation} (key : role k = .field) (top : field.isNone = true)
      (plain : isMapping v = false) (broken : Unnamed k x) : EntryBreaks field k v x

/-- That the members of a list are mappings is seen before any of them is read. -/
inductive OperandBreaks : Value → Value → Violation → Prop where
  | shape {field v : Value} (items : ∀ vs, members? v = some vs → areExpressions vs = false)
      (entries : ∀ es, v = .dict es → field.isNone = true ∨ es = []) : OperandBreaks field v .malformed
  | item {field v w : Value} {x : Violation} {before after : List Value}
      (members : members? w = some (before ++ v :: after))
      (mappings : areExpressions (before ++ v :: after) = true) (fine : ∀ u ∈ before, IsExpression field u)
      (broken : Breaks field v x) : OperandBreaks field w x
  | oneByOne {field : Value} {es : List (Value × Value)} {x : Violation} (open_ : field.isNone = false)
      (broken : Breaks field (.dict es) x) : OperandBreaks field (.dict es) x

end

variable {α : Type} {field k v w : Value} {o : Operator} {vs : List Value} {es : List (Value × Value)}
  {x : Violation}

/-- An error that reports a violation: one of its name, which tells of invalid input. -/
structure Violation.Reports (x : Violation) (e : Error) : Prop where
  name : e.name = x.errorName
  invalid : "ValidationError" ∈ e.lineage

/-- An outcome that is there for what is good, and that otherwise reports what is bad. -/
structure Judged {α : Type} (good : Prop) (bad : Violation → Prop) (r : Except Error α) : Prop where
  accepts : good → ∃ a, r = .ok a
  rejects : ∀ x, bad x → ∃ e, r = .error e ∧ x.Reports e
  total : good ∨ ∃ x, bad x

namespace Judged

variable {good good' : Prop} {bad bad' : Violation → Prop} {r r' : Except Error (List Clause)}

theorem iff (judged : Judged good bad r) (same : good' ↔ good) (same' : ∀ x, bad' x ↔ bad x) :
    Judged good' bad' r where
  accepts fine := judged.accepts (same.mp fine)
  rejects x broken := judged.rejects x ((same' x).mp broken)
  total := judged.total.imp same.mpr fun ⟨x, broken⟩ => ⟨x, (same' x).mpr broken⟩

theorem transfer {β : Type} {r : Except Error α} {r' : Except Error β} (judged : Judged good bad r)
    (ok : ∀ a, r = .ok a → ∃ b, r' = .ok b) (error : ∀ e, r = .error e → r' = .error e) :
    Judged good bad r' where
  accepts fine := (judged.accepts fine).elim ok
  rejects x broken := by
    obtain ⟨e, failed, reports⟩ := judged.rejects x broken
    exact ⟨e, error e failed, reports⟩
  total := judged.total

theorem error {e : Error} (reports : x.Reports e) (never : ¬good) (only : ∀ y, bad y ↔ y = x) :
    Judged good bad (.error e : Except Error α) where
  accepts fine := (never fine).elim
  rejects y broken := by
    cases (only y).mp broken
    exact ⟨e, rfl, reports⟩
  total := .inr ⟨x, (only x).mpr rfl⟩

theorem nil (fine : good) (never : ∀ x, ¬bad x) : Judged good bad (.ok [] : Except Error (List Clause)) where
  accepts _ := ⟨[], rfl⟩
  rejects x broken := (never x broken).elim
  total := .inl fine

/-- What comes second is read only if the first is good. -/
theorem append (first : Judged good bad r) (second : Judged good' bad' r') :
    Judged (good ∧ good') (fun x => bad x ∨ good ∧ bad' x) (do let cs ← r; return cs ++ (← r')) where
  accepts := by
    rintro ⟨fine, fine'⟩
    obtain ⟨cs, rfl⟩ := first.accepts fine
    obtain ⟨ds, rfl⟩ := second.accepts fine'
    exact ⟨cs ++ ds, rfl⟩
  rejects x := by
    rintro (broken | ⟨fine, broken⟩)
    · obtain ⟨e, rfl, reports⟩ := first.rejects x broken
      exact ⟨e, rfl, reports⟩
    · obtain ⟨cs, rfl⟩ := first.accepts fine
      obtain ⟨e, rfl, reports⟩ := second.rejects x broken
      exact ⟨e, rfl, reports⟩
  total := by
    rcases first.total with fine | ⟨x, broken⟩
    · exact second.total.imp (And.intro fine) fun ⟨x, broken⟩ => ⟨x, .inr ⟨fine, broken⟩⟩
    · exact .inr ⟨x, .inl broken⟩

theorem wrapped {f : List Clause → Clause} (judged : Judged good bad r) : Judged good bad (wrapped f r) where
  accepts fine := by
    obtain ⟨cs, rfl⟩ := judged.accepts fine
    exact ⟨[f cs], rfl⟩
  rejects x broken := by
    obtain ⟨e, rfl, reports⟩ := judged.rejects x broken
    exact ⟨e, rfl, reports⟩
  total := judged.total

theorem ite {p : Prop} [Decidable p] (first : p → Judged good bad r) (second : ¬p → Judged good bad r') :
    Judged good bad (if p then r else r') := by
  split
  · exact first ‹_›
  · exact second ‹_›

end Judged

/-- The first of several that is bad, after good ones. -/
def First {α : Type} (good : α → Prop) (bad : α → Violation → Prop) (as : List α) (x : Violation) : Prop :=
  ∃ before a after, as = before ++ a :: after ∧ (∀ b ∈ before, good b) ∧ bad a x

theorem first_cons {good : α → Prop} {bad : α → Violation → Prop} {a : α} {as : List α} :
    First good bad (a :: as) x ↔ bad a x ∨ good a ∧ First good bad as x := by
  constructor
  · rintro ⟨before, b, after, same, fine, broken⟩
    cases before with
    | nil =>
      cases same
      exact .inl broken
    | cons c before =>
      cases same
      obtain ⟨first, rest⟩ := List.forall_mem_cons.mp fine
      exact .inr ⟨first, before, b, after, rfl, rest, broken⟩
  · rintro (broken | ⟨first, before, b, after, rfl, fine, broken⟩)
    · exact ⟨[], a, as, rfl, List.forall_mem_nil _, broken⟩
    · exact ⟨a :: before, b, after, rfl, List.forall_mem_cons.mpr ⟨first, fine⟩, broken⟩

/-- What is read one after another is good if each part is, and else reports the first bad one. -/
theorem Judged.sequence {good : α → Prop} {bad : α → Violation → Prop} {f : α → Except Error (List Clause)}
    {g : List α → Except Error (List Clause)} (nil : g [] = .ok [])
    (cons : ∀ a as, g (a :: as) = do let cs ← f a; return cs ++ (← g as)) {as : List α}
    (parts : ∀ a ∈ as, Judged (good a) (bad a) (f a)) : Judged (∀ a ∈ as, good a) (First good bad as) (g as) := by
  induction as with
  | nil =>
    rw [nil]
    refine .nil (List.forall_mem_nil _) ?_
    rintro x ⟨before, a, after, same, -⟩
    cases before <;> cases same
  | cons a as ih =>
    obtain ⟨here, there⟩ := List.forall_mem_cons.mp parts
    rw [cons]
    exact (here.append (ih there)).iff List.forall_mem_cons fun _ => first_cons

/-! Which rule and which violation apply. -/

theorem isExpression_dict : IsExpression field (.dict es) ↔ ∀ e ∈ es, IsEntry field e.1 e.2 :=
  ⟨fun | .mapping each => each, .mapping⟩

theorem breaks_dict : Breaks field (.dict es) x ↔
    First (fun e => IsEntry field e.1 e.2) (fun e => EntryBreaks field e.1 e.2) es x := by
  constructor
  · intro broken
    cases broken with
    | notMapping other => cases other
    | entry fine broken => exact ⟨_, _, _, rfl, fine, broken⟩
  · rintro ⟨before, e, after, rfl, fine, broken⟩
    exact .entry fine broken

theorem isMapping_of_isExpression (formed : IsExpression field v) : isMapping v = true := by
  cases formed
  rfl

theorem breaks_plain (plain : isMapping v = false) : Breaks field v x ↔ x = .malformed := by
  constructor
  · intro broken
    cases broken with
    | notMapping _ => rfl
    | entry _ _ => cases plain
  · rintro rfl
    exact .notMapping plain

theorem areExpressions_of_each (some_ : vs ≠ []) (each : ∀ v ∈ vs, IsExpression field v) :
    areExpressions vs = true := by
  rw [areExpressions, Bool.and_eq_true, Bool.not_eq_true', List.isEmpty_eq_false_iff]
  exact ⟨some_, List.all_eq_true.mpr fun v member => isMapping_of_isExpression (each v member)⟩

theorem comparison_of_role (key : role k = .comparison o) : o.isLogical = false := by
  unfold role at key
  split at key
  · split at key
    case h_5 o' not_ and or _ =>
      cases key
      cases o with
      | not => exact (not_ rfl).elim
      | and => exact (and rfl).elim
      | or => exact (or rfl).elim
      | _ => rfl
    all_goals cases key
  · cases key

theorem some_of_areExpressions (mappings : areExpressions vs = true) : vs ≠ [] := by
  rintro rfl
  cases mappings

/-- What a field takes: a filter under it or, if it has a name, a value. -/
def Takes (k v : Value) : Prop :=
  isMapping v = true ∧ IsExpression k v ∨ isMapping v = false ∧ Query.isName k = true

def TakingBreaks (k v : Value) (x : Violation) : Prop :=
  isMapping v = true ∧ Breaks k v x ∨ isMapping v = false ∧ Unnamed k x

theorem entry_comparison (key : role k = .comparison o) : IsEntry field k v ↔ Query.isName field = true :=
  ⟨fun formed => by cases formed <;> simp_all, .comparison key⟩

theorem entryBreaks_comparison (key : role k = .comparison o) : EntryBreaks field k v x ↔ Unnamed field x :=
  ⟨fun broken => by cases broken <;> simp_all, .comparison key⟩

theorem entry_negation (key : role k = .negation) : IsEntry field k v ↔ IsExpression field v :=
  ⟨fun formed => by cases formed <;> simp_all, .negation key⟩

theorem entryBreaks_negation (key : role k = .negation) : EntryBreaks field k v x ↔ Breaks field v x :=
  ⟨fun broken => by cases broken <;> simp_all, .negation key⟩

theorem entry_joint (key : role k = .all ∨ role k = .any) : IsEntry field k v ↔ IsOperand field v :=
  ⟨fun formed => by cases formed <;> simp_all, .joint key⟩

theorem entryBreaks_joint (key : role k = .all ∨ role k = .any) :
    EntryBreaks field k v x ↔ OperandBreaks field v x :=
  ⟨fun broken => by cases broken <;> simp_all, .joint key⟩

theorem entry_field (key : role k = .field) (top : field.isNone = true) : IsEntry field k v ↔ Takes k v := by
  constructor
  · intro formed
    cases formed with
    | under _ _ operand => exact .inl ⟨rfl, operand⟩
    | value _ _ plain named => exact .inr ⟨plain, named⟩
    | joint key' _ => simp [key] at key'
    | comparison key' _ | negation key' _ => cases key.symm.trans key'
  · rintro (⟨mapping, operand⟩ | ⟨plain, named⟩)
    · cases operand with
      | mapping each => exact .under key top (.mapping each)
    · exact .value key top plain named

theorem entryBreaks_field (key : role k = .field) (top : field.isNone = true) :
    EntryBreaks field k v x ↔ TakingBreaks k v x := by
  constructor
  · intro broken
    cases broken with
    | under _ _ broken => exact .inl ⟨rfl, broken⟩
    | value _ _ plain broken => exact .inr ⟨plain, broken⟩
    | second _ open_ => cases top.symm.trans open_
    | joint key' _ => simp [key] at key'
    | unknown key' | comparison key' _ | negation key' _ => cases key.symm.trans key'
  · rintro (⟨mapping, broken⟩ | ⟨plain, broken⟩)
    · cases v with
      | dict es => exact .under key top broken
      | _ => cases mapping
    · exact .value key top plain broken

/-! Errors by violation. -/

theorem reports_notMapping : Violation.Reports .malformed (notMapping field v) :=
  ⟨rfl, List.mem_cons_self ..⟩

theorem reports_notExpressions : Violation.Reports .malformed (notExpressions field o) :=
  ⟨rfl, List.mem_cons_self ..⟩

namespace Judged

theorem leafOf (comparison : o.isLogical = false) :
    Judged (Query.isName field = true) (Unnamed field) (leafOf plainLeaf field o v) := by
  have known : Query.comparisonOperator (.operator o) = .ok o := by
    cases o with
    | and | or | not => cases comparison
    | _ => rfl
  unfold Filter.leafOf plainLeaf
  rw [known]
  by_cases none : field.isNone = true
  · rw [if_pos none]
    refine .error (x := .fieldRequired) ⟨rfl, by simp [Error.lineage]⟩ (fun named => ?_) fun y => ⟨?_, ?_⟩
    · cases field with
      | none => cases named
      | _ => cases none
    · rintro (_ | ⟨some_, _⟩)
      · rfl
      · cases none.symm.trans some_
    · rintro rfl
      exact .missing none
  · rw [if_neg none]
    by_cases named : Query.isName field = true
    · rw [if_pos named]
      refine ⟨fun _ => ⟨_, rfl⟩, fun x broken => ?_, .inl named⟩
      cases broken with
      | missing none' => exact (none none').elim
      | empty _ unnamed => cases named.symm.trans unnamed
    · rw [if_neg named]
      refine .error (x := .malformed) ⟨rfl, List.mem_cons_self ..⟩ named fun y => ⟨?_, ?_⟩
      · rintro (none' | _)
        · exact (none none').elim
        · rfl
      · rintro rfl
        exact .empty (Bool.not_eq_true _ ▸ none) (Bool.not_eq_true _ ▸ named)

theorem select {negation all any under : Except Error (List Clause)}
    (not : Judged (IsExpression field v) (Breaks field v) negation)
    (and : Judged (IsOperand field v) (OperandBreaks field v) all)
    (or : Judged (IsOperand field v) (OperandBreaks field v) any)
    (open_ : Judged (Takes k v) (TakingBreaks k v) under) :
    Judged (IsEntry field k v) (EntryBreaks field k v) (select plainLeaf field k v negation all any under) := by
  unfold Filter.select
  cases found : role k with
  | unknown =>
    refine .error (x := .unknownOperator) ⟨rfl, by simp [Error.lineage]⟩ (fun formed => ?_) fun y =>
      ⟨fun broken => ?_, ?_⟩
    · cases formed <;> simp_all
    · cases broken <;> simp_all
    · rintro rfl
      exact .unknown found
  | comparison o =>
    exact (leafOf (comparison_of_role found)).iff (entry_comparison found) fun _ => entryBreaks_comparison found
  | negation => exact not.iff (entry_negation found) fun _ => entryBreaks_negation found
  | all => exact and.iff (entry_joint (.inl found)) fun _ => entryBreaks_joint (.inl found)
  | any => exact or.iff (entry_joint (.inr found)) fun _ => entryBreaks_joint (.inr found)
  | field =>
    by_cases top : field.isNone = true
    · rw [if_pos top]
      exact open_.iff (entry_field found top) fun _ => entryBreaks_field found top
    · rw [if_neg top]
      refine .error (x := .multipleFields) ⟨rfl, by simp [Error.lineage]⟩ (fun formed => ?_) fun y =>
        ⟨fun broken => ?_, ?_⟩
      · cases formed <;> simp_all
      · cases broken <;> simp_all
      · rintro rfl
        exact .second found (Bool.not_eq_true _ ▸ top)

theorem entries (parts : ∀ e ∈ es, ∀ field k,
      Judged (IsEntry field k e.2) (EntryBreaks field k e.2) (entryClauses plainLeaf field k e.2)) :
    Judged (IsExpression field (.dict es)) (Breaks field (.dict es)) (entriesClauses plainLeaf field es) :=
  have read := sequence (g := entriesClauses plainLeaf field) rfl (fun _ _ => rfl)
    fun e member => parts e member field e.1
  read.iff isExpression_dict fun _ => breaks_dict

/-- What is no list of mappings, and no mapping with entries under a field, cannot be combined. -/
theorem unfit (items : ∀ vs, members? v = some vs → areExpressions vs = false)
    (entries : ∀ es, v = .dict es → field.isNone = true ∨ es = []) :
    Judged (IsOperand field v) (OperandBreaks field v)
      (.error (notExpressions field o) : Except Error (List Clause)) := by
  refine .error reports_notExpressions (fun formed => ?_) fun y => ⟨fun broken => ?_, ?_⟩
  · cases formed with
    | items members some_ each =>
      cases (items _ members).symm.trans (areExpressions_of_each some_ each)
    | oneByOne open_ some_ each =>
      rcases entries _ rfl with top | empty
      · cases top.symm.trans open_
      · exact some_ empty
  · cases broken with
    | shape _ _ => rfl
    | item members mappings _ _ => cases (items _ members).symm.trans mappings
    | oneByOne open_ broken =>
      rcases entries _ rfl with top | rfl
      · cases top.symm.trans open_
      · rcases breaks_dict.mp broken with ⟨before, e, after, same, -⟩
        cases before <;> cases same
  · rintro rfl
    exact .shape items entries

theorem oneByOne {f : List Clause → Clause}
    (judged : Judged (IsExpression field (.dict es)) (Breaks field (.dict es))
      (entriesClauses plainLeaf field es)) :
    Judged (IsOperand field (.dict es)) (OperandBreaks field (.dict es))
      (if (!field.isNone && !es.isEmpty) = true then Filter.wrapped f (entriesClauses plainLeaf field es)
        else .error (notExpressions field o)) := by
  refine ite (fun fit => ?_) fun other => unfit (fun _ none => nomatch none) ?_
  · rw [Bool.and_eq_true, Bool.not_eq_true', Bool.not_eq_true', List.isEmpty_eq_false_iff] at fit
    refine judged.wrapped.iff ⟨fun formed => ?_, fun formed => ?_⟩ fun x => ⟨fun broken => ?_, .oneByOne fit.1⟩
    · cases formed with
      | items members _ _ => cases members
      | oneByOne _ _ each => exact .mapping each
    · exact .oneByOne fit.1 fit.2 (isExpression_dict.mp formed)
    · cases broken with
      | shape _ entries => simp_all
      | item members _ _ _ => cases members
      | oneByOne _ broken => exact broken
  · rintro _ ⟨⟩
    simpa [imp_iff_or_not, or_comm] using other

theorem items {f : List Clause → Clause} {r : Except Error (List Clause)} (members : members? w = some vs)
    (judged : Judged (∀ v ∈ vs, IsExpression field v) (First (IsExpression field) (Breaks field) vs) r) :
    Judged (IsOperand field w) (OperandBreaks field w)
      (if areExpressions vs = true then Filter.wrapped f r else .error (notExpressions field o)) := by
  refine ite (fun fit => ?_) fun other => unfit ?_ ?_
  · refine judged.wrapped.iff ⟨fun formed => ?_, fun formed => ?_⟩ fun x => ⟨fun broken => ?_, ?_⟩
    · cases formed with
      | items members' _ each =>
        cases members.symm.trans members'
        exact each
      | oneByOne _ _ _ => cases members
    · exact .items members (some_of_areExpressions fit) formed
    · cases broken with
      | shape items _ => cases fit.symm.trans (items vs members)
      | item members' _ fine broken =>
        cases members.symm.trans members'
        exact ⟨_, _, _, rfl, fine, broken⟩
      | oneByOne _ _ => cases members
    · rintro ⟨before, v, after, rfl, fine, broken⟩
      exact .item members fit fine broken
  · intro vs' members'
    cases members.symm.trans members'
    exact Bool.not_eq_true _ ▸ other
  · rintro es rfl
    cases members

theorem taking_dict {r : Except Error (List Clause)}
    (judged : Judged (IsExpression k (.dict es)) (Breaks k (.dict es)) r) :
    Judged (Takes k (.dict es)) (TakingBreaks k (.dict es)) r :=
  judged.iff (by simp [Takes, isMapping]) fun x => by simp [TakingBreaks, isMapping]

theorem taking_plain (plain : isMapping v = false) :
    Judged (Takes k v) (TakingBreaks k v) (Filter.leafOf plainLeaf k .eq v) :=
  (leafOf rfl).iff (by simp [Takes, plain]) fun x => by simp [TakingBreaks, plain]

theorem notMapping (plain : isMapping v = false) :
    Judged (IsExpression field v) (Breaks field v)
      (.error (Filter.notMapping field v) : Except Error (List Clause)) := by
  refine .error reports_notMapping (fun formed => ?_) fun y => breaks_plain plain
  cases plain.symm.trans (isMapping_of_isExpression formed)

/-- How the clauses of a value are judged in all places where it can stand. -/
structure Everywhere (v : Value) : Prop where
  whole : ∀ field, Judged (IsExpression field v) (Breaks field v) (clauses plainLeaf field v)
  joint : ∀ field, Judged (IsExpression field v) (Breaks field v) (jointClauses plainLeaf field v)
  entry : ∀ field k, Judged (IsEntry field k v) (EntryBreaks field k v) (entryClauses plainLeaf field k v)

theorem everywhere : ∀ v, Everywhere v := by
  intro v
  -- a value may stand as a filter, in a list and under a key, so the three are proved together
  induction v using induction with
  | dict es ih =>
    have parts : ∀ field,
        Judged (IsExpression field (.dict es)) (Breaks field (.dict es)) (entriesClauses plainLeaf field es) :=
      fun field => entries fun e member => (ih e member).entry
    have one : ∀ field, Judged (IsExpression field (.dict es)) (Breaks field (.dict es))
        (if 1 < es.length then Filter.wrapped .and (entriesClauses plainLeaf field es)
          else entriesClauses plainLeaf field es) :=
      fun field => ite (fun _ => (parts field).wrapped) fun _ => parts field
    exact ⟨parts, one, fun field k => select (parts field).wrapped (oneByOne (parts field))
      (oneByOne (parts field)) (taking_dict (one k))⟩
  | sequence w vs members ih =>
    have plain : isMapping w = false := by cases w <;> cases members <;> rfl
    refine ⟨fun field => ?_, fun field => ?_, fun field k => ?_⟩
    · cases w <;> cases members <;> exact notMapping rfl
    · cases w <;> cases members <;> exact notMapping rfl
    · rw [entryClauses_sequence members]
      refine select (notMapping plain) (items members ?_) (items members ?_) (taking_plain plain)
      · exact sequence (g := clausesAll plainLeaf field) rfl (fun _ _ => rfl)
          fun v member => (ih v member).whole field
      · exact sequence (g := jointClausesAll plainLeaf field) rfl (fun _ _ => rfl)
          fun v member => (ih v member).joint field
  | flat v flat =>
    have plain : isMapping v = false := by cases v <;> first | rfl | cases flat
    have lone : ∀ {field : Value} {o : Operator}, Judged (IsOperand field v) (OperandBreaks field v)
        (.error (notExpressions field o) : Except Error (List Clause)) := by
      refine fun {field o} => unfit (fun vs members => ?_) ?_
      · cases v with
        | list _ | tuple _ => cases flat
        | _ => cases members
      · rintro es rfl
        cases plain
    refine ⟨fun field => ?_, fun field => ?_, fun field k => ?_⟩
    · cases v <;> first | exact notMapping rfl | cases flat
    · cases v <;> first | exact notMapping rfl | cases flat
    · rw [entryClauses_flat flat]
      exact select (notMapping plain) lone lone (taking_plain plain)

end Judged

/-- A filter that has clauses is read, and every branch that is opened for it is closed again. -/
theorem expression_stack {t : Translator} {leaf : Leaf} {q : Query} {cs : List Clause}
    (faithful : Faithful t leaf) (root : 0 < q.branches.length) (found : clauses leaf .none v = .ok cs) :
    ∃ p, expression t .none v q.restart = .ok p ∧ p.stack = [0] := by
  have regular := Regular.of_every ((regular_everywhere leaf v).whole .none) cs found
  obtain ⟨p, entered, gained⟩ := Query.issueAll_gains (q := q.restart) cs rfl root regular
  have parsed := (Enters.everywhere faithful v).whole .none q.restart ⟨0, [], rfl, root⟩
  rw [found] at parsed
  refine ⟨p, parsed.trans entered, ?_⟩
  rw [gained.frame]
  rfl

theorem read_of_clauses {t : Translator} {leaf : Leaf} {q : Query} {filter opts : Value} {o : FindOptions}
    {cs : List Clause} (faithful : Faithful t leaf) (root : 0 < q.branches.length) (valid : options opts = .ok o)
    (found : clauses leaf .none filter = .ok cs) : ∃ r, read (.ok q) filter opts (some t) = .ok r := by
  obtain ⟨p, parsed, -⟩ := expression_stack faithful root found
  cases filter with
  | dict es =>
    refine ⟨applyOptions p o, ?_⟩
    simp only [read, isMapping, valid, parsed, Bind.bind, Except.bind, Bool.not_true, Bool.false_eq_true,
      if_false]
    rfl
  | _ => cases found

theorem read_error {t : Translator} {leaf : Leaf} {q : Query} {filter opts : Value} {o : FindOptions} {e : Error}
    (faithful : Faithful t leaf) (root : 0 < q.branches.length) (valid : options opts = .ok o)
    (mapping : isMapping filter = true) (failed : clauses leaf .none filter = .error e) :
    read (.ok q) filter opts (some t) = .error e := by
  have parsed := expression_error (q := q.restart) faithful ⟨0, [], rfl, root⟩ failed
  simp only [read, mapping, valid, parsed, Bind.bind, Except.bind, Bool.not_true, Bool.false_eq_true, if_false]

/-- Reading a filter is judged by the grammar. -/
theorem judged_read {q : Query} {filter opts : Value} {o : FindOptions} (root : 0 < q.branches.length)
    (valid : options opts = .ok o) :
    Judged (IsExpression .none filter) (Breaks .none filter) (read (.ok q) filter opts (some unchanged)) := by
  cases mapping : isMapping filter with
  | false =>
    have failed : read (.ok q) filter opts (some unchanged) =
        .error (.invalid "user_query" ("Expected a mapping, got " ++ filter.typeName)) := by
      simp only [read, mapping, Bool.not_false, if_true]
      rfl
    rw [failed]
    refine .error (x := .malformed) ⟨rfl, List.mem_cons_self ..⟩ (fun formed => ?_) fun _ => breaks_plain mapping
    cases mapping.symm.trans (isMapping_of_isExpression formed)
  | true =>
    refine ((Judged.everywhere filter).whole .none).transfer (fun cs found => ?_) fun e failed => ?_
    · exact read_of_clauses unchanged_faithful root valid found
    · exact read_error unchanged_faithful root valid mapping failed

theorem stack_of_read {q r : Query} {filter opts : Value} (root : 0 < q.branches.length)
    (accepted : read (.ok q) filter opts (some unchanged) = .ok r) : r.stack = [0] := by
  obtain ⟨o, p, -, parsed, rfl⟩ := read_cases accepted
  cases found : clauses plainLeaf .none filter with
  | error e =>
    have failed := expression_error (q := q.restart) unchanged_faithful ⟨0, [], rfl, root⟩ found
    cases failed.symm.trans parsed
  | ok cs =>
    obtain ⟨p', parsed', closed⟩ := expression_stack unchanged_faithful root found
    cases parsed'.symm.trans parsed
    exact closed

end ModelStore.Filter
