import ModelStore.Proofs.Evaluator
import ModelStore.Proofs.Filter.Grammar

/-!
The comparisons that a filter asks for. Reading a filter fails only for a violation of the grammar or for an
error of one of its comparisons, and it succeeds only if each of them can be made; the clauses are then made of
these comparisons.
-/

namespace ModelStore.Filter

/-- A mapping that is read under a field, on the way through a filter that stands under a field. -/
inductive Reads : Value → Value → Value → List (Value × Value) → Prop where
  | here {field : Value} {es : List (Value × Value)} : Reads field (.dict es) field es
  | item {field v w f : Value} {vs : List Value} {fs : List (Value × Value)} (members : members? w = some vs)
      (inside : v ∈ vs) (below : Reads field v f fs) : Reads field w f fs
  | joint {field k v f : Value} {es fs : List (Value × Value)} (inside : (k, v) ∈ es)
      (key : role k = .negation ∨ role k = .all ∨ role k = .any) (below : Reads field v f fs) :
      Reads field (.dict es) f fs
  | under {field k v f : Value} {es fs : List (Value × Value)} (inside : (k, v) ∈ es) (key : role k = .field)
      (mapping : isMapping v = true) (below : Reads k v f fs) : Reads field (.dict es) f fs

/-- Whether an entry of a mapping that is read under a field compares a field with a value. -/
def Asks (field : Value) (e : Value × Value) (f : Value) (o : Operator) : Prop :=
  role e.1 = .comparison o ∧ f = field ∨ role e.1 = .field ∧ isMapping e.2 = false ∧ f = e.1 ∧ o = .eq

/-- The comparisons that a filter asks for. -/
def Compares (field v f : Value) (o : Operator) (w : Value) : Prop :=
  ∃ g fs k, Reads field v g fs ∧ (k, w) ∈ fs ∧ Asks g (k, w) f o

/-- All keys of a filter are texts; values may hold any mappings. -/
def TextKeys (filter : Value) : Prop :=
  ∀ field es, Reads .none filter field es → ∀ e ∈ es, e.1.text?.isSome = true

variable {leaf : Leaf} {field k v w f : Value} {o : Operator} {vs : List Value} {es fs : List (Value × Value)}

/-- What is read stands under the field of the filter or under one of its keys. -/
theorem Reads.field_eq (reads : Reads field v f fs)
    (texts : ∀ g gs, Reads field v g gs → ∀ e ∈ gs, e.1.text?.isSome = true) : f = field ∨ f.text?.isSome = true := by
  induction reads with
  | here => exact .inl rfl
  | item members inside below ih => exact ih fun g gs reads => texts g gs (.item members inside reads)
  | joint inside key below ih => exact ih fun g gs reads => texts g gs (.joint inside key reads)
  | under inside key mapping below ih =>
    have named := texts _ _ .here _ inside
    rcases ih fun g gs reads => texts g gs (.under inside key mapping reads) with rfl | named'
    · exact .inr named
    · exact .inr named'

theorem TextKeys.field_text (texts : TextKeys v) (compares : Compares .none v f o w) :
    f = .none ∨ f.text?.isSome = true := by
  obtain ⟨g, fs, k, reads, inside, asks⟩ := compares
  rcases asks with ⟨-, rfl⟩ | ⟨-, -, rfl, -⟩
  · exact reads.field_eq texts
  · exact .inr (texts g fs reads _ inside)

/-! The comparisons of a mapping are those of its entries. -/

theorem compares_dict :
    Compares field (.dict es) f o w ↔ ∃ e ∈ es, Compares field (.dict [e]) f o w := by
  constructor
  · rintro ⟨g, fs, k, reads, inside, asks⟩
    cases reads with
    | here => exact ⟨_, inside, _, _, k, .here, List.mem_singleton_self _, asks⟩
    | item members _ _ => cases members
    | joint above key below =>
      exact ⟨_, above, g, fs, k, .joint (List.mem_singleton_self _) key below, inside, asks⟩
    | under above key mapping below =>
      exact ⟨_, above, g, fs, k, .under (List.mem_singleton_self _) key mapping below, inside, asks⟩
  · rintro ⟨e, member, g, fs, k, reads, inside, asks⟩
    cases reads with
    | here =>
      cases List.mem_singleton.mp inside
      exact ⟨_, es, k, .here, member, asks⟩
    | item members _ _ => cases members
    | joint above key below =>
      cases List.mem_singleton.mp above
      exact ⟨g, fs, k, .joint member key below, inside, asks⟩
    | under above key mapping below =>
      cases List.mem_singleton.mp above
      exact ⟨g, fs, k, .under member key mapping below, inside, asks⟩

theorem compares_sequence (members : members? w = some vs) {u : Value} :
    Compares field w f o u ↔ ∃ v ∈ vs, Compares field v f o u := by
  constructor
  · rintro ⟨g, fs, k, reads, inside, asks⟩
    cases reads with
    | item members' member below =>
      cases members.symm.trans members'
      exact ⟨_, member, g, fs, k, below, inside, asks⟩
    | here | joint _ _ _ | under _ _ _ _ => cases members
  · rintro ⟨v, member, g, fs, k, reads, inside, asks⟩
    exact ⟨g, fs, k, .item members member reads, inside, asks⟩

theorem Reads.not_flat (reads : Reads field v f fs) : isFlat v = false := by
  cases reads with
  | item members _ _ => cases v <;> first | rfl | cases members
  | here | joint _ _ _ | under _ _ _ _ => rfl

/-- Mappings of texts to plain values. -/
theorem TextKeys.of_flat (flat : ∀ e ∈ es, e.1.text?.isSome = true ∧ isFlat e.2 = true) : TextKeys (.dict es) := by
  intro g fs reads e member
  cases reads with
  | here => exact (flat e member).1
  | item members _ _ => cases members
  | joint inside _ below => cases below.not_flat.symm.trans (flat _ inside).2
  | under inside _ _ below => cases below.not_flat.symm.trans (flat _ inside).2

/-- The comparisons of an entry by the role of its key. -/
theorem compares_entry : Compares field (.dict [(k, v)]) f o w ↔
    match role k with
    | .unknown => False
    | .comparison p => f = field ∧ o = p ∧ w = v
    | .negation | .all | .any => Compares field v f o w
    | .field => isMapping v = true ∧ Compares k v f o w ∨ isMapping v = false ∧ f = k ∧ o = .eq ∧ w = v := by
  constructor
  · rintro ⟨g, fs, k', reads, inside, asks⟩
    cases reads with
    | here =>
      cases List.mem_singleton.mp inside
      rcases asks with ⟨key, rfl⟩ | ⟨key, plain, rfl, rfl⟩ <;> simp only [key]
      · exact ⟨trivial, trivial, trivial⟩
      · exact .inr ⟨plain, trivial, trivial, trivial⟩
    | item members _ _ => cases members
    | joint above key below =>
      cases List.mem_singleton.mp above
      rcases key with key | key | key <;> simp only [key] <;> exact ⟨g, fs, k', below, inside, asks⟩
    | under above key mapping below =>
      cases List.mem_singleton.mp above
      simp only [key]
      exact .inl ⟨mapping, g, fs, k', below, inside, asks⟩
  · have one : (k, v) ∈ [(k, v)] := List.mem_singleton_self _
    have joint (key : role k = .negation ∨ role k = .all ∨ role k = .any) :
        Compares field v f o w → Compares field (.dict [(k, v)]) f o w :=
      fun ⟨g, fs, k', reads, inside, asks⟩ => ⟨g, fs, k', .joint one key reads, inside, asks⟩
    cases key : role k with
    | unknown => exact False.elim
    | comparison p =>
      rintro ⟨rfl, rfl, rfl⟩
      exact ⟨_, _, k, .here, one, .inl ⟨key, rfl⟩⟩
    | negation => exact joint (.inl key)
    | all => exact joint (.inr (.inl key))
    | any => exact joint (.inr (.inr key))
    | field =>
      rintro (⟨mapping, g, fs, k', reads, inside, asks⟩ | ⟨plain, rfl, rfl, rfl⟩)
      · exact ⟨g, fs, k', .under one key mapping reads, inside, asks⟩
      · exact ⟨_, _, _, .here, one, .inr ⟨key, plain, rfl, rfl⟩⟩

/-! What reading comes to. -/

/-- Whether a comparison is made of one that is asked for. -/
def Made (leaf : Leaf) (asked : Value → Operator → Value → Prop) (c : Comparison) : Prop :=
  ∃ f o v, asked f o v ∧ leaf f o v = .ok c

/-- An outcome that fails only for a violation or an error of one of the comparisons that are asked for, and that
    is there only if each of them can be made, with clauses that are made of them. -/
structure Tried (leaf : Leaf) (asked : Value → Operator → Value → Prop) (r : Except Error (List Clause)) : Prop where
  failed : ∀ e, r = .error e →
    (∃ x, Violation.Reports x e) ∨ ∃ f o v, asked f o v ∧ f.isNone = false ∧ leaf f o v = .error e
  made : ∀ cs, r = .ok cs → ∀ f o v, asked f o v → ∃ c, leaf f o v = .ok c
  origin : ∀ cs, r = .ok cs → ∀ d ∈ cs, d.Of (Made leaf asked)

namespace Tried

variable {asked asked' : Value → Operator → Value → Prop} {r r' : Except Error (List Clause)}

theorem iff (tried : Tried leaf asked r) (same : ∀ f o v, asked' f o v ↔ asked f o v) : Tried leaf asked' r := by
  have eq : asked' = asked := funext fun f => funext fun o => funext fun v => propext (same f o v)
  exact eq ▸ tried

theorem error {x : Violation} {e : Error} (reports : x.Reports e) : Tried leaf asked (.error e) where
  failed := by
    rintro _ ⟨⟩
    exact .inl ⟨x, reports⟩
  made := nofun
  origin := nofun

theorem leafOf : Tried leaf (fun f' o' v' => f' = field ∧ o' = o ∧ v' = v) (leafOf leaf field o v) := by
  unfold Filter.leafOf
  split
  · exact error (x := .fieldRequired) ⟨rfl, by simp [Error.lineage]⟩
  · rename_i named
    constructor
    · intro e failed
      cases made : leaf field o v with
      | ok c =>
        rw [made] at failed
        cases failed
      | error e' =>
        rw [made] at failed
        cases failed
        exact .inr ⟨field, o, v, ⟨rfl, rfl, rfl⟩, Bool.not_eq_true _ ▸ named, made⟩
    · rintro cs found _ _ _ ⟨rfl, rfl, rfl⟩
      obtain ⟨c, made, -⟩ := Outcome.of_bind found
      exact ⟨c, made⟩
    · intro cs found
      obtain ⟨c, made, same⟩ := Outcome.of_bind found
      cases same
      exact List.forall_mem_singleton.mpr (.comparison ⟨field, o, v, ⟨rfl, rfl, rfl⟩, made⟩)

theorem wrapped {g : List Clause → Clause} (tried : Tried leaf asked r)
    (handed : ∀ {P : Comparison → Prop} {ds : List Clause}, (∀ d ∈ ds, d.Of P) → (g ds).Of P) :
    Tried leaf asked (wrapped g r) where
  failed e failed := by
    cases r with
    | ok cs => cases failed
    | error e' =>
      cases failed
      exact tried.failed _ rfl
  made cs found := by
    obtain ⟨ds, made, -⟩ := Outcome.of_bind found
    exact tried.made ds made
  origin cs found := by
    obtain ⟨ds, made, same⟩ := Outcome.of_bind found
    cases same
    exact List.forall_mem_singleton.mpr (handed (tried.origin ds made))

theorem append (first : Tried leaf asked r) (second : Tried leaf asked' r') :
    Tried leaf (fun f o v => asked f o v ∨ asked' f o v) (do let as ← r; return as ++ (← r')) where
  failed e failed := by
    cases r with
    | error e' =>
      cases failed
      refine (first.failed _ rfl).imp_right ?_
      exact fun ⟨f, o, v, ask, made⟩ => ⟨f, o, v, .inl ask, made⟩
    | ok cs =>
      cases r' with
      | ok ds => cases failed
      | error e' =>
        cases failed
        refine (second.failed _ rfl).imp_right ?_
        exact fun ⟨f, o, v, ask, made⟩ => ⟨f, o, v, .inr ask, made⟩
  made cs found := by
    obtain ⟨as, made, rest⟩ := Outcome.of_bind found
    obtain ⟨bs, made', -⟩ := Outcome.of_bind rest
    rintro f o v (ask | ask)
    · exact first.made as made f o v ask
    · exact second.made bs made' f o v ask
  origin cs found := by
    obtain ⟨as, made, rest⟩ := Outcome.of_bind found
    obtain ⟨bs, made', same⟩ := Outcome.of_bind rest
    cases same
    refine List.forall_mem_append.mpr ⟨fun d inside => ?_, fun d inside => ?_⟩
    · exact (first.origin as made d inside).imp fun _ ⟨f, o, v, ask, done⟩ => ⟨f, o, v, .inl ask, done⟩
    · exact (second.origin bs made' d inside).imp fun _ ⟨f, o, v, ask, done⟩ => ⟨f, o, v, .inr ask, done⟩

theorem ite {p : Prop} [Decidable p] (first : Tried leaf asked r) (second : Tried leaf asked r') :
    Tried leaf asked (if p then r else r') := by
  split
  · exact first
  · exact second

/-- An entry asks for what its key makes of the operand. -/
theorem select {negation all any under : Except Error (List Clause)} (not : Tried leaf (Compares field v) negation)
    (and : Tried leaf (Compares field v) all) (or : Tried leaf (Compares field v) any)
    (open_ : Tried leaf (fun f o w => isMapping v = true ∧ Compares k v f o w ∨
      isMapping v = false ∧ f = k ∧ o = .eq ∧ w = v) under) :
    Tried leaf (Compares field (.dict [(k, v)])) (select leaf field k v negation all any under) := by
  have by_role := fun f o w => @compares_entry field k v w f o
  unfold Filter.select
  cases key : role k with
  | unknown => exact error (x := .unknownOperator) ⟨rfl, by simp [Error.lineage]⟩
  | comparison o =>
    simp only [key] at by_role
    exact leafOf.iff by_role
  | negation =>
    simp only [key] at by_role
    exact not.iff by_role
  | all =>
    simp only [key] at by_role
    exact and.iff by_role
  | any =>
    simp only [key] at by_role
    exact or.iff by_role
  | field =>
    simp only [key] at by_role
    exact ite (open_.iff by_role) (error (x := .multipleFields) ⟨rfl, by simp [Error.lineage]⟩)

/-- What is read one after another asks for what its parts ask for. -/
theorem sequence {α : Type} {asks : α → Value → Operator → Value → Prop} {f : α → Except Error (List Clause)}
    {g : List α → Except Error (List Clause)} (nil : g [] = .ok [])
    (cons : ∀ a as, g (a :: as) = do let cs ← f a; return cs ++ (← g as)) {as : List α}
    (parts : ∀ a ∈ as, Tried leaf (asks a) (f a)) : Tried leaf (fun h o v => ∃ a ∈ as, asks a h o v) (g as) := by
  induction as with
  | nil =>
    rw [nil]
    refine ⟨nofun, ?_, ?_⟩
    · rintro _ - f o v ⟨a, none, -⟩
      cases none
    · rintro _ ⟨⟩
      exact List.forall_mem_nil _
  | cons a as ih =>
    obtain ⟨here, there⟩ := List.forall_mem_cons.mp parts
    rw [cons]
    exact (here.append (ih there)).iff fun f o v => by simp only [List.exists_mem_cons_iff]

/-- How the clauses of a value are tried in all places where it can stand. -/
structure Everywhere (leaf : Leaf) (v : Value) : Prop where
  whole : ∀ field, Tried leaf (Compares field v) (clauses leaf field v)
  joint : ∀ field, Tried leaf (Compares field v) (jointClauses leaf field v)
  entry : ∀ field k, Tried leaf (Compares field (.dict [(k, v)])) (entryClauses leaf field k v)

theorem everywhere (leaf : Leaf) : ∀ v, Everywhere leaf v := by
  intro v
  induction v using induction with
  | dict es ih =>
    have parts : ∀ field, Tried leaf (Compares field (.dict es)) (entriesClauses leaf field es) := fun field =>
      (sequence (g := entriesClauses leaf field) rfl (fun _ _ => rfl)
        fun e member => (ih e member).entry field e.1).iff fun f o w => compares_dict
    have one : ∀ field, Tried leaf (Compares field (.dict es))
        (if 1 < es.length then Filter.wrapped .and (entriesClauses leaf field es)
          else entriesClauses leaf field es) :=
      fun field => ite ((parts field).wrapped .and) (parts field)
    refine ⟨parts, one, fun field k => select ((parts field).wrapped fun each => .not (.and each))
      (ite ((parts field).wrapped .and) ?_) (ite ((parts field).wrapped .or) ?_) ((one k).iff fun f o w => ?_)⟩
    · exact error reports_notExpressions
    · exact error reports_notExpressions
    · simp [isMapping]
  | sequence w vs members ih =>
    have plain : isMapping w = false := by cases w <;> cases members <;> rfl
    have unread : ∀ field, Tried leaf (Compares field w) (clauses leaf field w) ∧
        Tried leaf (Compares field w) (jointClauses leaf field w) :=
      fun field => by cases w <;> cases members <;> exact ⟨error reports_notMapping, error reports_notMapping⟩
    refine ⟨fun field => (unread field).1, fun field => (unread field).2, fun field k => ?_⟩
    rw [entryClauses_sequence members]
    refine select (error reports_notMapping) (ite ?_ (error reports_notExpressions))
      (ite ?_ (error reports_notExpressions)) (leafOf.iff fun f o w => by simp [plain])
    · exact ((sequence (g := clausesAll leaf field) rfl (fun _ _ => rfl)
        fun v member => (ih v member).whole field).iff fun f o w => compares_sequence members).wrapped .and
    · exact ((sequence (g := jointClausesAll leaf field) rfl (fun _ _ => rfl)
        fun v member => (ih v member).joint field).iff fun f o w => compares_sequence members).wrapped .or
  | flat v flat =>
    have plain : isMapping v = false := by cases v <;> first | rfl | cases flat
    have unread : ∀ field, Tried leaf (Compares field v) (clauses leaf field v) ∧
        Tried leaf (Compares field v) (jointClauses leaf field v) :=
      fun field => by
        cases v <;> first | exact ⟨error reports_notMapping, error reports_notMapping⟩ | cases flat
    refine ⟨fun field => (unread field).1, fun field => (unread field).2, fun field k => ?_⟩
    rw [entryClauses_flat flat]
    exact select (error reports_notMapping) (error reports_notExpressions) (error reports_notExpressions)
      (leafOf.iff fun f o w => by simp [plain])

end Tried

end ModelStore.Filter
