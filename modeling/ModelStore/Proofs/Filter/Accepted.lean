import ModelStore.Proofs.Filter.Meaning

/-!
Filters that are accepted. A filter that is formed by the rules, and of which every comparison can be
made, has clauses; they evaluate to what the filter means as soon as these comparisons do.
-/

namespace ModelStore.Filter

/-- A comparison needs a field. -/
def within (allowed : Truth) : Truth := fun field o v => !field.isNone && allowed field o v

mutual

/-- Whether a filter is formed by the rules, of comparisons that are allowed. -/
def suits (allowed : Truth) (field : Value) : Value → Bool
  | .dict es => suitsAll allowed field es
  | _ => false
  termination_by structural v => v

def suitsAll (allowed : Truth) (field : Value) : List (Value × Value) → Bool
  | [] => true
  | (k, v) :: es => entrySuits allowed field k v && suitsAll allowed field es
  termination_by structural v => v

/-- An operand that is a mapping is taken entry by entry under a field only, and has to have some. -/
def entrySuits (allowed : Truth) (field k : Value) : Value → Bool
  | .dict es =>
    let oneByOne := (!field.isNone && !es.isEmpty) && suitsAll allowed field es
    byRole (within allowed) field k (.dict es) (suitsAll allowed field es) oneByOne oneByOne
      (field.isNone && suitsAll allowed k es)
  | .list vs =>
    let items := areExpressions vs && itemsSuit allowed field vs
    byRole (within allowed) field k (.list vs) false items items
      (field.isNone && within allowed k .eq (.list vs))
  | .tuple vs =>
    let items := areExpressions vs && itemsSuit allowed field vs
    byRole (within allowed) field k (.tuple vs) false items items
      (field.isNone && within allowed k .eq (.tuple vs))
  | v => byRole (within allowed) field k v false false false (field.isNone && within allowed k .eq v)
  termination_by structural v => v

def itemsSuit (allowed : Truth) (field : Value) : List Value → Bool
  | [] => true
  | v :: vs => suits allowed field v && itemsSuit allowed field vs
  termination_by structural v => v

end

variable {allowed truth : Truth} {leaf leaf' : Leaf} {e : Evaluator} {column : Value → Except Fault Value}
  {field k v w : Value} {o : Operator} {vs : List Value} {es : List (Value × Value)}
  {xs ys xs' ys' : Except Error (List Clause)}

theorem entrySuits_sequence (sequence : members? w = some vs) :
    entrySuits allowed field k w =
      byRole (within allowed) field k w false (areExpressions vs && itemsSuit allowed field vs)
        (areExpressions vs && itemsSuit allowed field vs) (field.isNone && within allowed k .eq w) := by
  cases w <;> cases sequence <;> rfl

theorem entrySuits_flat (flat : isFlat v = true) :
    entrySuits allowed field k v =
      byRole (within allowed) field k v false false false (field.isNone && within allowed k .eq v) := by
  cases v <;> first | rfl | cases flat

/-- Whether two leaves lead to the same clauses. -/
def Both (xs ys : Except Error (List Clause)) : Prop := ∃ cs, xs = .ok cs ∧ ys = .ok cs

namespace Both

theorem leafOf (each : ∀ field o v, allowed field o v = true → ∃ c, leaf field o v = .ok c ∧ leaf' field o v = .ok c)
    (suits : within allowed field o v = true) :
    Both (leafOf leaf field o v) (leafOf leaf' field o v) := by
  obtain ⟨open_, fits⟩ := Bool.and_eq_true_iff.mp suits
  rcases each field o v fits with ⟨c, made, made'⟩
  refine ⟨[.comparison c], ?_, ?_⟩
  · rw [Filter.leafOf, if_neg (by simpa using open_), made]
    rfl
  · rw [Filter.leafOf, if_neg (by simpa using open_), made']
    rfl

theorem append (first : Both xs ys) (second : Both xs' ys') :
    Both (do let as ← xs; return as ++ (← xs')) (do let as ← ys; return as ++ (← ys')) := by
  obtain ⟨as, rfl, rfl⟩ := first
  obtain ⟨bs, rfl, rfl⟩ := second
  exact ⟨as ++ bs, rfl, rfl⟩

theorem wrapped (f : List Clause → Clause) (both : Both xs ys) : Both (wrapped f xs) (wrapped f ys) := by
  obtain ⟨cs, rfl, rfl⟩ := both
  exact ⟨[f cs], rfl, rfl⟩

theorem ite {p : Prop} [Decidable p] (first : Both xs ys) (second : Both xs' ys') :
    Both (if p then xs else xs') (if p then ys else ys') := by
  split
  · exact first
  · exact second

theorem guarded {p q : Bool} {f : List Clause → Clause} (suits : (p && q) = true)
    (both : q = true → Both xs ys) :
    Both (if p = true then Filter.wrapped f xs else xs') (if p = true then Filter.wrapped f ys else ys') := by
  obtain ⟨first, second⟩ := Bool.and_eq_true_iff.mp suits
  rw [if_pos first, if_pos first]
  exact (both second).wrapped f

theorem select {negation all any under negation' all' any' under' : Except Error (List Clause)}
    {n m k' u : Bool}
    (each : ∀ field o v, allowed field o v = true → ∃ c, leaf field o v = .ok c ∧ leaf' field o v = .ok c)
    (suits : byRole (within allowed) field k v n m k' (field.isNone && u) = true)
    (not : n = true → Both negation negation') (and : m = true → Both all all')
    (or : k' = true → Both any any') (open_ : u = true → Both under under') :
    Both (select leaf field k v negation all any under)
      (select leaf' field k v negation' all' any' under') := by
  unfold byRole at suits
  unfold Filter.select
  cases found : role k with
  | unknown =>
    rw [found] at suits
    cases suits
  | comparison o =>
    rw [found] at suits
    exact leafOf each suits
  | negation =>
    rw [found] at suits
    exact not suits
  | all =>
    rw [found] at suits
    exact and suits
  | any =>
    rw [found] at suits
    exact or suits
  | field =>
    rw [found] at suits
    obtain ⟨top, suits⟩ := Bool.and_eq_true_iff.mp suits
    dsimp only
    rw [if_pos top, if_pos top]
    exact open_ suits

theorem entries (suits : suitsAll allowed field es = true)
    (parts : ∀ x ∈ es, entrySuits allowed field x.1 x.2 = true →
      Both (entryClauses leaf field x.1 x.2) (entryClauses leaf' field x.1 x.2)) :
    Both (entriesClauses leaf field es) (entriesClauses leaf' field es) := by
  induction es with
  | nil => exact ⟨[], rfl, rfl⟩
  | cons x es ih =>
    obtain ⟨first, rest⟩ := Bool.and_eq_true_iff.mp suits
    have here := parts x (List.mem_cons_self ..) first
    exact here.append (ih rest fun y member => parts y (List.mem_cons_of_mem _ member))

theorem clausesAll (suits : itemsSuit allowed field vs = true)
    (parts : ∀ v ∈ vs, Filter.suits allowed field v = true →
      Both (clauses leaf field v) (clauses leaf' field v)) :
    Both (clausesAll leaf field vs) (clausesAll leaf' field vs) := by
  induction vs with
  | nil => exact ⟨[], rfl, rfl⟩
  | cons v vs ih =>
    obtain ⟨first, rest⟩ := Bool.and_eq_true_iff.mp suits
    have here := parts v (List.mem_cons_self ..) first
    exact here.append (ih rest fun x member => parts x (List.mem_cons_of_mem _ member))

theorem jointClausesAll (suits : itemsSuit allowed field vs = true)
    (parts : ∀ v ∈ vs, Filter.suits allowed field v = true →
      Both (jointClauses leaf field v) (jointClauses leaf' field v)) :
    Both (jointClausesAll leaf field vs) (jointClausesAll leaf' field vs) := by
  induction vs with
  | nil => exact ⟨[], rfl, rfl⟩
  | cons v vs ih =>
    obtain ⟨first, rest⟩ := Bool.and_eq_true_iff.mp suits
    have here := parts v (List.mem_cons_self ..) first
    exact here.append (ih rest fun x member => parts x (List.mem_cons_of_mem _ member))

end Both

/-- What the clauses of a value are by both leaves in all places where it can stand. -/
structure Accepted (allowed : Truth) (leaf leaf' : Leaf) (v : Value) : Prop where
  whole : ∀ field, suits allowed field v = true → Both (clauses leaf field v) (clauses leaf' field v)
  joint : ∀ field, suits allowed field v = true →
    Both (jointClauses leaf field v) (jointClauses leaf' field v)
  entry : ∀ field k, entrySuits allowed field k v = true →
    Both (entryClauses leaf field k v) (entryClauses leaf' field k v)

theorem Accepted.all
    (each : ∀ field o v, allowed field o v = true → ∃ c, leaf field o v = .ok c ∧ leaf' field o v = .ok c) :
    ∀ v, Accepted allowed leaf leaf' v := by
  intro v
  induction v using induction with
  | dict es ih =>
    have parts : ∀ field, suitsAll allowed field es = true →
        Both (entriesClauses leaf field es) (entriesClauses leaf' field es) :=
      fun field suits => .entries suits fun x member => (ih x member).entry field x.1
    have one : ∀ field, suitsAll allowed field es = true →
        Both (if 1 < es.length then wrapped .and (entriesClauses leaf field es) else entriesClauses leaf field es)
          (if 1 < es.length then wrapped .and (entriesClauses leaf' field es)
            else entriesClauses leaf' field es) :=
      fun field suits => .ite (.wrapped _ (parts field suits)) (parts field suits)
    refine ⟨parts, one, fun field k suits => .select each suits (fun inside => ?_) (fun inside => ?_)
      (fun inside => ?_) (one k)⟩
    · exact .wrapped _ (parts field inside)
    · exact .guarded inside (parts field)
    · exact .guarded inside (parts field)
  | sequence w vs members ih =>
    have other : ∀ field, suits allowed field w = false := fun field => by
      cases w <;> cases members <;> rfl
    refine ⟨fun field suits => ?_, fun field suits => ?_, fun field k suits => ?_⟩
    · rw [other] at suits
      cases suits
    · rw [other] at suits
      cases suits
    · rw [entryClauses_sequence members, entryClauses_sequence members]
      rw [entrySuits_sequence members] at suits
      refine .select each suits (fun none => nomatch none) (fun items => ?_) (fun items => ?_)
        fun fits => .leafOf each fits
      · exact .guarded items fun items => .clausesAll items fun v member => (ih v member).whole field
      · exact .guarded items fun items => .jointClausesAll items fun v member => (ih v member).joint field
  | flat v flat =>
    have other : ∀ field, suits allowed field v = false := fun field => by
      cases v <;> first | rfl | cases flat
    refine ⟨fun field suits => ?_, fun field suits => ?_, fun field k suits => ?_⟩
    · rw [other] at suits
      cases suits
    · rw [other] at suits
      cases suits
    · rw [entryClauses_flat flat, entryClauses_flat flat]
      rw [entrySuits_flat flat] at suits
      exact .select each suits (fun none => nomatch none) (fun none => nomatch none)
        (fun none => nomatch none) fun fits => .leafOf each fits

/-- The leaf that makes the allowed comparisons and no others. -/
def Leaf.only (leaf : Leaf) (allowed : Truth) : Leaf := fun field o v =>
  if allowed field o v then leaf field o v else .error .assertion

/-- A filter of comparisons that are all made has clauses, and they evaluate to its meaning. -/
theorem clauses_of_suits (suits : suits allowed .none v = true) (solid : isSolid v = true)
    (made : ∀ field o v, allowed field o v = true → ∃ c, leaf field o v = .ok c) :
    ∃ cs, clauses leaf .none v = .ok cs ∧
      ∀ (e : Evaluator) (column : Value → Except Fault Value) (truth : Truth),
        (∀ field o v c, allowed field o v = true → leaf field o v = .ok c →
          e.satisfies column (.comparison c) = .ok (truth field o v)) →
        e.satisfiesAll column cs = .ok (means truth .none v) := by
  have each : ∀ field o v, allowed field o v = true →
      ∃ c, leaf field o v = .ok c ∧ leaf.only allowed field o v = .ok c := by
    intro field o v fits
    rcases made field o v fits with ⟨c, made⟩
    exact ⟨c, made, by rw [Leaf.only, if_pos fits, made]⟩
  rcases (Accepted.all each v).whole .none suits with ⟨cs, found, found'⟩
  refine ⟨cs, found, fun e column truth told => ?_⟩
  have truths : Evaluates e column (leaf.only allowed) truth := by
    intro field o v c made
    unfold Leaf.only at made
    split at made
    · exact told field o v c ‹_› made
    · cases made
  exact (Agrees.all truths v).whole .none solid cs found'

end ModelStore.Filter
