import ModelStore.Proofs.Query.Growth

/-!
Adding to the innermost open branch. The open branches are the spine of the tree: each is the last
child of the one around it. An addition at the tip leaves every branch before the tip as it was, so
it reaches the clause of the whole query along the spine.
-/

namespace ModelStore.Query

open Clause (Grows comparisonsAll)

/-- Open branches, innermost first: each is the last child of the next, the last one the root. -/
inductive Spine (bs : List Branch) : List Nat → Prop where
  | root : Spine bs [0]
  | down {i j : Nat} {rest : List Nat} {b : Branch} {ks : List Child} {k : Child}
      (found : bs[i]? = some b) (children : b.children = ks ++ [k]) (target : k.target? = some j)
      (later : i < j) (above : Spine bs (i :: rest)) : Spine bs (j :: i :: rest)

variable {bs bs' : List Branch} {tip : Nat} {rest : List Nat} {c : Clause}

theorem Spine.agree (spine : Spine bs (tip :: rest)) (same : ∀ x, x < tip → bs'[x]? = bs[x]?) :
    Spine bs' (tip :: rest) := by
  induction rest generalizing tip with
  | nil => cases spine with
    | root => exact .root
  | cons i rest ih =>
    cases spine with
    | down found children target later above =>
      refine .down ((same i later).trans found) children target later (ih above ?_)
      exact fun x before => same x (Nat.lt_trans before later)

theorem SpansAll.last {start stop j : Nat} {k : Child} {cs : List Clause}
    (h : SpansAll bs start stop [k] cs) (target : k.target? = some j) :
    start = j ∧ ∃ d, Spans bs j stop d ∧ ∀ (bs' : List Branch) (stop' : Nat) (added : List Comparison)
      (d' : Clause), Spans bs' j stop' d' → Grows added d d' →
      ∃ e e', cs = [e] ∧ SpansAll bs' j stop' [k] [e'] ∧ Grows added e e' := by
  cases h with
  | leaf rest => cases target
  | branch head rest =>
    cases rest
    cases target
    exact ⟨rfl, _, head, fun bs' stop' added d' h grows =>
      ⟨_, _, rfl, .branch h .nil, grows⟩⟩
  | negated head rest =>
    cases rest
    cases target
    refine ⟨rfl, _, head, fun bs' stop' added d' h grows => ?_⟩
    obtain ⟨ds, rfl⟩ := grows.of_and
    exact ⟨_, _, rfl, .negated h .nil, grows.not⟩

/-- What grows at the tip of the spine grows the whole clause in the same way. -/
theorem Spine.lift (spine : Spine bs (tip :: rest)) (whole : Spans bs 0 bs.length c) :
    ∃ d, Spans bs tip bs.length d ∧ ∀ (bs' : List Branch) (added : List Comparison) (d' : Clause),
      (∀ x, x < tip → bs'[x]? = bs[x]?) → Spans bs' tip bs'.length d' → Grows added d d' →
      ∃ c', Spans bs' 0 bs'.length c' ∧ Grows added c c' := by
  induction rest generalizing tip with
  | nil =>
    cases spine with
    | root => exact ⟨c, whole, fun bs' added d' _ h grows => ⟨d', h, grows⟩⟩
  | cons i rest ih =>
    cases spine with
    | down found children target later above =>
      obtain ⟨e, around, lift⟩ := ih above
      cases around with
      | node found' parts shape =>
        cases found.symm.trans found'
        rw [children] at parts
        obtain ⟨next, front, back, rfl, first, second⟩ := parts.split
        obtain ⟨rfl, d, here, replace⟩ := second.last target
        refine ⟨d, here, fun bs' added d' same h grows => ?_⟩
        obtain ⟨e, e', rfl, fresh, grown⟩ := replace bs' bs'.length added d' h grows
        subst shape
        refine lift bs' added _ (fun x before => same x (Nat.lt_trans before later)) ?_ grown.last
        refine .node ((same i later).trans found) ?_ rfl
        rw [children]
        exact (first.agree fun x _ before => same x before).append fresh

/-- The branches with children added to one of them and new branches after all others. -/
def extended (bs : List Branch) (tip : Nat) (ks : List Child) (fresh : List Branch) : List Branch :=
  bs.modify tip (fun b => { b with children := b.children ++ ks }) ++ fresh

theorem modify_append {i : Nat} (inside : i < bs.length) (bs' : List Branch) (f : Branch → Branch) :
    (bs ++ bs').modify i f = bs.modify i f ++ bs' := by
  have within : i < (bs ++ bs').length := by rw [List.length_append]; omega
  rw [List.modify_eq_take_cons_drop within, List.modify_eq_take_cons_drop inside,
    List.take_append_of_le_length (Nat.le_of_lt inside), List.drop_append_of_le_length inside,
    List.getElem_append_left inside, List.append_assoc, List.cons_append]

theorem length_extended (bs : List Branch) (tip : Nat) (ks : List Child) (fresh : List Branch) :
    (extended bs tip ks fresh).length = bs.length + fresh.length := by
  simp only [extended, List.length_append, List.length_modify]

theorem extended_other {ks : List Child} {fresh : List Branch} {x : Nat} (inside : x < bs.length)
    (other : x ≠ tip) : (extended bs tip ks fresh)[x]? = bs[x]? := by
  rw [extended, List.getElem?_append_left (by rwa [List.length_modify]), List.getElem?_modify]
  simp only [Ne.symm other, if_false, id_map']

theorem extended_tip (ks : List Child) (fresh : List Branch) {b : Branch}
    (found : bs[tip]? = some b) :
    (extended bs tip ks fresh)[tip]? = some { b with children := b.children ++ ks } := by
  have inside : tip < bs.length := (List.getElem?_eq_some_iff.mp found).1
  rw [extended, List.getElem?_append_left (by rwa [List.length_modify]), List.getElem?_modify, found]
  simp only [if_true]
  rfl

/-- Children with their new branches extend the clause of the tip by their clauses. -/
theorem Spans.extend {ks : List Child} {fresh : List Branch} {ds : List Clause}
    (h : Spans bs tip bs.length c)
    (new : SpansAll (extended bs tip ks fresh) bs.length (bs.length + fresh.length) ks ds) :
    ∃ d, Spans (extended bs tip ks fresh) tip (extended bs tip ks fresh).length d ∧
      Grows (comparisonsAll ds) c d := by
  cases h with
  | node found parts shape =>
    subst shape
    refine ⟨_, .node (extended_tip ks fresh found) ?_ rfl, Grows.more⟩
    rw [length_extended]
    refine SpansAll.append (parts.agree ?_) new
    exact fun x low high => extended_other high (by omega)

end ModelStore.Query
