import ModelStore.Proofs.Store.Selecting

/-!
Pages of what is found. A query with an offset and a size selects a part of what it selects without them, and
pages of one size, one after another, make up the whole.
-/

namespace ModelStore

/-- The elements from a place on, up to so many if there is a limit that is not negative. -/
def page {α : Type} (skip : Nat) (limit : Option Int) (xs : List α) : List α :=
  match limit with
  | none => xs.drop skip
  | some n => if 0 ≤ n then (xs.take (skip + n.toNat)).drop skip else xs.drop skip

variable {α β : Type} {skip : Nat} {limit : Option Int} {xs : List α} {ys : List β}

/-- A page is a part without its first elements, of the whole or of its first elements. -/
theorem page_cases (skip : Nat) (limit : Option Int) :
    (∀ {γ : Type} (zs : List γ), page skip limit zs = zs.drop skip) ∨
      ∃ n, ∀ {γ : Type} (zs : List γ), page skip limit zs = (zs.take n).drop skip := by
  cases limit with
  | none => exact .inl fun _ => rfl
  | some n =>
    by_cases bounded : 0 ≤ n
    · exact .inr ⟨skip + n.toNat, fun _ => if_pos bounded⟩
    · exact .inl fun _ => if_neg bounded

theorem page_map (f : α → β) : page skip limit (xs.map f) = (page skip limit xs).map f := by
  rcases page_cases skip limit with open_ | ⟨n, closed⟩
  · rw [open_, open_, List.map_drop]
  · rw [closed, closed, List.map_drop, List.map_take]

theorem forall₂_page {R : α → β → Prop} (related : List.Forall₂ R xs ys) :
    List.Forall₂ R (page skip limit xs) (page skip limit ys) := by
  rcases page_cases skip limit with open_ | ⟨n, closed⟩
  · rw [open_, open_]
    exact List.forall₂_drop _ related
  · rw [closed, closed]
    exact List.forall₂_drop _ (List.forall₂_take _ related)

/-- The first pages of one size are the first elements. -/
theorem flatten_pages (size : Nat) (xs : List α) (count : Nat) :
    ((List.range count).map fun i => page (i * size) (some size) xs).flatten = xs.take (count * size) := by
  induction count with
  | zero => rw [Nat.zero_mul, List.take_zero, List.range_zero, List.map_nil, List.flatten_nil]
  | succ count ih =>
    have last : page (count * size) (some size) xs = (xs.drop (count * size)).take size := by
      rw [page, if_pos (Int.natCast_nonneg size), Int.toNat_natCast, List.drop_take, Nat.add_sub_cancel_left]
    rw [List.range_succ, List.map_append, List.flatten_append, ih, List.map_singleton, List.flatten_singleton, last,
      Nat.succ_mul, List.take_add]

namespace Store

theorem slice_eq_page (offset : Nat) (limit : Option Int) (rows : List Row) :
    slice offset (limit.getD (-1)) rows = page offset limit rows := by
  cases limit with
  | none => rfl
  | some n =>
    rw [page, List.drop_take, Nat.add_sub_cancel_left]
    rfl

variable {s : Store} {cs : Catalog} {e : Evaluator} {q : Query}

/-- The rows that satisfy the condition of a query, in its order. -/
def inOrder (s : Store) (cs : Catalog) (e : Evaluator) (q : Query) : Except Error (List Row) := do
  if !q.joins.isEmpty then
    throw (.invalid "joins" (s.label ++ " does not support joins"))
  let c ← s.shape cs (.str q.collection.name)
  let found ← Error.ofFault (satisfying e q.whereClause (s.rows q.collection.name))
  sortRows c q.orders found

theorem select_eq_inOrder :
    s.select cs e q = (fun rows => (slice q.offset q.size rows).map (project q.fields)) <$> s.inOrder cs e q := by
  simp only [select, inOrder, Bind.bind, Except.bind, Pure.pure, Except.pure]
  split
  · rfl
  cases s.shape cs (.str q.collection.name) with
  | error x => rfl
  | ok c =>
    cases Error.ofFault (satisfying e q.whereClause (s.rows q.collection.name)) with
    | error x => rfl
    | ok found =>
      dsimp only
      cases sortRows c q.orders found <;> rfl

/-- A query that asks for a part selects that part of what it selects otherwise. -/
theorem select_page (offset : q.offset = 0) (size : q.size = -1) (skip : Nat) (limit : Option Int) :
    s.select cs e { q with offset := skip, size := limit.getD (-1) } = page skip limit <$> s.select cs e q := by
  have whole : ∀ rows, slice q.offset q.size rows = rows := by
    intro rows
    rw [offset, size]
    rfl
  have same : s.inOrder cs e { q with offset := skip, size := limit.getD (-1) } = s.inOrder cs e q := rfl
  rw [select_eq_inOrder, select_eq_inOrder, same, Functor.map_map]
  simp only [slice_eq_page, whole, page_map]

end Store

end ModelStore
