import ModelStore.Proofs.Evaluator
import ModelStore.Proofs.Outcome
import ModelStore.Store.Search

/-!
Selecting rows: those that satisfy a condition are found, and sorting only rearranges them. Rows of which the
condition is false, whatever else it says, make no difference.
-/

namespace ModelStore

namespace Sorting

variable {α ε : Type} {less : α → α → Except ε Bool} {a x : α} {xs ys run rest : List α}

theorem ascending_append (done : ascending less a xs = .ok (run, rest)) : run ++ rest = xs := by
  induction xs generalizing a run with
  | nil =>
    cases done
    rfl
  | cons x xs ih =>
    rcases Outcome.of_bind done with ⟨lower, -, done⟩
    cases lower with
    | true =>
      cases done
      rfl
    | false =>
      rcases Outcome.of_bind done with ⟨⟨run', rest'⟩, next, done⟩
      cases done
      exact congrArg (x :: ·) (ih next)

theorem descending_append (done : descending less a xs = .ok (run, rest)) : run ++ rest = xs := by
  induction xs generalizing a run with
  | nil =>
    cases done
    rfl
  | cons x xs ih =>
    rcases Outcome.of_bind done with ⟨lower, -, done⟩
    cases lower with
    | true =>
      rcases Outcome.of_bind done with ⟨⟨run', rest'⟩, next, done⟩
      cases done
      exact congrArg (x :: ·) (ih next)
    | false =>
      cases done
      rfl

theorem leadingRun_perm (done : leadingRun less xs = .ok (run, rest)) : (run ++ rest).Perm xs := by
  cases xs with
  | nil =>
    cases done
    exact .refl _
  | cons x xs =>
    cases xs with
    | nil =>
      cases done
      exact .refl _
    | cons y xs =>
      rcases Outcome.of_bind done with ⟨lower, -, done⟩
      cases lower with
      | true =>
        rcases Outcome.of_bind done with ⟨⟨run', rest'⟩, next, done⟩
        cases done
        rw [← descending_append next]
        exact (List.reverse_perm _).append_right _
      | false =>
        rcases Outcome.of_bind done with ⟨⟨run', rest'⟩, next, done⟩
        cases done
        rw [← ascending_append next]
        exact .refl _

theorem insert_perm (x : α) (xs : List α) : ∀ ys, insert less x xs = .ok ys → ys.Perm (x :: xs) := by
  fun_induction insert less x xs with
  | case1 xs last =>
    intro ys done
    cases done
    have empty : xs = [] := by
      have short := congrArg List.length last
      rw [List.length_drop, List.length_nil] at short
      exact List.length_eq_zero_iff.mp (by omega)
    rw [empty]
  | case2 xs y after middle before_ih after_ih =>
    intro ys done
    have parts : xs.take (xs.length / 2) ++ y :: after = xs := by
      rw [← middle]
      exact List.take_append_drop ..
    have whole : (x :: (xs.take (xs.length / 2) ++ y :: after)).Perm (x :: xs) := .of_eq (congrArg _ parts)
    refine List.Perm.trans ?_ whole
    rcases Outcome.of_bind done with ⟨lower, -, done⟩
    cases lower with
    | true =>
      rcases Outcome.of_bind done with ⟨zs, inserted, done⟩
      cases done
      exact (before_ih zs inserted).append_right _
    | false =>
      rcases Outcome.of_bind done with ⟨zs, inserted, done⟩
      cases done
      have moved := ((after_ih zs inserted).cons y).trans (.swap x y after)
      exact (moved.append_left _).trans List.perm_middle

/-- Sorting rearranges the elements, however they are compared. -/
theorem sort_perm (done : sort less xs = .ok ys) : ys.Perm xs := by
  rcases Outcome.of_bind done with ⟨⟨run, rest⟩, first, done⟩
  refine List.Perm.trans ?_ (leadingRun_perm first)
  -- elements are inserted into any run in the same way, not only into the leading one
  clear first
  induction rest generalizing run with
  | nil =>
    cases done
    rw [List.append_nil]
  | cons x rest ih =>
    rcases Outcome.of_bind done with ⟨zs, inserted, done⟩
    have placed := (insert_perm x run zs inserted).append_right rest
    exact (ih zs done).trans (placed.trans List.perm_middle.symm)

end Sorting

namespace Store

variable {s s' : Store} {cs : Catalog} {e : Evaluator} {condition : Clause} {rows found : List Row}
  {p : Row → Bool} {q : Query} {c : Collection}

theorem satisfying_eq (told : ∀ row ∈ rows, e.satisfies row.columnOf condition = .ok (p row)) :
    satisfying e condition rows = .ok (rows.filter p) := by
  induction rows with
  | nil => rfl
  | cons row rows ih =>
    have rest := ih fun x member => told x (List.mem_cons_of_mem _ member)
    rw [satisfying, told row (List.mem_cons_self ..), rest, List.filter_cons]
    cases p row <;> rfl

/-- Rows of which the condition is false need not be looked at. -/
theorem satisfying_filter (refused : ∀ row ∈ rows, p row = false → e.satisfies row.columnOf condition = .ok false) :
    satisfying e condition rows = satisfying e condition (rows.filter p) := by
  induction rows with
  | nil => rfl
  | cons row rows ih =>
    have rest := ih fun x member => refused x (List.mem_cons_of_mem _ member)
    rw [satisfying, List.filter_cons]
    cases inside : p row with
    | true => rw [if_pos rfl, satisfying, rest]
    | false =>
      rw [refused row (List.mem_cons_self ..) inside, if_neg Bool.false_ne_true, ← rest]
      rfl

/-- The rows that are found are some of those that there are, in their order. -/
theorem satisfying_cases (done : satisfying e condition rows = .ok found) :
    found.Sublist rows ∧ ∀ row ∈ found, e.satisfies row.columnOf condition = .ok true := by
  induction rows generalizing found with
  | nil =>
    cases done
    exact ⟨.slnil, List.forall_mem_nil _⟩
  | cons row rows ih =>
    rcases Outcome.of_bind done with ⟨holds, told, done⟩
    cases holds with
    | true =>
      rcases Outcome.of_bind done with ⟨rest, later, done⟩
      cases done
      obtain ⟨part, all⟩ := ih later
      exact ⟨part.cons_cons row, List.forall_mem_cons.mpr ⟨told, all⟩⟩
    | false =>
      obtain ⟨part, all⟩ := ih done
      exact ⟨part.cons row, all⟩

theorem sortBy_perm {o : OrderClause} (done : sortBy o rows = .ok found) : found.Perm rows := by
  unfold sortBy at done
  dsimp only at done
  split at done
  · rcases Outcome.of_map done with ⟨sorted, made, rfl⟩
    exact (List.reverse_perm _).trans ((Sorting.sort_perm made).trans (List.reverse_perm _))
  · exact Sorting.sort_perm done

theorem sortRows_perm {os : List OrderClause} (done : sortRows c os rows = .ok found) : found.Perm rows := by
  induction os generalizing found with
  | nil =>
    cases done
    exact .refl _
  | cons o os ih =>
    rcases Outcome.of_bind done with ⟨before, sorted, done⟩
    rcases Outcome.of_bind done with ⟨⟨⟩, -, done⟩
    exact (sortBy_perm (Outcome.of_fault done)).trans (ih sorted)

theorem slice_sublist (offset : Nat) (size : Int) (rows : List Row) : (slice offset size rows).Sublist rows := by
  unfold slice
  dsimp only
  split
  · exact (List.take_sublist ..).trans (List.drop_sublist ..)
  · exact List.drop_sublist ..

theorem project_nil (row : Row) : project [] row = row := List.filter_eq_self.mpr fun _ _ => rfl

/-- A query without orders, joins and selected columns. -/
theorem select_eq (shaped : s.shape cs (.str q.collection.name) = .ok c) (joins : q.joins = [])
    (orders : q.orders = []) (fields : q.fields = [])
    (told : ∀ row ∈ s.rows q.collection.name, e.satisfies row.columnOf q.whereClause = .ok (p row)) :
    s.select cs e q = .ok (slice q.offset q.size ((s.rows q.collection.name).filter p)) := by
  have found := satisfying_eq told
  simp only [select, joins, List.isEmpty_nil, Bool.not_true, Bool.false_eq_true, if_false, shaped,
    found, orders, sortRows, fields, Error.ofFault, Bind.bind, Except.bind, Pure.pure, Except.pure]
  rw [List.map_congr_left (fun row _ => project_nil row), List.map_id']

/-- Stores with the same rows but for those of which the condition is false have the same answer. -/
theorem select_congr (label : s'.label = s.label) (shapes : s'.shapes = s.shapes)
    (same : (s'.rows q.collection.name).filter p = (s.rows q.collection.name).filter p)
    (refused : ∀ row, p row = false → e.satisfies row.columnOf q.whereClause = .ok false) :
    s'.select cs e q = s.select cs e q := by
  have found : satisfying e q.whereClause (s'.rows q.collection.name) =
      satisfying e q.whereClause (s.rows q.collection.name) := by
    rw [satisfying_filter fun row _ => refused row, same, ← satisfying_filter fun row _ => refused row]
  simp only [select, shape, label, shapes, found]

/-- What is selected is the columns of rows that satisfy the condition, of each at most once. -/
theorem select_cases (done : s.select cs e q = .ok found) :
    ∃ rows : List Row, rows.Subperm (s.rows q.collection.name) ∧
      (∀ row ∈ rows, e.satisfies row.columnOf q.whereClause = .ok true) ∧ found = rows.map (project q.fields) := by
  unfold select at done
  split at done
  · cases done
  rcases Outcome.of_bind done with ⟨c, -, done⟩
  rcases Outcome.of_bind done with ⟨satisfied, told, done⟩
  rcases Outcome.of_bind done with ⟨sorted, ordered, done⟩
  cases done
  obtain ⟨part, true_⟩ := satisfying_cases (Outcome.of_fault told)
  have cut := slice_sublist q.offset q.size sorted
  have perm := sortRows_perm ordered
  refine ⟨_, (cut.subperm.trans perm.subperm).trans part.subperm, fun row member => ?_, rfl⟩
  exact true_ row (perm.mem_iff.mp (cut.subset member))

end Store

end ModelStore
