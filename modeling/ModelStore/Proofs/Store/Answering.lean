import ModelStore.Proofs.Store.Ordering
import ModelStore.Proofs.Value.Kinds

/-!
Queries that are answered. Sorting comes to an end if any two elements can be compared, and a query is answered
if its condition can be told of all rows and the values of each column that it sorts by can be compared with each
other, as those of one kind can.
-/

namespace ModelStore

namespace Sorting

variable {α ε : Type} {less : α → α → Except ε Bool} {P : α → Prop} {a x : α} {xs : List α}

/-- Whether any two of the elements that satisfy `P` can be compared. -/
def Told (less : α → α → Except ε Bool) (P : α → Prop) : Prop := ∀ x y, P x → P y → ∃ b, less x y = .ok b

theorem exists_ascending (told : Told less P) (ha : P a) (all : ∀ x ∈ xs, P x) :
    ∃ parts, ascending less a xs = .ok parts := by
  induction xs generalizing a with
  | nil => exact ⟨_, rfl⟩
  | cons x xs ih =>
    obtain ⟨hx, later⟩ := List.forall_mem_cons.mp all
    obtain ⟨lower, compared⟩ := told _ _ hx ha
    rw [ascending, compared]
    cases lower with
    | true => exact ⟨_, rfl⟩
    | false =>
      obtain ⟨parts, next⟩ := ih hx later
      rw [next]
      exact ⟨_, rfl⟩

theorem exists_descending (told : Told less P) (ha : P a) (all : ∀ x ∈ xs, P x) :
    ∃ parts, descending less a xs = .ok parts := by
  induction xs generalizing a with
  | nil => exact ⟨_, rfl⟩
  | cons x xs ih =>
    obtain ⟨hx, later⟩ := List.forall_mem_cons.mp all
    obtain ⟨lower, compared⟩ := told _ _ hx ha
    rw [descending, compared]
    cases lower with
    | true =>
      obtain ⟨parts, next⟩ := ih hx later
      rw [next]
      exact ⟨_, rfl⟩
    | false => exact ⟨_, rfl⟩

theorem exists_leadingRun (told : Told less P) (all : ∀ x ∈ xs, P x) :
    ∃ parts, leadingRun less xs = .ok parts := by
  match xs with
  | [] | [x] => exact ⟨_, rfl⟩
  | x :: y :: xs =>
    obtain ⟨hx, later⟩ := List.forall_mem_cons.mp all
    obtain ⟨hy, later⟩ := List.forall_mem_cons.mp later
    obtain ⟨lower, compared⟩ := told _ _ hy hx
    rw [leadingRun, compared]
    cases lower with
    | true =>
      obtain ⟨parts, next⟩ := exists_descending told hy later
      rw [next]
      exact ⟨_, rfl⟩
    | false =>
      obtain ⟨parts, next⟩ := exists_ascending told hy later
      rw [next]
      exact ⟨_, rfl⟩

theorem exists_insert (told : Told less P) (hx : P x) (all : ∀ y ∈ xs, P y) :
    ∃ ys, insert less x xs = .ok ys := by
  fun_induction insert less x xs with
  | case1 xs last => exact ⟨_, rfl⟩
  | case2 xs y after middle before_ih after_ih =>
    have later : ∀ z ∈ y :: after, P z := by
      rw [← middle]
      exact fun z member => all z (List.mem_of_mem_drop member)
    obtain ⟨hy, later⟩ := List.forall_mem_cons.mp later
    obtain ⟨lower, compared⟩ := told _ _ hx hy
    rw [compared]
    cases lower with
    | true =>
      obtain ⟨ys, inserted⟩ := before_ih fun z member => all z (List.mem_of_mem_take member)
      rw [inserted]
      exact ⟨_, rfl⟩
    | false =>
      obtain ⟨ys, inserted⟩ := after_ih later
      rw [inserted]
      exact ⟨_, rfl⟩

theorem exists_sort (told : Told less P) (all : ∀ x ∈ xs, P x) :
    ∃ ys, sort less xs = .ok ys := by
  obtain ⟨⟨run, rest⟩, first⟩ := exists_leadingRun told all
  have parts : ∀ x ∈ run ++ rest, P x := fun x member => all x ((leadingRun_perm first).mem_iff.mp member)
  rw [sort, first]
  clear first
  induction rest generalizing run with
  | nil => exact ⟨run, rfl⟩
  | cons x rest ih =>
    obtain ⟨before, later⟩ := List.forall_mem_append.mp parts
    obtain ⟨hx, later⟩ := List.forall_mem_cons.mp later
    obtain ⟨ys, inserted⟩ := exists_insert told hx before
    have more : ∀ y ∈ ys, P y := by
      intro y member
      rcases List.mem_cons.mp ((insert_perm x run ys inserted).mem_iff.mp member) with rfl | old
      · exact hx
      · exact before y old
    obtain ⟨zs, done⟩ := ih ys (List.forall_mem_append.mpr ⟨more, later⟩)
    refine ⟨zs, ?_⟩
    simp only [Bind.bind, Except.bind, List.foldlM_cons, inserted] at done ⊢
    exact done

end Sorting

namespace Value

variable {vs : List Value}

/-- Whether any two values of a list that are not missing can be put in order. -/
def AllComparable (vs : List Value) : Prop :=
  ∀ v ∈ vs, ∀ w ∈ vs, v.isNone = false → w.isNone = false → ∃ b, v.holds .lt w = .ok b

theorem allComparable_of_suits (k : Kind) (suits : ∀ v ∈ vs, v.Suits k) : AllComparable vs := by
  intro v hv w hw present present'
  have admits := (suits v hv).resolve_left (by simp [present])
  exact exists_holds admits ((suits w hw).resolve_left (by simp [present'])) .lt

/-- Keys of comparable values can be compared, missing values included. -/
theorem AllComparable.exists_holds_sortKey (comparable : AllComparable vs) {v w : Value} (hv : v ∈ vs) (hw : w ∈ vs)
    (descending : Bool) :
    ∃ b, (Store.sortKey descending v).holds .lt (Store.sortKey descending w) = .ok b := by
  rw [holds_sortKey]
  by_cases alike : (v.isNone == w.isNone) = true
  · rw [if_pos alike]
    by_cases equal : (v == w) = true
    · exact ⟨false, if_pos equal⟩
    · rw [if_neg equal]
      rw [beq_iff_eq] at alike
      cases missing : v.isNone with
      | true =>
        rw [isNone_iff.mp missing, isNone_iff.mp (alike.symm.trans missing), none_beq_none] at equal
        exact (equal rfl).elim
      | false => exact comparable v hv w hw missing (alike.symm.trans missing)
  · exact ⟨_, if_neg alike⟩

end Value

namespace Store

variable {s : Store} {cs : Catalog} {e : Evaluator} {c : Collection} {condition : Clause} {rows : List Row}
  {o : OrderClause} {os : List OrderClause} {q : Query}

theorem exists_satisfying (told : ∀ row ∈ rows, ∃ b, e.satisfies row.columnOf condition = .ok b) :
    ∃ found, satisfying e condition rows = .ok found := by
  induction rows with
  | nil => exact ⟨_, rfl⟩
  | cons row rows ih =>
    obtain ⟨⟨holds, here⟩, later⟩ := List.forall_mem_cons.mp told
    obtain ⟨found, rest⟩ := ih later
    rw [satisfying, here, rest]
    cases holds <;> exact ⟨_, rfl⟩

/-- Whether rows can be sorted by a column: it is declared, and its values are comparable. -/
def Orderable (c : Collection) (rows : List Row) (field : String) : Prop :=
  (∃ f, c.getField (.str field) = .ok f) ∧ Value.AllComparable (rows.map (·.column field))

theorem Orderable.subset {field : String} {found : List Row} (orderable : Orderable c rows field)
    (part : found ⊆ rows) : Orderable c found field :=
  ⟨orderable.1, fun v hv w hw => orderable.2 v (List.map_subset _ part hv) w (List.map_subset _ part hw)⟩

/-- Whether a query can sort rows by a column: it is declared, and its values are of one kind. -/
def Sortable (c : Collection) (rows : List Row) (field : String) : Prop :=
  (∃ f, c.getField (.str field) = .ok f) ∧ ∃ k : Kind, ∀ row ∈ rows, (row.column field).Suits k

theorem Sortable.orderable {field : String} (sortable : Sortable c rows field) : Orderable c rows field := by
  obtain ⟨declared, k, suits⟩ := sortable
  refine ⟨declared, Value.allComparable_of_suits k fun v inside => ?_⟩
  obtain ⟨row, member, rfl⟩ := List.mem_map.mp inside
  exact suits row member

theorem exists_sortBy (comparable : Value.AllComparable (rows.map (·.column o.field))) :
    ∃ sorted, sortBy o rows = .ok sorted := by
  have told : Sorting.Told (fun a b : Row => (sortKey (o.order == .descending) (a.column o.field)).holds .lt
      (sortKey (o.order == .descending) (b.column o.field))) (· ∈ rows) := fun _ _ ha hb =>
    comparable.exists_holds_sortKey (List.mem_map_of_mem ha) (List.mem_map_of_mem hb) _
  unfold sortBy
  dsimp only
  split
  · obtain ⟨sorted, done⟩ := Sorting.exists_sort told fun row member => List.mem_reverse.mp member
    rw [done]
    exact ⟨_, rfl⟩
  · exact Sorting.exists_sort told fun row member => member

theorem exists_sortRows (orderable : ∀ o ∈ os, Orderable c rows o.field) :
    ∃ sorted, sortRows c os rows = .ok sorted := by
  induction os with
  | nil => exact ⟨rows, rfl⟩
  | cons o os ih =>
    obtain ⟨first, later⟩ := List.forall_mem_cons.mp orderable
    obtain ⟨half, before⟩ := ih later
    obtain ⟨⟨f, declared⟩, comparable⟩ := first.subset (sortRows_perm before).subset
    obtain ⟨sorted, done⟩ := exists_sortBy comparable
    rw [sortRows, before]
    refine ⟨sorted, ?_⟩
    simp only [Bind.bind, Except.bind, declared, discard, Functor.mapConst, done]
    rfl

/-- A query without joins is answered if the rows that satisfy its condition can be sorted. -/
theorem exists_select_of_orderable {found : List Row} (shaped : s.shape cs (.str q.collection.name) = .ok c)
    (joins : q.joins = []) (satisfied : satisfying e q.whereClause (s.rows q.collection.name) = .ok found)
    (orderable : ∀ o ∈ q.orders, Orderable c found o.field) :
    ∃ sorted, sortRows c q.orders found = .ok sorted ∧
      s.select cs e q = .ok ((slice q.offset q.size sorted).map (project q.fields)) := by
  obtain ⟨sorted, arranged⟩ := exists_sortRows orderable
  refine ⟨sorted, arranged, ?_⟩
  simp only [select, joins, List.isEmpty_nil, Bool.not_true, Bool.false_eq_true, if_false, shaped, satisfied, arranged,
    Error.ofFault, Bind.bind, Except.bind, Pure.pure, Except.pure]

/-- It is enough that the condition can be told of all rows and the columns to sort by have values of one kind. -/
theorem exists_select (shaped : s.shape cs (.str q.collection.name) = .ok c) (joins : q.joins = [])
    (told : ∀ row ∈ s.rows q.collection.name, ∃ b, e.satisfies row.columnOf q.whereClause = .ok b)
    (sortable : ∀ o ∈ q.orders, Sortable c (s.rows q.collection.name) o.field) :
    ∃ found, s.select cs e q = .ok found := by
  obtain ⟨found, satisfied⟩ := exists_satisfying told
  have part := (satisfying_cases satisfied).1
  obtain ⟨sorted, -, done⟩ := exists_select_of_orderable shaped joins satisfied fun o member =>
    (sortable o member).orderable.subset part.subset
  exact ⟨_, done⟩

end Store

end ModelStore
