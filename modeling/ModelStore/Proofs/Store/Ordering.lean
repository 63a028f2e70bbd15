import ModelStore.Proofs.Store.StableSorting
import ModelStore.Proofs.Value.Stored
import ModelStore.Proofs.Value.Symmetry

/-!
The order in which rows are found: by the first key that tells two rows apart, a missing value after all
others whichever the direction, and rows that no key tells apart as they are stored.
-/

namespace ModelStore

namespace Value

/-- Whether a value is less than another, of two that can be compared. -/
def isLess (v w : Value) : Bool := (v.holds .lt w).toOption.getD false

/-- Values that can be compared with each other and whose order is total. -/
structure TotallyOrdered (vs : List Value) : Prop extends Sorting.WeakOrder isLess (· ∈ vs) where
  told : ∀ {v w}, v ∈ vs → w ∈ vs → v.holds .lt w = .ok (v.isLess w)
  equal : ∀ {v w}, v ∈ vs → w ∈ vs → (v == w) = (!v.isLess w && !w.isLess v)

/-- Values that stand for the elements of a linear order, and compare as these do. -/
theorem totallyOrdered_of {α : Type} [LinearOrder α] (f : α → Value) {vs : List Value}
    (told : ∀ a b, (f a).holds .lt (f b) = .ok (decide (a < b))) (equal : ∀ a b, (f a == f b) = decide (a = b))
    (all : ∀ v ∈ vs, ∃ a, v = f a) : TotallyOrdered vs := by
  have less : ∀ a b, (f a).isLess (f b) = decide (a < b) := by
    intro a b
    rw [isLess, told]
    rfl
  refine ⟨⟨?_, ?_⟩, ?_, ?_⟩
  · intro v w hv hw
    obtain ⟨a, rfl⟩ := all v hv
    obtain ⟨b, rfl⟩ := all w hw
    rw [less, less, decide_eq_true_iff, decide_eq_false_iff_not]
    exact lt_asymm
  · intro u v w hu hv hw
    obtain ⟨a, rfl⟩ := all u hu
    obtain ⟨b, rfl⟩ := all v hv
    obtain ⟨c, rfl⟩ := all w hw
    rw [less, less, less, decide_eq_false_iff_not, decide_eq_false_iff_not, decide_eq_false_iff_not, not_lt, not_lt,
      not_lt]
    exact fun first next => next.trans first
  · intro v w hv hw
    obtain ⟨a, rfl⟩ := all v hv
    obtain ⟨b, rfl⟩ := all w hw
    rw [less, told]
  · intro v w hv hw
    obtain ⟨a, rfl⟩ := all v hv
    obtain ⟨b, rfl⟩ := all w hw
    rw [equal, less, less, Bool.eq_iff_iff, Bool.and_eq_true, Bool.not_eq_true', Bool.not_eq_true',
      decide_eq_true_iff, decide_eq_false_iff_not, decide_eq_false_iff_not, not_lt, not_lt, and_comm]
    exact le_antisymm_iff

theorem totallyOrdered_int {vs : List Value} (ints : ∀ v ∈ vs, ∃ n, v = .int n) : TotallyOrdered vs := by
  have ordered (m n : Int) : (compare m n == .lt) = decide (m < n) := by
    rw [Bool.eq_iff_iff, beq_iff_eq, decide_eq_true_iff]
    exact Int.compare_eq_lt
  refine totallyOrdered_of Value.int (fun m n => congrArg Except.ok (ordered m n)) (fun m n => ?_) ints
  rw [int_beq_int, Bool.beq_eq_decide_eq]

theorem holds_lt_str (s t : String) : (Value.str s).holds .lt (.str t) = .ok (decide (s < t)) := by
  have ordered : (compare s t == .lt) = decide (s < t) := by
    rw [Bool.eq_iff_iff, beq_iff_eq, decide_eq_true_iff, compare_lt_iff_lt]
  exact congrArg Except.ok ordered

theorem totallyOrdered_str {vs : List Value} (texts : ∀ v ∈ vs, ∃ s, v = .str s) : TotallyOrdered vs := by
  refine totallyOrdered_of Value.str holds_lt_str (fun s t => ?_) texts
  rw [str_beq_str, Bool.beq_eq_decide_eq]

/-- Whether a present value comes before another in a direction. -/
def isEarlier : SortOrder → Value → Value → Bool
  | .ascending, v, w => v.isLess w
  | .descending, v, w => w.isLess v

/-- Whether a value comes before another; a missing one comes after all others. -/
def precedes (order : SortOrder) (v w : Value) : Bool :=
  !v.isNone && (w.isNone || isEarlier order v w)

variable {order : SortOrder} {v w : Value} {vs : List Value}

/-- A value that may be missing, else is one of the list. -/
abbrev Among (vs : List Value) (v : Value) : Prop := v.isNone = true ∨ v ∈ vs

namespace TotallyOrdered

variable (total : TotallyOrdered vs)

include total

theorem earlier (order : SortOrder) : Sorting.WeakOrder (isEarlier order) (· ∈ vs) := by
  cases order with
  | ascending => exact total.toWeakOrder
  | descending => exact total.toWeakOrder.swap

/-- Values with the missing ones after all others are in a weak order, too. -/
theorem weakOrder (order : SortOrder) : Sorting.WeakOrder (precedes order) (Among vs) := by
  constructor
  · intro v w hv hw first
    simp only [precedes, Bool.and_eq_true, Bool.or_eq_true, Bool.not_eq_true'] at first
    obtain ⟨present, missing | first⟩ := first
    · simp [precedes, missing]
    · by_cases missing : w.isNone = true
      · simp [precedes, missing]
      · have hv := hv.resolve_left (by simp [present])
        have last := (total.earlier order).asymm hv (hw.resolve_left missing) first
        simp [precedes, present, last]
  · intro u v w hu hv hw first next
    by_cases missing : u.isNone = true
    · simp [precedes, missing]
    · rw [Bool.not_eq_true] at missing
      simp only [precedes, missing, Bool.not_false, Bool.true_and, Bool.or_eq_false_iff] at first
      obtain ⟨present, first⟩ := first
      simp only [precedes, present, Bool.not_false, Bool.true_and, Bool.or_eq_false_iff] at next
      obtain ⟨last, next⟩ := next
      have hu := hu.resolve_left (by simp [missing])
      have hv := hv.resolve_left (by simp [present])
      have hw := hw.resolve_left (by simp [last])
      simp [precedes, last, (total.earlier order).trans hu hv hw first next]

theorem level_eq (order : SortOrder) (hv : Among vs v) (hw : Among vs w) :
    Sorting.level (precedes order) v w = (v == w) := by
  by_cases missing : v.isNone = true
  · have none : v = .none := isNone_iff.mp missing
    simp [Sorting.level, precedes, none, none_beq, isNone]
  · rw [Bool.not_eq_true] at missing
    by_cases last : w.isNone = true
    · have none : w = .none := isNone_iff.mp last
      simp [Sorting.level, precedes, none, beq_swap v, none_beq, isNone]
    · rw [Bool.not_eq_true] at last
      have equal := total.equal (hv.resolve_left (by simp [missing])) (hw.resolve_left (by simp [last]))
      cases order with
      | ascending => simp [Sorting.level, precedes, isEarlier, missing, last, equal]
      | descending => simp [Sorting.level, precedes, isEarlier, missing, last, equal, Bool.and_comm]

end TotallyOrdered

/-- Whether the key of one value sorts before that of another; a descending sort asks in reverse. -/
def sortsBefore : SortOrder → Value → Value → Bool
  | .ascending, v, w => precedes .ascending v w
  | .descending, v, w => precedes .descending w v

/-- Keys are compared by whether the values are missing, and only then by the values. -/
theorem holds_sortKey (descending : Bool) (v w : Value) :
    (Store.sortKey descending v).holds .lt (Store.sortKey descending w) =
      if v.isNone == w.isNone then if v == w then .ok false else v.holds .lt w
      else .ok (!(descending != v.isNone) && (descending != w.isNone)) := by
  have flags : ∀ a b : Bool, eq (.bool a) (.bool b) = (a == b) := beq_bool
  have apart : ∀ a b : Bool, (Value.bool a).holds .lt (.bool b) = .ok (!a && b) := by
    intro a b
    cases a <;> cases b <;> simp [holds] <;> rfl
  rw [Store.sortKey, Store.sortKey, holds, holdsAll, flags, apart, holdsAll, holdsAll]
  have same : ((descending != v.isNone) == (descending != w.isNone)) = (v.isNone == w.isNone) := by
    cases descending <;> cases v.isNone <;> cases w.isNone <;> rfl
  rw [same]
  rfl

/-- Sorting by keys is sorting by the values, missing ones last; a descending sort asks in reverse. -/
theorem TotallyOrdered.ranks_sortKey (total : TotallyOrdered vs) (order : SortOrder) :
    Sorting.Ranks
      (fun v w =>
        (Store.sortKey (order == .descending) v).holds .lt (Store.sortKey (order == .descending) w))
      (sortsBefore order) (Among vs) := by
  refine ⟨?_, ?_⟩
  · cases order with
    | ascending => exact total.weakOrder .ascending
    | descending => exact (total.weakOrder .descending).swap
  · intro v w hv hw
    rw [holds_sortKey]
    by_cases missing : v.isNone = true
    · by_cases last : w.isNone = true
      · rw [isNone_iff.mp missing, isNone_iff.mp last, none_beq_none]
        cases order <;> rfl
      · rw [Bool.not_eq_true] at last
        rw [missing, last]
        cases order <;> simp [sortsBefore, precedes, missing, last]
    · rw [Bool.not_eq_true] at missing
      by_cases last : w.isNone = true
      · rw [missing, last]
        cases order <;> simp [sortsBefore, precedes, missing, last]
      · rw [Bool.not_eq_true] at last
        have hv := hv.resolve_left (by simp [missing])
        have hw := hw.resolve_left (by simp [last])
        have decided : sortsBefore order v w = v.isLess w := by
          cases order <;> simp [sortsBefore, precedes, missing, last, isEarlier]
        rw [missing, last, decided, total.equal hv hw, total.told hv hw]
        cases v.isLess w <;> simp

end Value

namespace Store

/-- Whether a row comes before another by the first key that tells them apart. -/
def before : List OrderClause → Row → Row → Bool
  | [], _, _ => false
  | o :: os, a, b =>
    Value.precedes o.order (a.column o.field) (b.column o.field) ||
      (a.column o.field == b.column o.field && before os a b)

/-- Whether two rows have equal values under every key. -/
def tied (os : List OrderClause) (a b : Row) : Bool := os.all fun o => a.column o.field == b.column o.field

/-- The list `sorted` has the rows in order, with tied rows as they were. -/
structure Arranged (os : List OrderClause) (rows sorted : List Row) : Prop where
  perm : sorted.Perm rows
  ordered : sorted.Pairwise fun a b => before os a b = true ∨ tied os a b = true
  stable : ∀ row ∈ rows, sorted.filter (tied os row) = rows.filter (tied os row)

variable {o : OrderClause} {os : List OrderClause} {rows sorted : List Row} {vs : List Value}

theorem tied_single (o : OrderClause) (a b : Row) : tied [o] a b = (a.column o.field == b.column o.field) :=
  Bool.and_true _

theorem Arranged.of_sorted (total : Value.TotallyOrdered vs) (all : ∀ row ∈ rows, Value.Among vs (row.column o.field))
    (done : Sorting.Sorted (fun a b => Value.precedes o.order (a.column o.field) (b.column o.field))
      (fun row => Value.Among vs (row.column o.field)) rows sorted) : Arranged [o] rows sorted where
  perm := done.perm
  ordered := by
    refine done.ordered.imp_of_mem ?_
    intro a b ha hb later
    have ha := all a (done.perm.mem_iff.mp ha)
    have hb := all b (done.perm.mem_iff.mp hb)
    by_cases first : Value.precedes o.order (a.column o.field) (b.column o.field) = true
    · left
      simp [before, first]
    · right
      rw [tied_single, ← total.level_eq o.order ha hb]
      simp [Sorting.level, first, later]
  stable row member := by
    have same : ∀ other ∈ rows, tied [o] row other =
        Sorting.level (fun a b : Row => Value.precedes o.order (a.column o.field) (b.column o.field)) row other := by
      intro other among
      rw [tied_single]
      exact (total.level_eq o.order (all row member) (all other among)).symm
    rw [List.filter_congr same, List.filter_congr fun other among => same other (done.perm.mem_iff.mp among)]
    exact done.stable row (all row member)

theorem sortBy_sorted (total : Value.TotallyOrdered vs)
    (all : ∀ row ∈ rows, Value.Among vs (row.column o.field)) :
    ∃ sorted, sortBy o rows = .ok sorted ∧
      Sorting.Sorted (fun a b => Value.precedes o.order (a.column o.field) (b.column o.field))
        (fun row => Value.Among vs (row.column o.field)) rows sorted := by
  have ranks := (total.ranks_sortKey o.order).comap fun row : Row => row.column o.field
  obtain ⟨field, order⟩ := o
  cases order with
  | ascending => exact ranks.sort_sorted all
  | descending =>
    obtain ⟨sorted, done, stable⟩ := ranks.sort_sorted fun row member => all row (List.mem_reverse.mp member)
    refine ⟨sorted.reverse, ?_, stable.reverse⟩
    have reversed : sortBy ⟨field, .descending⟩ rows = List.reverse <$> Sorting.sort _ rows.reverse := rfl
    rw [reversed]
    exact congrArg (List.reverse <$> ·) done

theorem sortBy_arranged (total : Value.TotallyOrdered vs)
    (all : ∀ row ∈ rows, Value.Among vs (row.column o.field)) :
    ∃ sorted, sortBy o rows = .ok sorted ∧ Arranged [o] rows sorted := by
  obtain ⟨sorted, done, stable⟩ := sortBy_sorted total all
  exact ⟨sorted, done, .of_sorted total all stable⟩

/-- Sorting by one more key, which decides first, keeps what the other keys decided among its ties. -/
theorem Arranged.cons {half : List Row} (first : Arranged os rows half) (last : Arranged [o] half sorted)
    (equal : ∀ row ∈ rows, (row.column o.field == row.column o.field) = true) :
    Arranged (o :: os) rows sorted where
  perm := last.perm.trans first.perm
  ordered := by
    rw [List.pairwise_iff_forall_sublist]
    intro a b pair
    have ha := (last.perm.trans first.perm).mem_iff.mp (pair.subset (List.mem_cons_self ..))
    have decided := List.pairwise_iff_forall_sublist.mp last.ordered pair
    by_cases same : tied [o] a b = true
    · -- the two are tied under the new key, so they are as they were
      have kept : [a, b].Sublist (sorted.filter (tied [o] a)) := by
        have own : tied [o] a a = true := by rw [tied_single, equal a ha]
        simpa [own, same] using pair.filter (tied [o] a)
      rw [last.stable a (first.perm.mem_iff.mpr ha)] at kept
      have earlier := List.pairwise_iff_forall_sublist.mp first.ordered (kept.trans List.filter_sublist)
      rw [tied_single] at same
      rcases earlier with earlier | level
      · left
        simp [before, same, earlier]
      · right
        simpa [tied, same] using level
    · left
      have lower := decided.resolve_right same
      simp only [before, Bool.and_false, Bool.or_false] at lower
      simp [before, lower]
  stable row member := by
    have split : ∀ other, tied (o :: os) row other = (tied [o] row other && tied os row other) := by
      intro other
      simp [tied]
    have parts : ∀ rows : List Row,
        rows.filter (tied (o :: os) row) = (rows.filter (tied [o] row)).filter (tied os row) := by
      intro rows
      rw [List.filter_filter]
      exact List.filter_congr fun other _ => (split other).trans (Bool.and_comm ..)
    calc sorted.filter (tied (o :: os) row)
        = (half.filter (tied [o] row)).filter (tied os row) := by
          rw [parts, last.stable row (first.perm.mem_iff.mpr member)]
      _ = (half.filter (tied os row)).filter (tied [o] row) := List.filter_comm ..
      _ = (rows.filter (tied os row)).filter (tied [o] row) := by rw [first.stable row member]
      _ = rows.filter (tied (o :: os) row) := by rw [List.filter_comm, parts]

/-- The values of a column, without the missing ones. -/
def present (field : String) (rows : List Row) : List Value :=
  (rows.map (·.column field)).filter fun v => !v.isNone

theorem among_present (field : String) {row : Row} (member : row ∈ rows) :
    Value.Among (present field rows) (row.column field) := by
  by_cases missing : (row.column field).isNone = true
  · exact .inl missing
  · right
    refine List.mem_filter.mpr ⟨List.mem_map_of_mem member, ?_⟩
    simpa using missing

/-- Rows are sorted by several keys when each of them is declared and has values in a total order. -/
theorem sortRows_arranged {c : Collection} (declared : ∀ o ∈ os, ∃ f, c.getField (.str o.field) = .ok f)
    (total : ∀ o ∈ os, Value.TotallyOrdered (present o.field rows)) :
    ∃ sorted, sortRows c os rows = .ok sorted ∧ Arranged os rows sorted := by
  induction os with
  | nil =>
    refine ⟨rows, rfl, .refl _, ?_, fun _ _ => rfl⟩
    exact List.pairwise_of_forall fun _ _ => .inr rfl
  | cons o os ih =>
    obtain ⟨⟨f, known⟩, declared⟩ := List.forall_mem_cons.mp declared
    obtain ⟨own, total⟩ := List.forall_mem_cons.mp total
    obtain ⟨half, done, first⟩ := ih declared total
    have all : ∀ row ∈ half, Value.Among (present o.field rows) (row.column o.field) :=
      fun row member => among_present o.field (first.perm.mem_iff.mp member)
    obtain ⟨sorted, finished, last⟩ := sortBy_arranged own all
    refine ⟨sorted, ?_, first.cons last ?_⟩
    · have opened : sortRows c (o :: os) rows = (do
          discard (c.getField (.str o.field))
          Error.ofFault (sortBy o half)) := by
        rw [sortRows, done]
        rfl
      rw [opened, known, finished]
      rfl
    · intro row member
      have here := among_present o.field member
      rw [← own.level_eq o.order here here]
      simp [Sorting.level, (own.weakOrder o.order).irrefl here]

/-- A query without joins: the rows that satisfy the condition, in order, cut to size and projected. -/
theorem select_arranged {s : Store} {cs : Catalog} {e : Evaluator} {q : Query} {c : Collection} {p : Row → Bool}
    (shaped : s.shape cs (.str q.collection.name) = .ok c) (joins : q.joins = [])
    (told : ∀ row ∈ s.rows q.collection.name, e.satisfies row.columnOf q.whereClause = .ok (p row))
    (declared : ∀ o ∈ q.orders, ∃ f, c.getField (.str o.field) = .ok f)
    (total : ∀ o ∈ q.orders, Value.TotallyOrdered (present o.field ((s.rows q.collection.name).filter p))) :
    ∃ sorted, Arranged q.orders ((s.rows q.collection.name).filter p) sorted ∧
      s.select cs e q = .ok ((slice q.offset q.size sorted).map (project q.fields)) := by
  obtain ⟨sorted, done, arranged⟩ := sortRows_arranged declared total
  refine ⟨sorted, arranged, ?_⟩
  have found := satisfying_eq told
  simp only [select, joins, List.isEmpty_nil, Bool.not_true, Bool.false_eq_true, if_false, shaped, found,
    done, Error.ofFault, Bind.bind, Except.bind, Pure.pure, Except.pure]

end Store

end ModelStore
