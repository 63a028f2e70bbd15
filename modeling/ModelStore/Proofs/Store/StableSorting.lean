import Mathlib.Data.List.Basic
import ModelStore.Proofs.Store.Selecting

/-!
Sorting by a comparison that ranks the elements: they come out in order, and elements of one rank stay in
the order in which they came.
-/

namespace ModelStore.Sorting

variable {α ε : Type}

/-- Neither of two elements comes first. -/
def level (lt : α → α → Bool) (x y : α) : Bool := !lt x y && !lt y x

/-- A strict weak order of the elements that satisfy `P`. -/
structure WeakOrder (lt : α → α → Bool) (P : α → Prop) : Prop where
  asymm : ∀ {x y}, P x → P y → lt x y = true → lt y x = false
  trans : ∀ {x y z}, P x → P y → P z → lt x y = false → lt y z = false → lt x z = false

/-- The comparison answers by a strict weak order. -/
structure Ranks (less : α → α → Except ε Bool) (lt : α → α → Bool) (P : α → Prop) : Prop
    extends WeakOrder lt P where
  told : ∀ {x y}, P x → P y → less x y = .ok (lt x y)

/-- The list `ys` is `xs` in order, with the elements of each rank as they were. -/
structure Sorted (lt : α → α → Bool) (P : α → Prop) (xs ys : List α) : Prop where
  perm : ys.Perm xs
  ordered : ys.Pairwise fun x y => lt y x = false
  stable : ∀ z, P z → ys.filter (level lt z) = xs.filter (level lt z)

variable {less : α → α → Except ε Bool} {lt : α → α → Bool} {P : α → Prop} {a x y z : α} {xs ys : List α}

namespace WeakOrder

variable (weak : WeakOrder lt P)

include weak

theorem irrefl (hx : P x) : lt x x = false := by
  by_contra h
  rw [Bool.not_eq_false] at h
  simp [weak.asymm hx hx h] at h

theorem lt_of_lt_of_le (hx : P x) (hy : P y) (hz : P z) (first : lt x y = true) (next : lt z y = false) :
    lt x z = true := by
  by_contra h
  rw [Bool.not_eq_true] at h
  simp [weak.trans hx hz hy h next] at first

theorem level_trans (hx : P x) (hy : P y) (hz : P z) (first : level lt z x = true)
    (next : level lt z y = true) : level lt x y = true := by
  simp only [level, Bool.and_eq_true, Bool.not_eq_true'] at first next ⊢
  exact ⟨weak.trans hx hz hy first.2 next.1, weak.trans hy hz hx next.2 first.1⟩

theorem swap : WeakOrder (fun x y => lt y x) P where
  asymm hx hy first := weak.asymm hy hx first
  trans hx hy hz first next := weak.trans hz hy hx next first

end WeakOrder

namespace Ranks

variable (ranks : Ranks less lt P)

include ranks

theorem rising_cons (ha : P a) (all : ∀ y ∈ x :: xs, P y) (step : lt x a = false)
    (rising : (x :: xs).Pairwise fun x y => lt y x = false) :
    (a :: x :: xs).Pairwise fun x y => lt y x = false := by
  refine List.pairwise_cons.mpr ⟨?_, rising⟩
  intro y member
  rcases List.mem_cons.mp member with rfl | later
  · exact step
  · have above := (List.pairwise_cons.mp rising).1 y later
    exact ranks.trans (all y member) (all x (List.mem_cons_self ..)) ha above step

theorem falling_cons (ha : P a) (all : ∀ y ∈ x :: xs, P y) (step : lt x a = true)
    (falling : (x :: xs).Pairwise fun x y => lt y x = true) :
    (a :: x :: xs).Pairwise fun x y => lt y x = true := by
  refine List.pairwise_cons.mpr ⟨?_, falling⟩
  intro y member
  rcases List.mem_cons.mp member with rfl | later
  · exact step
  · have hx := all x (List.mem_cons_self ..)
    have below := (List.pairwise_cons.mp falling).1 y later
    exact ranks.toWeakOrder.lt_of_lt_of_le (all y member) hx ha below (ranks.asymm hx ha step)

theorem ascending_rising (ha : P a) (all : ∀ x ∈ xs, P x) :
    ∃ run rest, ascending less a xs = .ok (run, rest) ∧ run ++ rest = xs ∧
      (a :: run).Pairwise fun x y => lt y x = false := by
  induction xs generalizing a with
  | nil => exact ⟨[], [], rfl, rfl, List.pairwise_singleton ..⟩
  | cons x xs ih =>
    have hx := all x (List.mem_cons_self ..)
    have told := ranks.told hx ha
    by_cases lower : lt x a = true
    · rw [lower] at told
      refine ⟨[], x :: xs, ?_, rfl, List.pairwise_singleton ..⟩
      simp only [ascending, told]
      rfl
    · rw [Bool.not_eq_true] at lower
      rw [lower] at told
      obtain ⟨run, rest, next, rfl, rising⟩ := ih hx fun y member => all y (List.mem_cons_of_mem _ member)
      have members : ∀ y ∈ x :: run, P y := fun y member => all y (List.mem_append_left rest member)
      refine ⟨x :: run, rest, ?_, rfl, ranks.rising_cons ha members lower rising⟩
      simp only [ascending, told, next]
      rfl

theorem descending_falling (ha : P a) (all : ∀ x ∈ xs, P x) :
    ∃ run rest, descending less a xs = .ok (run, rest) ∧ run ++ rest = xs ∧
      (a :: run).Pairwise fun x y => lt y x = true := by
  induction xs generalizing a with
  | nil => exact ⟨[], [], rfl, rfl, List.pairwise_singleton ..⟩
  | cons x xs ih =>
    have hx := all x (List.mem_cons_self ..)
    have told := ranks.told hx ha
    by_cases lower : lt x a = true
    · rw [lower] at told
      obtain ⟨run, rest, next, rfl, falling⟩ := ih hx fun y member => all y (List.mem_cons_of_mem _ member)
      have members : ∀ y ∈ x :: run, P y := fun y member => all y (List.mem_append_left rest member)
      refine ⟨x :: run, rest, ?_, rfl, ranks.falling_cons ha members lower falling⟩
      simp only [descending, told, next]
      rfl
    · rw [Bool.not_eq_true] at lower
      rw [lower] at told
      refine ⟨[], x :: xs, ?_, rfl, List.pairwise_singleton ..⟩
      simp only [descending, told]
      rfl

/-- No two elements of a list that falls strictly are of one rank, so reversing it moves none past its
    like. -/
theorem sorted_reverse (all : ∀ x ∈ xs, P x) (falling : xs.Pairwise fun x y => lt y x = true) :
    Sorted lt P xs xs.reverse where
  perm := List.reverse_perm _
  ordered := by
    rw [List.pairwise_reverse]
    exact falling.imp_of_mem fun hx hy below => ranks.asymm (all _ hy) (all _ hx) below
  stable z hz := by
    rw [List.filter_reverse]
    have alone : (xs.filter (level lt z)).Pairwise fun _ _ => False := by
      refine (falling.filter _).imp_of_mem ?_
      intro x y hx hy below
      obtain ⟨hx, levelx⟩ := List.mem_filter.mp hx
      obtain ⟨hy, levely⟩ := List.mem_filter.mp hy
      have same := ranks.toWeakOrder.level_trans (all x hx) (all y hy) hz levelx levely
      simp [level, below] at same
    generalize xs.filter (level lt z) = ys at alone
    match ys, alone with
    | [], _ => rfl
    | [_], _ => rfl
    | x :: y :: _, alone => exact ((List.pairwise_cons.mp alone).1 y (List.mem_cons_self ..)).elim

theorem leadingRun_sorted (all : ∀ x ∈ xs, P x) :
    ∃ first run rest, leadingRun less xs = .ok (run, rest) ∧ first ++ rest = xs ∧ Sorted lt P first run := by
  have unmoved : ∀ {ys : List α}, ys.Pairwise (fun x y => lt y x = false) → Sorted lt P ys ys :=
    fun rising => ⟨.refl _, rising, fun _ _ => rfl⟩
  match xs with
  | [] => exact ⟨[], [], [], rfl, rfl, unmoved .nil⟩
  | [x] => exact ⟨[x], [x], [], rfl, rfl, unmoved (List.pairwise_singleton ..)⟩
  | x :: y :: xs =>
    obtain ⟨hx, later⟩ := List.forall_mem_cons.mp all
    obtain ⟨hy, later⟩ := List.forall_mem_cons.mp later
    have told := ranks.told hy hx
    by_cases lower : lt y x = true
    · rw [lower] at told
      obtain ⟨run, rest, next, rfl, falling⟩ := ranks.descending_falling hy later
      have members : ∀ z ∈ x :: y :: run, P z := fun z member => all z (List.mem_append_left rest member)
      have whole := ranks.falling_cons hx (List.forall_mem_cons.mp members).2 lower falling
      refine ⟨x :: y :: run, _, rest, ?_, rfl, ranks.sorted_reverse members whole⟩
      simp only [leadingRun, told, next]
      rfl
    · rw [Bool.not_eq_true] at lower
      rw [lower] at told
      obtain ⟨run, rest, next, rfl, rising⟩ := ranks.ascending_rising hy later
      have members : ∀ z ∈ y :: run, P z :=
        fun z member => all z (List.mem_append_left rest (List.mem_cons_of_mem _ member))
      refine ⟨x :: y :: run, _, rest, ?_, rfl, unmoved (ranks.rising_cons hx members lower rising)⟩
      simp only [leadingRun, told, next]
      rfl

/-- Bisection puts an element after all that are not greater and before those that are. -/
theorem insert_between (hx : P x) (all : ∀ y ∈ xs, P y) (ordered : xs.Pairwise fun x y => lt y x = false) :
    ∃ before after, insert less x xs = .ok (before ++ x :: after) ∧ before ++ after = xs ∧
      (∀ y ∈ before, lt x y = false) ∧ ∀ y ∈ after, lt x y = true := by
  fun_induction insert less x xs with
  | case1 xs last =>
    have empty : xs = [] := by
      rw [List.drop_eq_nil_iff] at last
      exact List.length_eq_zero_iff.mp (by omega)
    exact ⟨[], [], rfl, empty.symm, List.forall_mem_nil _, List.forall_mem_nil _⟩
  | case2 xs y after middle before_ih after_ih =>
    have parts : xs.take (xs.length / 2) ++ y :: after = xs := by
      rw [← middle]
      exact List.take_append_drop ..
    generalize xs.take (xs.length / 2) = before at *
    subst parts
    obtain ⟨hbefore, hrest⟩ := List.forall_mem_append.mp all
    obtain ⟨hy, hafter⟩ := List.forall_mem_cons.mp hrest
    obtain ⟨left, right, across⟩ := List.pairwise_append.mp ordered
    obtain ⟨above, right⟩ := List.pairwise_cons.mp right
    have told := ranks.told hx hy
    by_cases lower : lt x y = true
    · obtain ⟨front, back, inserted, rfl, low, high⟩ := before_ih hbefore left
      refine ⟨front, back ++ y :: after, ?_, by simp, low, ?_⟩
      · simp only [told, lower, inserted]
        simp [Bind.bind, Except.bind, Pure.pure, Except.pure]
      · intro z member
        rcases List.mem_append.mp member with here | later
        · exact high z here
        · rcases List.mem_cons.mp later with rfl | later
          · exact lower
          · exact ranks.toWeakOrder.lt_of_lt_of_le hx hy (hafter z later) lower (above z later)
    · rw [Bool.not_eq_true] at lower
      obtain ⟨front, back, inserted, rfl, low, high⟩ := after_ih hafter right
      refine ⟨before ++ y :: front, back, ?_, by simp, ?_, high⟩
      · simp only [told, lower, inserted]
        simp [Bind.bind, Except.bind, Pure.pure, Except.pure]
      · intro z member
        rcases List.mem_append.mp member with here | later
        · have hz := hbefore z here
          exact ranks.trans hx hy hz lower (across z here y (List.mem_cons_self ..))
        · rcases List.mem_cons.mp later with rfl | later
          · exact lower
          · exact low z later

/-- An inserted element comes last among those of its rank. -/
theorem insert_sorted (hx : P x) (all : ∀ y ∈ xs, P y) (sorted : Sorted lt P xs ys) :
    ∃ zs, insert less x ys = .ok zs ∧ Sorted lt P (xs ++ [x]) zs := by
  have members : ∀ y ∈ ys, P y := fun y member => all y (sorted.perm.mem_iff.mp member)
  obtain ⟨before, after, done, rfl, low, high⟩ := ranks.insert_between hx members sorted.ordered
  obtain ⟨hbefore, hafter⟩ := List.forall_mem_append.mp members
  obtain ⟨left, right, across⟩ := List.pairwise_append.mp sorted.ordered
  refine ⟨_, done, ?_, ?_, ?_⟩
  · have moved : (before ++ x :: after).Perm (x :: (before ++ after)) := List.perm_middle
    have last := (List.perm_append_singleton x xs).symm
    exact (moved.trans (sorted.perm.cons x)).trans last
  · refine List.pairwise_append.mpr ⟨left, List.pairwise_cons.mpr ⟨?_, right⟩, ?_⟩
    · intro y member
      exact ranks.asymm hx (hafter y member) (high y member)
    · intro y here z later
      rcases List.mem_cons.mp later with rfl | later
      · exact low y here
      · exact across y here z later
  · intro z hz
    by_cases same : level lt z x = true
    · -- no element after the inserted one is of its rank
      have none : after.filter (level lt z) = [] := by
        refine List.filter_eq_nil_iff.mpr fun y member levely => ?_
        have equal := ranks.toWeakOrder.level_trans hx (hafter y member) hz same levely
        simp [level, high y member] at equal
      have kept := sorted.stable z hz
      simp only [List.filter_append, none, List.append_nil] at kept
      simp [List.filter_append, same, none, kept]
    · have kept := sorted.stable z hz
      rw [List.filter_append] at kept
      simp [List.filter_append, same, kept]

theorem insertAll_sorted {first run rest : List α} (all : ∀ x ∈ first ++ rest, P x)
    (sorted : Sorted lt P first run) :
    ∃ ys, rest.foldlM (fun sorted x => insert less x sorted) run = .ok ys ∧ Sorted lt P (first ++ rest) ys := by
  induction rest generalizing first run with
  | nil => exact ⟨run, rfl, by simpa using sorted⟩
  | cons x rest ih =>
    obtain ⟨hfirst, hrest⟩ := List.forall_mem_append.mp all
    obtain ⟨zs, done, sorted⟩ := ranks.insert_sorted (hrest x (List.mem_cons_self ..)) hfirst sorted
    obtain ⟨ys, finished, sorted⟩ := ih (by simpa using all) sorted
    refine ⟨ys, ?_, by simpa using sorted⟩
    rw [List.foldlM_cons, done]
    exact finished

theorem sort_sorted (all : ∀ x ∈ xs, P x) : ∃ ys, sort less xs = .ok ys ∧ Sorted lt P xs ys := by
  obtain ⟨first, run, rest, led, rfl, sorted⟩ := ranks.leadingRun_sorted all
  obtain ⟨ys, done, sorted⟩ := ranks.insertAll_sorted all sorted
  refine ⟨ys, ?_, sorted⟩
  rw [sort, led]
  exact done

end Ranks

theorem Ranks.comap {β : Type} (ranks : Ranks less lt P) (f : β → α) :
    Ranks (fun x y => less (f x) (f y)) (fun x y => lt (f x) (f y)) fun x => P (f x) where
  asymm hx hy := ranks.asymm hx hy
  trans hx hy hz := ranks.trans hx hy hz
  told hx hy := ranks.told hx hy

/-- Only the order of the elements that are there counts. -/
theorem Sorted.congr {lt' : α → α → Bool} (sorted : Sorted lt P xs ys) (all : ∀ x ∈ xs, P x)
    (same : ∀ x ∈ xs, ∀ y ∈ xs, lt x y = lt' x y) : Sorted lt' (· ∈ xs) xs ys where
  perm := sorted.perm
  ordered := by
    refine sorted.ordered.imp_of_mem fun {x y} hx hy later => ?_
    rw [← same y (sorted.perm.mem_iff.mp hy) x (sorted.perm.mem_iff.mp hx)]
    exact later
  stable z hz := by
    have levels : ∀ x ∈ xs, level lt' z x = level lt z x := by
      intro x hx
      rw [level, level, same z hz x hx, same x hx z hz]
    rw [List.filter_congr levels, List.filter_congr fun x hx => levels x (sorted.perm.mem_iff.mp hx)]
    exact sorted.stable z (all z hz)

/-- Sorting the reversed list by the reversed order and reversing the outcome sorts in the reversed order. -/
theorem Sorted.reverse (sorted : Sorted (fun x y => lt y x) P xs.reverse ys) : Sorted lt P xs ys.reverse where
  perm := (List.reverse_perm ys).trans (sorted.perm.trans (List.reverse_perm xs))
  ordered := List.pairwise_reverse.mpr sorted.ordered
  stable z hz := by
    have same : level lt z = level (fun x y => lt y x) z := by
      funext x
      exact Bool.and_comm ..
    rw [List.filter_reverse, same, sorted.stable z hz, List.filter_reverse, List.reverse_reverse]

end ModelStore.Sorting
