import ModelStore.Evaluator
import ModelStore.Proofs.Outcome
import ModelStore.Store.Basic

/-! Conditions that can be told: what an evaluator makes of them if each comparison has a truth value. -/

namespace ModelStore

/-- A condition of which all comparisons have a property, and which is made of nothing else. -/
inductive Clause.Of (P : Comparison → Prop) : Clause → Prop where
  | comparison {c : Comparison} (holds : P c) : Of P (.comparison c)
  | and {cs : List Clause} (each : ∀ c ∈ cs, Of P c) : Of P (.and cs)
  | or {cs : List Clause} (each : ∀ c ∈ cs, Of P c) : Of P (.or cs)
  | not {c : Clause} (inner : Of P c) : Of P (.not c)

theorem Clause.Of.imp {P Q : Comparison → Prop} {c : Clause} (made : c.Of P) (implies : ∀ x, P x → Q x) :
    c.Of Q := by
  induction made with
  | comparison holds => exact .comparison (implies _ holds)
  | and _ ih => exact .and ih
  | or _ ih => exact .or ih
  | not _ ih => exact .not ih

namespace Evaluator

/-- Whether comparisons for equality tell whether the values are equal. -/
def Equates (e : Evaluator) : Prop := ∀ v w, e.compare (.operator .eq) v w = .ok (v == w)

variable {e : Evaluator} {column : Value → Except Fault Value} {cs ds : List Clause} {c : Clause}
  {o : Operator} {a b : Bool}

theorem default_compare {f : Comparator} (own : Comparator.ofOperator? o = some f) (v w : Value) :
    default.compare (.operator o) v w = f v w := by
  cases o with
  | and | or | not => cases own
  | _ =>
    cases own
    rfl

theorem default_equates : Equates default := fun _ _ => rfl

theorem satisfies_eq (equal : e.Equates) (row : Row) (k : String) (v : Value) :
    e.satisfies row.columnOf (.comparison ⟨.eq, .str k, v⟩) = .ok (row.column k == v) := by
  rw [satisfies]
  exact equal _ _

theorem satisfiesAll_single : e.satisfiesAll column [c] = e.satisfies column c := by
  simp only [satisfiesAll, Bind.bind, Except.bind, Pure.pure, Except.pure]
  cases e.satisfies column c with
  | error x => rfl
  | ok holds => cases holds <;> rfl

theorem satisfiesAny_single : e.satisfiesAny column [c] = e.satisfies column c := by
  simp only [satisfiesAny, Bind.bind, Except.bind, Pure.pure, Except.pure]
  cases e.satisfies column c with
  | error x => rfl
  | ok holds => cases holds <;> rfl

theorem satisfiesAll_map {α : Type} {as : List α} {condition : α → Clause} {p : α → Bool}
    (told : ∀ a ∈ as, e.satisfies column (condition a) = .ok (p a)) :
    e.satisfiesAll column (as.map condition) = .ok (as.all p) := by
  induction as with
  | nil => rfl
  | cons a as ih =>
    have rest := ih fun b member => told b (List.mem_cons_of_mem _ member)
    rw [List.map_cons, satisfiesAll, told a (List.mem_cons_self ..), List.all_cons]
    cases p a with
    | true => exact rest
    | false => rfl

/-- The second part has to be told only where the first one holds. -/
theorem satisfiesAll_append (first : e.satisfiesAll column cs = .ok a)
    (second : a = true → e.satisfiesAll column ds = .ok b) :
    e.satisfiesAll column (cs ++ ds) = .ok (a && b) := by
  induction cs generalizing a with
  | nil =>
    cases first
    exact second rfl
  | cons c cs ih =>
    rw [satisfiesAll] at first
    rcases Outcome.of_bind first with ⟨holds, here, rest⟩
    rw [List.cons_append, satisfiesAll, here]
    cases holds with
    | true => exact ih rest second
    | false =>
      cases rest
      rfl

theorem satisfiesAll_of_append (told : e.satisfiesAll column (cs ++ ds) = .ok true) :
    e.satisfiesAll column cs = .ok true := by
  induction cs with
  | nil => rfl
  | cons c cs ih =>
    rw [List.cons_append, satisfiesAll] at told
    obtain ⟨holds, here, rest⟩ := Outcome.of_bind told
    rw [satisfiesAll, here]
    cases holds with
    | true => exact ih rest
    | false => cases rest

theorem satisfiesAny_append (first : e.satisfiesAny column cs = .ok a)
    (second : e.satisfiesAny column ds = .ok b) : e.satisfiesAny column (cs ++ ds) = .ok (a || b) := by
  induction cs generalizing a with
  | nil =>
    cases first
    exact second
  | cons c cs ih =>
    rw [satisfiesAny] at first
    rcases Outcome.of_bind first with ⟨holds, here, rest⟩
    rw [List.cons_append, satisfiesAny, here]
    cases holds with
    | true =>
      cases rest
      rfl
    | false => exact ih rest

/-! Conditions all of whose comparisons have a truth value. -/

theorem satisfiesAll_told (each : ∀ c ∈ cs, ∃ b, e.satisfies column c = .ok b) :
    ∃ b, e.satisfiesAll column cs = .ok b := by
  induction cs with
  | nil => exact ⟨true, rfl⟩
  | cons c cs ih =>
    obtain ⟨⟨b, here⟩, rest⟩ := List.forall_mem_cons.mp each
    rw [satisfiesAll, here]
    cases b with
    | true => exact ih rest
    | false => exact ⟨false, rfl⟩

theorem satisfiesAny_told (each : ∀ c ∈ cs, ∃ b, e.satisfies column c = .ok b) :
    ∃ b, e.satisfiesAny column cs = .ok b := by
  induction cs with
  | nil => exact ⟨false, rfl⟩
  | cons c cs ih =>
    obtain ⟨⟨b, here⟩, rest⟩ := List.forall_mem_cons.mp each
    rw [satisfiesAny, here]
    cases b with
    | true => exact ⟨true, rfl⟩
    | false => exact ih rest

/-- A condition that is made of comparisons with a truth value has one itself. -/
theorem satisfies_told (made : c.Of fun x => ∃ b, e.satisfies column (.comparison x) = .ok b) :
    ∃ b, e.satisfies column c = .ok b := by
  induction made with
  | comparison told => exact told
  | and _ ih =>
    rw [satisfies]
    exact satisfiesAll_told ih
  | or _ ih =>
    rw [satisfies]
    exact satisfiesAny_told ih
  | not _ ih =>
    obtain ⟨b, told⟩ := ih
    exact ⟨!b, by rw [satisfies, told]; rfl⟩

/-! The comparisons that a condition comes to on a row: those after the one that decides are not made. -/

mutual

/-- The comparisons that are made to tell whether a row satisfies a condition, in order. -/
def tested (e : Evaluator) (column : Value → Except Fault Value) : Clause → List Comparison
  | .comparison c => [c]
  | .and cs => testedAll e column cs
  | .or cs => testedAny e column cs
  | .not c => tested e column c
  | .foreign _ => []

def testedAll (e : Evaluator) (column : Value → Except Fault Value) : List Clause → List Comparison
  | [] => []
  | c :: cs =>
    if (e.satisfies column c).toOption = some true then tested e column c ++ testedAll e column cs
    else tested e column c

def testedAny (e : Evaluator) (column : Value → Except Fault Value) : List Clause → List Comparison
  | [] => []
  | c :: cs =>
    if (e.satisfies column c).toOption = some false then tested e column c ++ testedAny e column cs
    else tested e column c

end

section Tested

variable {e' : Evaluator} {column' : Value → Except Fault Value}

/-- Whether another evaluator comes to the same on another row, for some comparisons. -/
def Agree (e : Evaluator) (column : Value → Except Fault Value) (e' : Evaluator)
    (column' : Value → Except Fault Value) (xs : List Comparison) : Prop :=
  ∀ x ∈ xs, e'.satisfies column' (.comparison x) = e.satisfies column (.comparison x)

mutual

/-- Nothing but the comparisons that are made has an influence on the outcome. -/
theorem satisfies_of_tested : ∀ c : Clause, Agree e column e' column' (e.tested column c) →
    e'.satisfies column' c = e.satisfies column c
  | .comparison c, agree => agree c (List.mem_singleton_self c)
  | .and cs, agree => satisfiesAll_of_tested cs agree
  | .or cs, agree => satisfiesAny_of_tested cs agree
  | .not c, agree => by rw [satisfies, satisfies, satisfies_of_tested c agree]
  | .foreign _, _ => by rw [satisfies, satisfies]

theorem satisfiesAll_of_tested : ∀ cs : List Clause, Agree e column e' column' (e.testedAll column cs) →
    e'.satisfiesAll column' cs = e.satisfiesAll column cs
  | [], _ => rfl
  | c :: cs, agree => by
    rw [testedAll] at agree
    rw [satisfiesAll, satisfiesAll]
    split at agree
    · have first := satisfies_of_tested c fun x member => agree x (List.mem_append_left _ member)
      have rest := satisfiesAll_of_tested cs fun x member => agree x (List.mem_append_right _ member)
      rw [first, rest]
    · rename_i decided
      rw [satisfies_of_tested c agree]
      cases here : e.satisfies column c with
      | error x => rfl
      | ok holds =>
        cases holds with
        | true => exact (decided (here ▸ rfl)).elim
        | false => rfl

theorem satisfiesAny_of_tested : ∀ cs : List Clause, Agree e column e' column' (e.testedAny column cs) →
    e'.satisfiesAny column' cs = e.satisfiesAny column cs
  | [], _ => rfl
  | c :: cs, agree => by
    rw [testedAny] at agree
    rw [satisfiesAny, satisfiesAny]
    split at agree
    · have first := satisfies_of_tested c fun x member => agree x (List.mem_append_left _ member)
      have rest := satisfiesAny_of_tested cs fun x member => agree x (List.mem_append_right _ member)
      rw [first, rest]
    · rename_i decided
      rw [satisfies_of_tested c agree]
      cases here : e.satisfies column c with
      | error x => rfl
      | ok holds =>
        cases holds with
        | true => rfl
        | false => exact (decided (here ▸ rfl)).elim

end

end Tested

/-- After conditions that do not hold together nothing is tested. -/
theorem testedAll_append (refused : e.satisfiesAll column cs = .ok false) (ds : List Clause) :
    e.testedAll column (cs ++ ds) = e.testedAll column cs := by
  induction cs with
  | nil => cases refused
  | cons c cs ih =>
    rw [satisfiesAll] at refused
    rcases Outcome.of_bind refused with ⟨holds, here, rest⟩
    rw [List.cons_append, testedAll, testedAll, here]
    cases holds with
    | true => rw [ih rest]
    | false => rfl

end Evaluator

end ModelStore
