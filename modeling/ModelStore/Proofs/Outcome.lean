import Mathlib
import ModelStore.Validation.Checked

/-! Taking apart computations that may fail: a result of the whole comes from a result of each step. -/

namespace ModelStore

namespace Outcome

variable {ε α β : Type} {a : Except ε α} {f : α → Except ε β} {b : β}

theorem of_bind (done : a >>= f = .ok b) : ∃ x, a = .ok x ∧ f x = .ok b := by
  cases a with
  | error e => cases done
  | ok x => exact ⟨x, rfl, done⟩

theorem error_of_bind {e : ε} (failed : a >>= f = .error e) :
    a = .error e ∨ ∃ x, a = .ok x ∧ f x = .error e := by
  cases a with
  | error e' =>
    cases failed
    exact .inl rfl
  | ok x => exact .inr ⟨x, rfl, failed⟩

theorem of_map {g : α → β} (done : g <$> a = .ok b) : ∃ x, a = .ok x ∧ g x = b := by
  cases a with
  | error e => cases done
  | ok x =>
    cases done
    exact ⟨x, rfl, rfl⟩

theorem of_toOption {x : α} {a : Except ε α} (given : a.toOption = some x) : a = .ok x := by
  cases a with
  | error e => cases given
  | ok y =>
    cases given
    rfl

theorem of_fault {a : Except Fault α} {x : α} (done : Error.ofFault a = .ok x) : a = .ok x := by
  cases a with
  | error f => cases done
  | ok y =>
    cases done
    rfl

/-- The results of a list come from its elements, one from each. -/
theorem forall₂_of_mapM {xs : List α} {ys : List β} (done : xs.mapM f = .ok ys) :
    List.Forall₂ (fun x y => f x = .ok y) xs ys := by
  induction xs generalizing ys with
  | nil =>
    cases done
    exact .nil
  | cons x xs ih =>
    rw [List.mapM_cons] at done
    rcases of_bind done with ⟨y, first, done⟩
    rcases of_bind done with ⟨rest, later, done⟩
    cases done
    exact .cons first (ih later)

theorem mapM_of_forall₂ {xs : List α} {ys : List β} (each : List.Forall₂ (fun x y => f x = .ok y) xs ys) :
    xs.mapM f = .ok ys := by
  induction each with
  | nil => rfl
  | cons first _ later =>
    rw [List.mapM_cons, first, later]
    rfl

theorem error_of_map {g : α → β} {e : ε} (failed : g <$> a = .error e) : a = .error e := by
  cases a with
  | error e' =>
    cases failed
    rfl
  | ok x => cases failed

theorem error_of_mapM {xs : List α} {e : ε} (failed : xs.mapM f = .error e) :
    ∃ x ∈ xs, f x = .error e := by
  induction xs with
  | nil => cases failed
  | cons x xs ih =>
    rw [List.mapM_cons] at failed
    cases first : f x with
    | error e' =>
      rw [first] at failed
      cases failed
      exact ⟨x, List.mem_cons_self .., first⟩
    | ok y =>
      rw [first] at failed
      cases rest : xs.mapM f with
      | error e' =>
        rw [rest] at failed
        cases failed
        obtain ⟨z, member, failed⟩ := ih rest
        exact ⟨z, List.mem_cons_of_mem _ member, failed⟩
      | ok ys =>
        rw [rest] at failed
        cases failed

theorem ok_of_mapM {xs : List α} {ys : List β} (done : xs.mapM f = .ok ys) :
    ∀ x ∈ xs, ∃ y, f x = .ok y := by
  have each := forall₂_of_mapM done
  clear done
  induction each with
  | nil => exact List.forall_mem_nil _
  | cons first _ ih => exact List.forall_mem_cons.mpr ⟨⟨_, first⟩, ih⟩

end Outcome

namespace Checked

variable {α β : Type} {f : Checked (α → β)} {a : Checked α} {b : β}

theorem of_seq (done : f <*> a = .ok b) : ∃ g x, f = .ok g ∧ a = .ok x ∧ g x = b := by
  cases f with
  | error is => cases a <;> cases done
  | ok g =>
    cases a with
    | error js => cases done
    | ok x =>
      cases done
      exact ⟨g, x, rfl, rfl, rfl⟩

theorem of_map {g : α → β} (done : g <$> a = .ok b) : ∃ x, a = .ok x ∧ g x = b := by
  rcases of_seq (f := pure g) done with ⟨_, x, same, found, rfl⟩
  cases same
  exact ⟨x, found, rfl⟩

theorem of_orInvalid {x : α} (done : a.orInvalid = .ok x) : a = .ok x := by
  cases a with
  | error is => cases done
  | ok y =>
    cases done
    rfl

theorem of_under {key : String} {x : α} (done : a.under key = .ok x) : a = .ok x := by
  cases a with
  | error is => cases done
  | ok y => exact done

end Checked

end ModelStore
