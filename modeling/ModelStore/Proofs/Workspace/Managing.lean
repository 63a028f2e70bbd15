import ModelStore.Proofs.Store.Alignment
import ModelStore.Proofs.Workspace.Calls

/-!
A memory driver from its beginning on. It is provisioned, written, committed and rolled back in any order, its
collections get further fields in between, and its registers stay aligned.
-/

namespace ModelStore

open Store (rowsOf)

variable {w w' : Workspace} {driver : Nat} {s : Store} {evaluator : Option Nat} {named : String → CollectionRef}

/-- The store of a driver after a request. -/
theorem Run.ensure_cases {r : Request} {outcome : Except Error Unit}
    (driven : w.drivers[driver]? = some (.memory s evaluator)) (done : (ensure driver r).exec w = (outcome, w')) :
    ∃ s', w'.drivers[driver]? = some (.memory s' evaluator) ∧ w'.layout = w.layout ∧
      (s' = s ∨ Driver.provision s w.layout.collections r = .ok s') := by
  obtain ⟨journal, made⟩ := exec_ensure (r := r) driven
  rw [done] at made
  cases asked : Driver.provision s w.layout.collections r with
  | error e =>
    rw [asked] at made
    cases made
    exact ⟨s, driven, rfl, .inl rfl⟩
  | ok s' =>
    rw [asked] at made
    cases made
    exact ⟨s', Workspace.driven_withStore driven s', rfl, .inr rfl⟩

namespace Workspace

/-- Workspaces in which a memory driver is used from its beginning on. Each name of a collection stands for one
    collection, which may get further fields; how a call ends does not matter. -/
inductive Managed (driver : Nat) (named : String → CollectionRef) : Workspace → Prop where
  | start {w : Workspace} {evaluator : Option Nat} (driven : w.drivers[driver]? = some (.ofEvaluator evaluator)) :
      Managed driver named w
  | ensure {w w' : Workspace} {r : Request} {outcome : Except Error Unit} (before : Managed driver named w)
      (own : ∀ c, r = .collection c → named c.name = c) (done : (Run.ensure driver r).exec w = (outcome, w')) :
      Managed driver named w'
  | step {w w' : Workspace} {x : Store.Step} {outcome : Except Error Value} (before : Managed driver named w)
      (done : (x.perform driver).exec w = (outcome, w')) : Managed driver named w'
  | other {w w' : Workspace} (before : Managed driver named w) (same : w'.drivers[driver]? = w.drivers[driver]?)
      (fields : ∀ ref name, (w.layout.collections.get ref).hasField name = true →
        (w'.layout.collections.get ref).hasField name = true) : Managed driver named w'

namespace Managed

theorem ensured {r : Request} (managed : w.Managed driver named) (own : ∀ c, r = .collection c → named c.name = c) :
    ((Run.ensure driver r).exec w).2.Managed driver named := .ensure managed own rfl

theorem after (managed : w.Managed driver named) (steps : List Store.Step) :
    (Run.after (steps.map (·.perform driver)) w).Managed driver named := by
  induction steps generalizing w with
  | nil => exact managed
  | cons x steps ih => exact ih (.step managed rfl)

theorem aligned (managed : w.Managed driver named) :
    ∃ s evaluator, w.drivers[driver]? = some (.memory s evaluator) ∧ s.Aligned w.layout.collections named := by
  induction managed with
  | start driven => exact ⟨_, _, driven, .new _⟩
  | ensure before own done ih =>
    obtain ⟨s, evaluator, driven, aligned⟩ := ih
    obtain ⟨s', driven', layout, rfl | granted⟩ := Run.ensure_cases driven done
    · exact ⟨s', evaluator, driven', layout ▸ aligned⟩
    · exact ⟨s', evaluator, driven', layout ▸ aligned.provision own granted⟩
  | step before done ih =>
    obtain ⟨s, evaluator, driven, aligned⟩ := ih
    rw [Store.Step.exec_perform driven] at done
    cases done
    exact ⟨_, evaluator, driven_withStore driven _, aligned.step _⟩
  | other before same fields ih =>
    obtain ⟨s, evaluator, driven, aligned⟩ := ih
    exact ⟨s, evaluator, same.trans driven, aligned.grown fields⟩

/-- The registers of a memory driver know the same collections at any time, so that no rows are missing, and every
    row has only columns that its collection declares. -/
theorem registers_aligned (managed : w.Managed driver named) :
    ∃ s evaluator, w.drivers[driver]? = some (.memory s evaluator) ∧
      s.indexes.keys = s.shapes.keys ∧ s.foreignKeys.keys = s.shapes.keys ∧ s.committed.keys = s.shapes.keys ∧
      s.working.keys = s.shapes.keys ∧
      (∀ name ∈ s.shapes.keys, s.working.get? name = some (s.rows name) ∧
        s.committed.get? name = some (rowsOf s.committed name)) ∧
      ∀ name rows, (name, rows) ∈ s.working ++ s.committed → ∃ ref, s.shapes.get? name = some ref ∧
        ∀ row ∈ rows, ∀ column ∈ Assoc.keys row, (w.layout.collections.get ref).hasField column = true := by
  obtain ⟨s, evaluator, driven, aligned⟩ := managed.aligned
  exact ⟨s, evaluator, driven, aligned.indexes, aligned.foreignKeys, aligned.committed, aligned.working,
    fun name => aligned.rows_present, fun name rows => aligned.table_within⟩

end Managed

end Workspace

/-! The accounts from the beginning on. They get a telephone number, and members a collection of their own. -/

namespace Accounts

def members : CollectionRef := ⟨1, "members"⟩

def collectionOf (name : String) : CollectionRef := if name == "members" then members else ref

def fresh : Workspace where
  layout := { collections := [accounts, { name := "members" }] }
  drivers := [.ofEvaluator none]

def phone : CollectionField := { name := "phone", type := .string, rawType := "VARCHAR", converter := .string }

/-- The accounts are provisioned and used, and then get a telephone number. -/
def extended : Workspace :=
  { Run.after (steps.map (·.perform 0)) ((Run.ensure 0 (.collection ref)).exec fresh).2 with
    layout := { collections := [{ accounts with fields := accounts.fields ++ [phone] }, { name := "members" }] } }

def phoned : Store.Step := .write (.create (.str "accounts") [(.str "email", .str "g@h"), (.str "phone", .str "12")])

/-- The account with a telephone number is committed, and then the members are provisioned. -/
def joined : Workspace :=
  ((Run.ensure 0 (.collection members)).exec (Run.after ([phoned, .commit].map (·.perform 0)) extended)).2

def used : Workspace := Run.after ([Store.Step.rollback].map (·.perform 0)) joined

theorem used_managed : used.Managed 0 collectionOf := by
  have provisioned : ((Run.ensure 0 (.collection ref)).exec fresh).2.Managed 0 collectionOf :=
    .ensured (.start rfl) fun c same => by cases same; rfl
  have extended_managed : extended.Managed 0 collectionOf := by
    refine .other (provisioned.after steps) rfl fun c name there => ?_
    have same : (Run.after (steps.map (·.perform 0))
        ((Run.ensure 0 (.collection ref)).exec fresh).2).layout.collections = fresh.layout.collections := by
      decide +kernel
    rw [same] at there
    obtain ⟨id, called⟩ := c
    match id with
    | 0 =>
      have field : accounts.hasField name = true := there
      have either : (accounts.fields ++ [phone]).any (·.name == name) = true := by
        rw [List.any_append, ← Collection.hasField, field, Bool.true_or]
      exact either
    | 1 => exact there
    | _ + 2 => exact there
  have joined_managed : joined.Managed 0 collectionOf :=
    (extended_managed.after [phoned, .commit]).ensured fun c same => by cases same; rfl
  exact joined_managed.after [.rollback]

end Accounts

/-- The members have their rows, none, after a rollback to a commit from before they were provisioned. -/
theorem Workspace.Managed.registers_aligned_accounts :
    ∃ s evaluator, Accounts.used.drivers[0]? = some (.memory s evaluator) ∧
      s.shapes.keys = ["accounts", "members"] ∧ s.working.keys = ["accounts", "members"] ∧
      s.working.get? "members" = some [] ∧ (s.rows "accounts").length = 4 ∧
      ∀ row ∈ s.rows "accounts", ∀ column ∈ Assoc.keys row, column ∈ ["id", "email", "phone"] := by
  obtain ⟨s, evaluator, driven, -, -, -, working, present, within⟩ := registers_aligned Accounts.used_managed
  have facts : (Accounts.used.drivers[0]?.bind Driver.store?).map (fun s =>
      (s.shapes, (s.rows "members").length, (s.rows "accounts").length)) =
        some ([("accounts", Accounts.ref), ("members", Accounts.members)], 0, 4) := by
    decide +kernel
  rw [driven] at facts
  have both := Option.some.inj facts
  simp only [Prod.mk.injEq, List.length_eq_zero_iff] at both
  obtain ⟨shapes, none, four⟩ := both
  have keys : s.shapes.keys = ["accounts", "members"] := congrArg Assoc.keys shapes
  refine ⟨s, evaluator, driven, keys, working.trans keys, ?_, four, fun row member column there => ?_⟩
  · rw [(present "members" (by rw [keys]; decide)).1, none]
  · have kept := (present "accounts" (by rw [keys]; decide)).1
    obtain ⟨c, known, declared⟩ := within _ _ (List.mem_append_left _ (Assoc.mem_of_get? kept))
    have own : s.shapes.get? "accounts" = some Accounts.ref := by
      rw [shapes]
      rfl
    cases own.symm.trans known
    have layout : Accounts.used.layout.collections = Accounts.extended.layout.collections := by decide +kernel
    have field := declared row member column there
    rw [layout] at field
    obtain ⟨f, inside, called⟩ := List.any_eq_true.mp field
    have names : ∀ f ∈ Accounts.accounts.fields ++ [Accounts.phone], f.name ∈ ["id", "email", "phone"] := by decide
    exact beq_iff_eq.mp called ▸ names f inside

end ModelStore
