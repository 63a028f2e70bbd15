import ModelStore.Proofs.Store.Uniqueness
import ModelStore.Proofs.Workspace.Runs

/-!
Calls of a memory driver, one after another. Each is a step of the store of the driver and leaves the
rest of the workspace as it is; what every step preserves holds after any number of them.
-/

namespace ModelStore

variable {w : Workspace} {driver : Nat} {s : Store} {evaluator : Option Nat}

/-- The workspace with another store in a driver. -/
def Workspace.withStore (w : Workspace) (driver : Nat) (evaluator : Option Nat) (s : Store) : Workspace :=
  { w with drivers := w.drivers.set driver (.memory s evaluator) }

theorem Workspace.withStore_self (driven : w.drivers[driver]? = some (.memory s evaluator)) :
    w.withStore driver evaluator s = w := by
  obtain ⟨inside, there⟩ := List.getElem?_eq_some_iff.mp driven
  rw [withStore, ← there, List.set_getElem_self]

theorem Workspace.driven_withStore (driven : w.drivers[driver]? = some (.memory s evaluator)) (s' : Store) :
    (w.withStore driver evaluator s').drivers[driver]? = some (.memory s' evaluator) := by
  obtain ⟨inside, -⟩ := List.getElem?_eq_some_iff.mp driven
  rw [withStore, List.getElem?_set_self inside]

namespace Run

/-- The workspace after calls, whatever each of them answers. -/
def after {α : Type} (calls : List (Run α)) (w : Workspace) : Workspace :=
  calls.foldl (fun w call => (call.exec w).2) w

theorem exec_update {d : Driver} (driven : w.drivers[driver]? = some d)
    (g : Catalog → Driver → Except Error Driver) :
    (update driver g).exec w = match g w.layout.collections d with
      | .ok d' => (.ok (), { w with drivers := w.drivers.set driver d' })
      | .error e => (.error e, w) := by
  rw [update, exec_bind_ok (exec_get w), exec_bind_ok (exec_driver driven), exec_bind, exec_ofExcept]
  cases g w.layout.collections d <;> rfl

/-- A request is granted, which is reported, or nothing comes of it. -/
theorem exec_ensure {r : Request} (driven : w.drivers[driver]? = some (.memory s evaluator)) :
    ∃ journal, (ensure driver r).exec w = match Driver.provision s w.layout.collections r with
      | .ok s' => (.ok (), { w.withStore driver evaluator s' with journal })
      | .error e => (.error e, w) := by
  refine ⟨w.journal ++ [.ensured r.phase ((Driver.requestName r).getD "None")], ?_⟩
  rw [ensure, exec_bind_ok (exec_driver driven), exec_bind_ok (exec_get w)]
  simp only [Driver.ensure, Driver.provisionStore]
  cases Driver.provision s w.layout.collections r with
  | ok s' => rfl
  | error e =>
    change (Except.error e, w.withStore driver evaluator s) = _
    rw [Workspace.withStore_self driven]

end Run

namespace Store

/-- A write through a driver of the workspace. -/
def Write.perform (driver : Nat) : Write → Run Value
  | .create collection data => Run.createDocument driver collection data
  | .save collection key data => do
    Run.saveDocument driver collection key data
    return .none
  | .remove collection key => do
    Run.removeDocument driver collection key
    return .none

theorem exec_replacing {x : Except Error Store} (driven : w.drivers[driver]? = some (.memory s evaluator))
    {g : Catalog → Driver → Except Error Driver}
    (same : g w.layout.collections (.memory s evaluator) = (Driver.memory · evaluator) <$> x) :
    Run.exec (do Run.update driver g; return Value.none) w =
      ((Write.replacing s x).1, w.withStore driver evaluator (Write.replacing s x).2) := by
  rw [Run.exec_bind, Run.exec_update driven, same]
  cases x with
  | ok s' => rfl
  | error e =>
    rw [Write.replacing, Workspace.withStore_self driven]
    rfl

theorem Write.exec_perform (driven : w.drivers[driver]? = some (.memory s evaluator)) (x : Write) :
    (x.perform driver).exec w =
      ((x.run s w.layout.collections).1, w.withStore driver evaluator (x.run s w.layout.collections).2) := by
  cases x with
  | create collection data => exact Run.exec_createDocument driven collection data
  | save collection key data => exact exec_replacing driven rfl
  | remove collection key => exact exec_replacing driven rfl

def Step.perform (driver : Nat) : Step → Run Value
  | .write x => x.perform driver
  | .commit => do
    Run.commit driver
    return .none
  | .rollback => do
    Run.rollback driver
    return .none

theorem Step.exec_perform (driven : w.drivers[driver]? = some (.memory s evaluator)) (x : Step) :
    (x.perform driver).exec w =
      ((x.run s w.layout.collections).1, w.withStore driver evaluator (x.run s w.layout.collections).2) := by
  cases x with
  | write x => exact x.exec_perform driven
  | commit => rw [perform, Run.exec_bind, Run.commit, Run.exec_update driven]; rfl
  | rollback => rw [perform, Run.exec_bind, Run.rollback, Run.exec_update driven]; rfl

end Store

namespace Run

variable {ref : CollectionRef} {name : String}

/-- What every step of a store preserves holds after any number of calls. -/
theorem after_steps {P : Store → Prop} (driven : w.drivers[driver]? = some (.memory s evaluator))
    (step : ∀ s x, P s → P (Store.Step.run s w.layout.collections x).2) (start : P s)
    (steps : List Store.Step) :
    ∃ s', (after (steps.map (·.perform driver)) w).drivers[driver]? = some (.memory s' evaluator) ∧ P s' := by
  induction steps generalizing w s with
  | nil => exact ⟨s, driven, start⟩
  | cons x steps ih =>
    have next := Workspace.driven_withStore driven (x.run s w.layout.collections).2
    rw [List.map_cons, after, List.foldl_cons, x.exec_perform driven]
    exact ih next step (step s x start)

/-- In a collection that is known before its first row, the primary key and the unique indexes stay
    unique in the rows and in the committed rows, whatever is written, committed and rolled back. -/
theorem keys_unique (driven : w.drivers[driver]? = some (.memory s evaluator))
    (known : s.shapes.get? name = some ref) (empty : s.rows name = [])
    (uncommitted : Store.rowsOf s.committed name = []) (steps : List Store.Step) :
    ∃ s', (after (steps.map (·.perform driver)) w).drivers[driver]? = some (.memory s' evaluator) ∧
      ∀ rows ∈ [s'.rows name, Store.rowsOf s'.committed name],
        ((w.layout.collections.get ref).primaryKey ≠ [] →
          Store.Distinct ((w.layout.collections.get ref).primaryKey.map (·.name)) rows) ∧
        ∀ i ∈ ((s.indexes.get? name).getD []).values, i.unique = true → Store.Distinct i.fields rows := by
  have start : Store.Keyed w.layout.collections ref name
      (s.constraints (w.layout.collections.get ref) name) s :=
    ⟨known, rfl, fun _ _ => empty ▸ .nil, fun _ _ => uncommitted ▸ .nil⟩
  obtain ⟨s', driven', keyed⟩ := after_steps driven (fun _ _ => Store.Keyed.step) start steps
  refine ⟨s', driven', fun rows among => ?_⟩
  have distinct : ∀ k ∈ s.constraints (w.layout.collections.get ref) name, Store.Distinct k.fields rows := by
    intro k member
    simp only [List.mem_cons, List.not_mem_nil, or_false] at among
    rcases among with rfl | rfl
    · exact keyed.working k member
    · exact keyed.committed k member
  constructor
  · intro keys
    refine distinct ⟨"primary key", _⟩ (List.mem_append_left _ ?_)
    rw [Store.primaryKeyConstraint, if_neg (by rwa [List.isEmpty_iff]), List.mem_singleton]
  · intro i member unique
    have listed : i ∈ ((s.indexes.get? name).getD []).values.filter (·.unique) :=
      List.mem_filter.mpr ⟨member, unique⟩
    exact distinct ⟨_, i.fields⟩ (List.mem_append_right _ (List.mem_map.mpr ⟨i, listed, rfl⟩))

end Run

/-! Accounts with a numbered key and unique addresses. -/

namespace Accounts

def accounts : Collection where
  name := "accounts"
  fields :=
    [{ name := "id", type := .integer, rawType := "INTEGER", converter := .integer, primaryKey := true,
       sequence := .anonymous },
     { name := "email", type := .string, rawType := "VARCHAR", converter := .string }]

def ref : CollectionRef := ⟨0, "accounts"⟩

def byEmail : CollectionIndex := { name := some "accounts.email", fields := ["email"], unique := true }

/-- A store that knows the accounts and their index, without rows. -/
def empty : Store :=
  let s := ({ label := "InMemoryDriver" } : Store).ensureCollection ref
  { s with indexes := s.indexes.put "accounts" [("accounts.email", byEmail)] }

def opened : Workspace where
  layout := { collections := [accounts] }
  drivers := [.memory empty none]
  transactions := [0]

def account (email : Value) : Store.Write := .create (.str "accounts") [(.str "email", email)]

/-- The third and the fifth call are refused; what follows the fifth is rolled back. -/
def steps : List Store.Step :=
  [.write (account (.str "a@b")), .write (account .none), .write (account (.str "a@b")), .commit,
   .write (.save (.str "accounts") [(.str "id", .int 2)] [(.str "email", .str "a@b")]),
   .write (.save (.str "accounts") [(.str "id", .int 2)] [(.str "email", .str "c@d")]),
   .write (account (.str "e@f")), .rollback]

end Accounts

theorem Run.keys_unique_accounts :
    ∃ s', (after (Accounts.steps.map (·.perform 0)) Accounts.opened).drivers[0]? = some (.memory s' none) ∧
      ∀ rows ∈ [s'.rows "accounts", Store.rowsOf s'.committed "accounts"],
        Store.Distinct ["id"] rows ∧ Store.Distinct ["email"] rows := by
  have known : Accounts.empty.shapes.get? "accounts" = some Accounts.ref := rfl
  have driven : Accounts.opened.drivers[0]? = some (.memory Accounts.empty none) := rfl
  obtain ⟨s', driven', unique⟩ := keys_unique driven known rfl rfl Accounts.steps
  refine ⟨s', driven', fun rows among => ?_⟩
  obtain ⟨primary, indexed⟩ := unique rows among
  exact ⟨primary (by decide), indexed Accounts.byEmail (by decide) rfl⟩

/-- The addresses after these steps, and those that were committed before. -/
example : ((Run.after (Accounts.steps.map (·.perform 0)) Accounts.opened).drivers[0]?.bind Driver.store?).map
    (fun s => [s.working, s.committed].map fun t =>
      (Store.rowsOf t "accounts").map fun row => (row.column "email").quoted) =
    some [["'a@b'", "None"], ["'a@b'", "None"]] := by
  decide +kernel

end ModelStore
