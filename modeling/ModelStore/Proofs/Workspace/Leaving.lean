import ModelStore.Proofs.Workspace.Calls
import ModelStore.Workspace.Sources

/-!
Blocks that are left by an error. The end of a transaction rolls back before it passes the error on, so that
the error gets through if the driver can roll back; else the error of the driver takes its place.
-/

namespace ModelStore

namespace Run

variable {commit rollback block : Run Unit} {w : Workspace} {driver t : Nat} {d : Driver} {e : Error}

/-- A block between the operations of a driver: one at a normal end, and one that an error comes to first. -/
def bracket (commit rollback block : Run Unit) : Run Unit := do
  match ← attempt block with
  | .ok () => commit
  | .error e => do
    rollback
    note (.rolledBack e)
    throw e

/-- A block that uses an object and gives it back at its end. -/
def within (v : Value) (block : Run Unit) : Run Unit := do leave v (← attempt block)

theorem exec_throw {α : Type} (e : Error) (w : Workspace) : exec (throw e : Run α) w = (.error e, w) := rfl

/-- An error that leaves the block comes after the rollback, and only if that has an end. -/
theorem exec_bracket (failed : (block.exec w).1 = .error e) :
    (bracket commit rollback block).exec w = match rollback.exec (block.exec w).2 with
      | (.ok (), w') => (.error e, { w' with journal := w'.journal ++ [.rolledBack e] })
      | (.error e', w') => (.error e', w') := by
  rw [bracket, exec_bind_ok (exec_attempt block w), failed]
  dsimp only
  rw [exec_bind]
  cases rollback.exec (block.exec w).2 with
  | mk outcome w' =>
    cases outcome with
    | error e' => rfl
    | ok _ =>
      dsimp only
      rw [exec_bind_ok (exec_note _ _), exec_throw]

theorem leaveTransaction_eq (driver : Nat) (block : Run Unit) :
    (do leaveTransaction driver (← attempt block)) = bracket (Run.commit driver) (Run.rollback driver) block := by
  unfold bracket
  congr 1

/-- The block of a transaction is one between the commit and the rollback of its driver. -/
theorem exec_within (known : (block.exec w).2.transactions[t]? = some driver) :
    (within (.object (.transaction t)) block).exec w =
      (bracket (Run.commit driver) (Run.rollback driver) block).exec w := by
  rw [← leaveTransaction_eq, within, exec_bind_ok (exec_attempt block w), exec_bind_ok (exec_attempt block w), leave,
    exec_bind_ok (exec_get _), exec_bind_ok (exec_found_some known _)]

theorem exec_rollback (driven : w.drivers[driver]? = some d) :
    (Run.rollback driver).exec w = match d.store? with
      | some s => (.ok (), { w with drivers := w.drivers.set driver (d.setStore s.rollback) })
      | none => (.error (.notImplemented d.typeName "rollback"), w) := by
  rw [Run.rollback, exec_update driven, Driver.rollback]
  cases d.store? <;> rfl

/-- The error that leaves a block is the one that leaves the statement, exactly if the driver rolls back; else
    that is the error of the rollback. A driver with a store rolls back, and one without refuses to. -/
theorem error_leaves (failed : (block.exec w).1 = .error e) :
    (∀ commit rollback : Run Unit,
      ((rollback.exec (block.exec w).2).1 = .ok () → ((bracket commit rollback block).exec w).1 = .error e) ∧
      ∀ e', (rollback.exec (block.exec w).2).1 = .error e' →
        ((bracket commit rollback block).exec w).1 = .error e') ∧
    ∀ t driver d, (block.exec w).2.transactions[t]? = some driver → (block.exec w).2.drivers[driver]? = some d →
      (within (.object (.transaction t)) block).exec w =
        (bracket (Run.commit driver) (Run.rollback driver) block).exec w ∧
      (∀ s, d.store? = some s → (within (.object (.transaction t)) block).exec w =
        (.error e, { (block.exec w).2 with
          drivers := (block.exec w).2.drivers.set driver (d.setStore s.rollback)
          journal := (block.exec w).2.journal ++ [.rolledBack e] })) ∧
      (d.store? = none → (within (.object (.transaction t)) block).exec w =
        (.error (.notImplemented d.typeName "rollback"), (block.exec w).2)) := by
  refine ⟨fun commit rollback => ⟨fun done => ?_, fun e' refused => ?_⟩, fun t driver d known driven => ?_⟩
  · rw [exec_bracket failed]
    generalize rollback.exec (block.exec w).2 = ended at done
    obtain ⟨outcome, w'⟩ := ended
    cases done
    rfl
  · rw [exec_bracket failed]
    generalize rollback.exec (block.exec w).2 = ended at refused
    obtain ⟨outcome, w'⟩ := ended
    cases refused
    rfl
  · have left := exec_within known
    rw [left, exec_bracket failed, exec_rollback driven]
    refine ⟨rfl, fun s stored => ?_, fun none => ?_⟩
    · rw [stored]
    · rw [none]

end Run

namespace Accounts

open Run

def interrupted : Run Unit := do
  discard ((account (.str "a@b")).perform 0)
  throw (.runtime "stop")

/-- A driver without a store, and a transaction on it. -/
def storeless : Workspace where
  drivers := [.minimal]
  transactions := [0]

end Accounts

/-- The account is not kept, and the error of the block leaves the statement. -/
theorem Run.error_leaves_account : ∃ w', (within (.object (.transaction 0)) Accounts.interrupted).exec
    Accounts.opened = (.error (.runtime "stop"), w') ∧
      (w'.drivers[0]?.bind Driver.store?).map (·.rows "accounts") = some [] := by
  have failed : (Accounts.interrupted.exec Accounts.opened).1 = .error (.runtime "stop") := rfl
  have left := ((error_leaves failed).2 0 0 _ rfl rfl).2.1 _ rfl
  exact ⟨_, left, rfl⟩

/-- Without a store the driver cannot roll back, which hides the error of the block. -/
theorem Run.not_error_leaves : ∃ w block e t driver d, (block.exec w).1 = .error e ∧
    (block.exec w).2.transactions[t]? = some driver ∧ (block.exec w).2.drivers[driver]? = some d ∧
      ((within (.object (.transaction t)) block).exec w).1 = .error (.notImplemented "MinimalDriver" "rollback") ∧
      ((within (.object (.transaction t)) block).exec w).1 ≠ .error e :=
  ⟨Accounts.storeless, Accounts.interrupted, .runtime "stop", 0, 0, .minimal, rfl, rfl, rfl, rfl, nofun⟩

end ModelStore
