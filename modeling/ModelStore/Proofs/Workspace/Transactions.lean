import ModelStore.Proofs.Workspace.Calls
import ModelStore.Workspace.Sources

/-!
Transactions one after another. A block that ends normally leaves what its successful calls make of the
rows, one that ends by an error leaves the rows of its start; in both cases nothing is left to commit.
-/

namespace ModelStore

open Store

variable {w : Workspace} {driver : Nat} {s s' : Store} {cs : Catalog} {evaluator : Option Nat}

/-- A call of a driver inside of a block. -/
inductive Call where
  | write (x : Write)
  | provide (c : CollectionRef)

namespace Call

def perform (driver : Nat) : Call → Run Value
  | .write x => x.perform driver
  | .provide c => do
    Run.ensure driver (.collection c)
    return .none

def run (s : Store) (cs : Catalog) : Call → Except Error Value × Store
  | .write x => x.run s cs
  | .provide c => (.ok .none, s.ensureCollection c)

/-- The rows after a call that answered. -/
def effect (t : Tables) (answer : Value) : Call → Tables
  | .write x => t.put x.table (x.effect answer (rowsOf t x.table))
  | .provide c => t.ensure c.name []

/-- The rows after a call of which only the provisioning counts: a new collection has no rows. -/
def provision (t : Tables) : Call → Tables
  | .write _ => t
  | .provide c => t.ensure c.name []

/-- A call is one of the store of the driver; provisioning is reported. -/
theorem exec_perform (driven : w.drivers[driver]? = some (.memory s evaluator)) (call : Call) :
    ∃ journal, (call.perform driver).exec w =
      ((call.run s w.layout.collections).1,
        { w.withStore driver evaluator (call.run s w.layout.collections).2 with journal }) := by
  cases call with
  | write x => exact ⟨w.journal, x.exec_perform driven⟩
  | provide c =>
    obtain ⟨journal, ensured⟩ := Run.exec_ensure (r := .collection c) driven
    exact ⟨journal, by rw [perform, Run.exec_bind_ok ensured]; rfl⟩

/-- What a call that succeeds answers: creating answers a row with all that is given, the others nothing. -/
def Answers (answer : Value) : Call → Prop
  | .write (.create _ data) => ∃ row : Row, answer = row.toValue ∧
      ∀ k, ((Row.written [] data).column k).isNone = false → row.get? k = (Row.written [] data).get? k
  | .write (.save _ _ _) | .write (.remove _ _) | .provide _ => answer = .none

theorem answers_write {x : Write} {answer : Value} (done : x.run s cs = (.ok answer, s')) :
    (Call.write x).Answers answer := by
  cases x with
  | create collection data => exact Write.created_row done
  | save collection key data => exact Write.replacing_answer done
  | remove collection key => exact Write.replacing_answer done

/-- What a call does to a store, by its outcome. -/
structure Does (call : Call) (outcome : Except Error Value) (s s' : Store) : Prop where
  answers : ∀ answer, outcome = .ok answer → call.Answers answer
  working : s'.working = match outcome with
    | .ok answer => call.effect s.working answer
    | .error _ => s.working
  committed : s'.committed = match outcome with
    | .ok _ => call.provision s.committed
    | .error _ => s.committed
  sequences : Grows s.sequences s'.sequences
  commits : s'.commits = s.commits
  rollbacks : s'.rollbacks = s.rollbacks

theorem does_run (call : Call) (s : Store) (cs : Catalog) :
    call.Does (call.run s cs).1 s (call.run s cs).2 := by
  cases call with
  | provide c => exact ⟨fun answer same => (Except.ok.inj same).symm, rfl, rfl, .refl _, rfl, rfl⟩
  | write x =>
    rw [run]
    cases done : x.run s cs with
    | mk outcome s' =>
      cases outcome with
      | ok answer =>
        have answers := answers_write done
        obtain ⟨sequences, grown, rfl⟩ := Write.run_ok done
        exact ⟨fun _ same => Except.ok.inj same ▸ answers, rfl, rfl, grown, rfl, rfl⟩
      | error e =>
        obtain ⟨sequences, grown, rfl⟩ := Write.run_error done
        exact ⟨(fun _ none => nomatch none), rfl, rfl, grown, rfl, rfl⟩

end Call

/-- The store at the end of a block that an error leaves or none. -/
def Store.ended (s : Store) : Option Error → Store
  | none => s.commit
  | some _ => s.rollback

theorem Store.settled_ended (s : Store) (raised : Option Error) :
    (s.ended raised).working = (s.ended raised).committed := by
  cases raised <;> rfl

/-- The block of a transaction: its calls, each with whether its error is caught, and the error that is
    raised after them. -/
structure Block where
  transaction : Nat
  calls : List (Call × Bool)
  raised : Option Error

namespace Block

def outcome : Option Error → Except Error Unit
  | none => .ok ()
  | some e => .error e

/-- Makes calls until one fails of which the error is not caught. -/
def perform (driver : Nat) : List (Call × Bool) → Run Unit
  | [] => pure ()
  | (call, caught) :: calls => do
    match ← Run.attempt (call.perform driver) with
    | .ok _ => perform driver calls
    | .error e => if caught then perform driver calls else throw e

def run (driver : Nat) (b : Block) : Run Unit := do
  let ended ← Run.attempt do
    perform driver b.calls
    Run.ofExcept (outcome b.raised)
  Run.leave (.object (.transaction b.transaction)) ended

/-- The calls that succeed, each with its answer, and the error of a call that is not caught. -/
def trace (driver : Nat) : List (Call × Bool) → Workspace → List (Call × Value) × Option Error
  | [], _ => ([], none)
  | (call, caught) :: calls, w =>
    match (call.perform driver).exec w with
    | (.ok answer, w') => ((call, answer) :: (trace driver calls w').1, (trace driver calls w').2)
    | (.error e, w') => if caught then trace driver calls w' else ([], some e)

/-- The calls of the block that succeed, each with its answer. -/
def succeeded (driver : Nat) (b : Block) (w : Workspace) : List (Call × Value) :=
  (trace driver b.calls w).1

/-- The error that leaves the block. -/
def exception (driver : Nat) (b : Block) (w : Workspace) : Option Error :=
  (trace driver b.calls w).2.or b.raised

/-- What the calls of a block do to a store: the rows are changed by those that succeed. -/
structure Does (done : List (Call × Value)) (s s' : Store) : Prop where
  answers : ∀ c ∈ done, c.1.Answers c.2
  working : s'.working = done.foldl (fun t c => c.1.effect t c.2) s.working
  committed : s'.committed = done.foldl (fun t c => c.1.provision t) s.committed
  sequences : Grows s.sequences s'.sequences
  commits : s'.commits = s.commits
  rollbacks : s'.rollbacks = s.rollbacks

theorem Does.cons {s₁ : Store} {call : Call} {answer : Value} {done : List (Call × Value)}
    (first : call.Does (.ok answer) s s₁) (rest : Does done s₁ s') : Does ((call, answer) :: done) s s' where
  answers := List.forall_mem_cons.mpr ⟨first.answers answer rfl, rest.answers⟩
  working := by rw [rest.working, first.working]; rfl
  committed := by rw [rest.committed, first.committed]; rfl
  sequences := first.sequences.trans rest.sequences
  commits := rest.commits.trans first.commits
  rollbacks := rest.rollbacks.trans first.rollbacks

theorem Does.skip {s₁ : Store} {call : Call} {e : Error} {done : List (Call × Value)}
    (first : call.Does (.error e) s s₁) (rest : Does done s₁ s') : Does done s s' where
  answers := rest.answers
  working := by rw [rest.working, first.working]
  committed := by rw [rest.committed, first.committed]
  sequences := first.sequences.trans rest.sequences
  commits := rest.commits.trans first.commits
  rollbacks := rest.rollbacks.trans first.rollbacks

theorem Does.failed {call : Call} {e : Error} (first : call.Does (.error e) s s') : Does [] s s' :=
  ⟨List.forall_mem_nil _, first.working, first.committed, first.sequences, first.commits, first.rollbacks⟩

/-- The calls of a block end as they are traced. -/
theorem exec_calls (driven : w.drivers[driver]? = some (.memory s evaluator)) (calls : List (Call × Bool)) :
    ∃ s' journal, (perform driver calls).exec w =
        (outcome (trace driver calls w).2, { w.withStore driver evaluator s' with journal }) ∧
      Does (trace driver calls w).1 s s' := by
  induction calls generalizing w s with
  | nil =>
    refine ⟨s, w.journal, ?_, List.forall_mem_nil _, rfl, rfl, .refl _, rfl, rfl⟩
    rw [Workspace.withStore_self driven]
    rfl
  | cons head calls ih =>
    obtain ⟨call, caught⟩ := head
    have does := call.does_run s w.layout.collections
    obtain ⟨journal, made⟩ := call.exec_perform driven
    have tried := Run.exec_attempt (call.perform driver) w
    generalize call.run s w.layout.collections = answered at *
    obtain ⟨answer, s₁⟩ := answered
    -- the rest of the calls starts from the store after this one
    have next := Workspace.driven_withStore driven s₁
    obtain ⟨s₂, journal', rest, done⟩ :=
      ih (w := { w.withStore driver evaluator s₁ with journal }) (s := s₁) next
    have whole : ({ ({ w.withStore driver evaluator s₁ with journal } : Workspace).withStore driver evaluator s₂
        with journal := journal' } : Workspace) = { w.withStore driver evaluator s₂ with journal := journal' } := by
      simp only [Workspace.withStore, List.set_set]
    rw [whole] at rest
    rw [made] at tried
    rw [perform, Run.exec_bind_ok tried, trace, made]
    cases answer with
    | ok v => exact ⟨s₂, journal', rest, .cons does done⟩
    | error e =>
      cases caught with
      | true => exact ⟨s₂, journal', rest, .skip does done⟩
      | false => exact ⟨s₁, journal, rfl, .failed does⟩

/-- What a block does to a store without uncommitted changes: all that its successful calls do if it ends
    normally, and if an error leaves it nothing but new collections without rows. -/
structure Ends (driver : Nat) (b : Block) (w : Workspace) (s s' : Store) : Prop where
  settled : s'.working = s'.committed
  answers : ∀ c ∈ b.succeeded driver w, c.1.Answers c.2
  normal : b.exception driver w = none → ((b.run driver).exec w).1 = .ok () ∧
    s'.working = (b.succeeded driver w).foldl (fun t c => c.1.effect t c.2) s.working
  failed : ∀ e, b.exception driver w = some e → ((b.run driver).exec w).1 = .error e ∧
    s'.working = (b.succeeded driver w).foldl (fun t c => c.1.provision t) s.working
  sequences : Grows s.sequences s'.sequences
  ended : s'.commits + s'.rollbacks = s.commits + s.rollbacks + 1

theorem exec_ended (driven : w.drivers[driver]? = some (.memory s evaluator)) (b : Block) :
    ∃ s' journal, (Run.attempt do
        perform driver b.calls
        Run.ofExcept (outcome b.raised)).exec w =
        (.ok (outcome (b.exception driver w)), { w.withStore driver evaluator s' with journal }) ∧
      Does (b.succeeded driver w) s s' := by
  obtain ⟨s', journal, made, does⟩ := exec_calls driven b.calls
  refine ⟨s', journal, ?_, does⟩
  rw [Run.exec_attempt, Run.exec_bind, made, exception]
  cases (trace driver b.calls w).2 with
  | some e => rfl
  | none =>
    dsimp only [outcome]
    rw [Run.exec_ofExcept, Option.none_or]

/-- The end of the block of a transaction commits, or it rolls back and raises the error again. -/
theorem exec_leave {t : Nat} (driven : w.drivers[driver]? = some (.memory s evaluator))
    (known : w.transactions[t]? = some driver) (raised : Option Error) :
    ∃ journal, (Run.leave (.object (.transaction t)) (outcome raised)).exec w =
      (outcome raised, { w.withStore driver evaluator (s.ended raised) with journal }) := by
  have left : (Run.leave (.object (.transaction t)) (outcome raised)).exec w =
      (Run.leaveTransaction driver (outcome raised)).exec w := by
    rw [Run.leave, Run.exec_bind_ok (Run.exec_get w)]
    exact Run.exec_bind_ok (Run.exec_found_some known w)
  rw [left]
  cases raised with
  | none => exact ⟨w.journal, by rw [outcome, Run.leaveTransaction, Run.commit, Run.exec_update driven]; rfl⟩
  | some e =>
    refine ⟨w.journal ++ [.rolledBack e], ?_⟩
    rw [outcome, Run.leaveTransaction, Run.exec_bind, Run.rollback, Run.exec_update driven]
    rfl

/-- A block commits or rolls back what its calls did. -/
theorem exec_run (driven : w.drivers[driver]? = some (.memory s evaluator)) (settled : s.working = s.committed)
    (b : Block) (known : w.transactions[b.transaction]? = some driver) :
    ∃ s' journal, ((b.run driver).exec w).2 = { w.withStore driver evaluator s' with journal } ∧
      b.Ends driver w s s' := by
  obtain ⟨s₁, journal, made, does⟩ := exec_ended driven b
  obtain ⟨journal', left⟩ := exec_leave (w := { w.withStore driver evaluator s₁ with journal })
    (Workspace.driven_withStore driven s₁) known (b.exception driver w)
  have whole : (b.run driver).exec w = (outcome (b.exception driver w),
      { w.withStore driver evaluator (s₁.ended (b.exception driver w)) with journal := journal' }) := by
    rw [run, Run.exec_bind_ok made, left]
    simp only [Workspace.withStore, List.set_set]
  refine ⟨s₁.ended (b.exception driver w), journal', by rw [whole], ?_, does.answers, fun none => ?_,
    fun e failed => ?_, ?_, ?_⟩
  · exact s₁.settled_ended _
  · rw [whole, none]
    exact ⟨rfl, does.working⟩
  · rw [whole, failed]
    refine ⟨rfl, ?_⟩
    -- the committed rows are those at entry, but for what the calls provided
    rw [settled]
    exact does.committed
  · cases b.exception driver w <;> exact does.sequences
  · cases b.exception driver w with
    | none =>
      change s₁.commits + 1 + s₁.rollbacks = _
      rw [does.commits, does.rollbacks]
      omega
    | some e =>
      change s₁.commits + (s₁.rollbacks + 1) = _
      rw [does.commits, does.rollbacks]
      omega

/-- Blocks one after another on a store without uncommitted changes: each of them starts and ends with
    all changes committed, and does all or nothing. -/
theorem blocks_all_or_nothing (driven : w.drivers[driver]? = some (.memory s evaluator))
    (settled : s.working = s.committed) (bs : List Block) (b : Block)
    (known : ∀ a ∈ bs ++ [b], w.transactions[a.transaction]? = some driver) :
    ∃ s₁ s₂, (Run.after (bs.map (·.run driver)) w).drivers[driver]? = some (.memory s₁ evaluator) ∧
      (Run.after ((bs ++ [b]).map (·.run driver)) w).drivers[driver]? = some (.memory s₂ evaluator) ∧
      s₁.working = s₁.committed ∧ b.Ends driver (Run.after (bs.map (·.run driver)) w) s₁ s₂ := by
  induction bs generalizing w s with
  | nil =>
    obtain ⟨s', journal, made, ends⟩ := exec_run driven settled b (known b (List.mem_singleton_self b))
    refine ⟨s, s', driven, ?_, settled, ends⟩
    have driven' := Workspace.driven_withStore driven s'
    change ((b.run driver).exec w).2.drivers[driver]? = _
    rw [made]
    exact driven'
  | cons a bs ih =>
    obtain ⟨s', journal, made, ends⟩ := exec_run driven settled a (known a (List.mem_cons_self ..))
    have driven' := Workspace.driven_withStore driven s'
    rw [List.cons_append, List.map_cons, List.map_cons, Run.after, List.foldl_cons, Run.after, List.foldl_cons,
      made]
    exact ih (w := { w.withStore driver evaluator s' with journal }) driven' ends.settled
      fun c member => known c (List.mem_cons_of_mem _ member)

end Block

namespace Accounts

/-- An account is created, a second one with its address is refused, which is caught. -/
def opening : Block where
  transaction := 0
  calls := [(.write (account (.str "a@b")), false), (.write (account (.str "a@b")), true)]
  raised := none

/-- An address is changed and a collection is provided before an account is refused. -/
def refused : Block where
  transaction := 0
  calls :=
    [(.write (.save (.str "accounts") [(.str "id", .int 1)] [(.str "email", .str "c@d")]), false),
     (.provide ⟨1, "notes"⟩, false), (.write (account (.str "c@d")), false)]
  raised := none

end Accounts

theorem Block.blocks_all_or_nothing_accounts :
    ∃ s₁ s₂, (Run.after [Accounts.opening.run 0] Accounts.opened).drivers[0]? = some (.memory s₁ none) ∧
      (Run.after [Accounts.opening.run 0, Accounts.refused.run 0] Accounts.opened).drivers[0]? =
        some (.memory s₂ none) ∧
      s₁.working = s₁.committed ∧
      Accounts.refused.Ends 0 (Run.after [Accounts.opening.run 0] Accounts.opened) s₁ s₂ := by
  have driven : Accounts.opened.drivers[0]? = some (.memory Accounts.empty none) := rfl
  exact blocks_all_or_nothing driven rfl [Accounts.opening] Accounts.refused (by decide)

/-- The tables and the number of the last account after each of the two blocks. -/
example : [1, 2].map (fun n =>
    ((Run.after ([Accounts.opening.run 0, Accounts.refused.run 0].take n) Accounts.opened).drivers[0]?.bind
      Driver.store?).map fun s =>
        (s.working.map fun t => (t.1, t.2.map fun row => (row.column "email").quoted), s.sequences)) =
    [some ([("accounts", ["'a@b'"])], [("accounts.id", 2)]),
     some ([("accounts", ["'a@b'"]), ("notes", [])], [("accounts.id", 3)])] := by
  decide +kernel

end ModelStore
