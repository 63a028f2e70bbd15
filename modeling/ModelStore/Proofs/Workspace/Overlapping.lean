import ModelStore.Proofs.Workspace.Transactions

/-!
Blocks of transactions that overlap. They share the working rows of their driver, so that the end of any block
decides on all that was written since the end of the last one: it publishes these writes, or it discards them,
whichever blocks they belong to.
-/

namespace ModelStore

open Store

variable {w : Workspace} {driver : Nat} {s s' : Store} {evaluator : Option Nat}

/-- What is done to a driver inside of blocks: a write, or the end of a block, which an error leaves or none. -/
inductive Act where
  | call (block : Nat) (x : Write)
  | leave (block : Nat) (raised : Option Error)

/-- What comes of it: a write that succeeded, or the end of a block, normal or not. -/
inductive Deed where
  | wrote (block : Nat) (x : Write) (answer : Value)
  | ended (block : Nat) (normal : Bool)

namespace Act

def perform (driver : Nat) : Act → Run Value
  | .call _ x => x.perform driver
  | .leave block raised => do
    Run.leave (.object (.transaction block)) (Block.outcome raised)
    return .none

/-- What comes of acts one after another; a write that fails leaves no trace. -/
def deeds (driver : Nat) : List Act → Workspace → List Deed
  | [], _ => []
  | .call block x :: acts, w =>
    match (x.perform driver).exec w with
    | (.ok answer, w') => .wrote block x answer :: deeds driver acts w'
    | (.error _, w') => deeds driver acts w'
  | .leave block raised :: acts, w =>
    .ended block raised.isNone :: deeds driver acts (((leave block raised).perform driver).exec w).2

end Act

namespace Deed

/-- The block that ends next, and whether it ends normally. -/
def next : List Deed → Option (Nat × Bool)
  | [] => none
  | .wrote _ _ _ :: deeds => next deeds
  | .ended block normal :: _ => some (block, normal)

/-- The writes after which the next block ends normally, each with its answer. -/
def published : List Deed → List (Write × Value)
  | [] => []
  | .wrote _ x answer :: deeds =>
    if (next deeds).any (·.2) then (x, answer) :: published deeds else published deeds
  | .ended _ _ :: deeds => published deeds

def endsNormally (deeds : List Deed) (block : Nat) : Bool :=
  deeds.any fun
    | .wrote _ _ _ => false
    | .ended other normal => other == block && normal

/-- The writes of the blocks that end normally, each with its answer. -/
def ofNormal (all : List Deed) : List Deed → List (Write × Value)
  | [] => []
  | .wrote block x answer :: deeds =>
    if endsNormally all block then (x, answer) :: ofNormal all deeds else ofNormal all deeds
  | .ended _ _ :: deeds => ofNormal all deeds

/-- After each write the block that ends next is its own. -/
def Separate : List Deed → Prop
  | [] => True
  | .wrote block _ _ :: deeds => (∃ normal, next deeds = some (block, normal)) ∧ Separate deeds
  | .ended _ _ :: deeds => Separate deeds

variable {all deeds : List Deed} {block : Nat} {ending : Bool}

theorem ended_of_next (ends : next deeds = some (block, ending)) : .ended block ending ∈ deeds := by
  induction deeds with
  | nil => cases ends
  | cons d deeds ih =>
    cases d with
    | wrote b x answer => exact List.mem_cons_of_mem _ (ih ends)
    | ended b n =>
      cases ends
      exact List.mem_cons_self ..

theorem endsNormally_iff : endsNormally all block = true ↔ .ended block true ∈ all := by
  rw [endsNormally, List.any_eq_true]
  constructor
  · rintro ⟨d, member, ends⟩
    cases d with
    | wrote b x answer => cases ends
    | ended b n =>
      obtain ⟨same, normal⟩ := (Bool.and_eq_true_iff).mp ends
      cases beq_iff_eq.mp same
      cases normal
      exact member
  · exact fun member => ⟨_, member, by simp⟩

/-- Where blocks end before others write, what is published are the writes of those that end normally. -/
theorem published_eq_ofNormal (once : ∀ b m n, .ended b m ∈ all → .ended b n ∈ all → m = n)
    (among : ∀ d ∈ deeds, d ∈ all) (separate : Separate deeds) : published deeds = ofNormal all deeds := by
  induction deeds with
  | nil => rfl
  | cons d deeds ih =>
    have rest : ∀ d ∈ deeds, d ∈ all := fun d member => among d (List.mem_cons_of_mem _ member)
    cases d with
    | ended b n => exact ih rest separate
    | wrote b x answer =>
      obtain ⟨⟨normal, ends⟩, separate⟩ := separate
      have ended := rest _ (ended_of_next ends)
      have same : endsNormally all b = normal := by
        rw [Bool.eq_iff_iff, endsNormally_iff]
        exact ⟨fun there => once b _ _ ended there, fun yes => yes ▸ ended⟩
      rw [published, ofNormal, ends, same, ih rest separate]
      rfl

end Deed

namespace Act

open Deed (next published)

/-- Each write is in a block that is left later. -/
def Left : List Act → Prop
  | [] => True
  | .call block _ :: acts => (∃ raised, .leave block raised ∈ acts) ∧ Left acts
  | .leave _ _ :: acts => Left acts

theorem exec_leave {block : Nat} {raised : Option Error} (driven : w.drivers[driver]? = some (.memory s evaluator))
    (known : w.transactions[block]? = some driver) :
    ∃ journal, (((Act.leave block raised).perform driver).exec w).2 =
      { w.withStore driver evaluator (s.ended raised) with journal } := by
  obtain ⟨journal, left⟩ := Block.exec_leave driven known raised
  refine ⟨journal, ?_⟩
  rw [perform, Run.exec_bind, left]
  cases raised <;> rfl

/-- What is written reaches the committed rows if the next block ends normally, and else it is lost. -/
theorem exec_acts (driven : w.drivers[driver]? = some (.memory s evaluator)) (acts : List Act)
    (known : ∀ block raised, .leave block raised ∈ acts → w.transactions[block]? = some driver) :
    ∃ s', (Run.after (acts.map (·.perform driver)) w).drivers[driver]? = some (.memory s' evaluator) ∧
      s'.committed = (published (deeds driver acts w)).foldl (fun t c => (Call.write c.1).effect t c.2)
        (if (next (deeds driver acts w)).any (·.2) then s.working else s.committed) ∧
      (∀ c ∈ published (deeds driver acts w), (Call.write c.1).Answers c.2) ∧
      (Left acts → (s.working = s.committed ∨ ∃ block raised, .leave block raised ∈ acts) →
        s'.working = s'.committed) := by
  induction acts generalizing w s with
  | nil =>
    refine ⟨s, driven, rfl, List.forall_mem_nil _, fun _ settled => ?_⟩
    rcases settled with settled | ⟨block, raised, none⟩
    · exact settled
    · cases none
  | cons act acts ih =>
    have later : ∀ block raised, .leave block raised ∈ acts → w.transactions[block]? = some driver :=
      fun block raised member => known block raised (List.mem_cons_of_mem _ member)
    rw [List.map_cons, Run.after, List.foldl_cons]
    cases act with
    | call block x =>
      have does := (Call.write x).does_run s w.layout.collections
      have made : (x.perform driver).exec w = ((Call.write x).run s w.layout.collections |>.1,
        w.withStore driver evaluator ((Call.write x).run s w.layout.collections).2) := x.exec_perform driven
      generalize (Call.write x).run s w.layout.collections = answered at *
      obtain ⟨outcome, s₁⟩ := answered
      obtain ⟨s', driven', committed, answers, settled⟩ :=
        ih (w := w.withStore driver evaluator s₁) (Workspace.driven_withStore driven s₁) later
      have ends : Left (.call block x :: acts) → s'.working = s'.committed := fun left =>
        settled left.2 (.inr ⟨block, left.1⟩)
      change ∃ s', (Run.after (acts.map (·.perform driver)) ((x.perform driver).exec w).2).drivers[driver]? = _ ∧ _
      rw [deeds, made]
      cases outcome with
      | error e =>
        refine ⟨s', driven', ?_, answers, fun left _ => ends left⟩
        rw [committed, does.working, does.committed]
      | ok answer =>
        refine ⟨s', driven', ?_, ?_, fun left _ => ends left⟩
        · -- the write joins the uncommitted ones, on which the next end decides
          rw [published, next, committed, does.working, does.committed]
          cases (next (deeds driver acts (w.withStore driver evaluator s₁))).any (·.2) <;> rfl
        · rw [published]
          split
          · exact List.forall_mem_cons.mpr ⟨does.answers answer rfl, answers⟩
          · exact answers
    | leave block raised =>
      obtain ⟨journal, made⟩ := exec_leave driven (known block raised (List.mem_cons_self ..))
      obtain ⟨s', driven', committed, answers, settled⟩ :=
        ih (w := { w.withStore driver evaluator (s.ended raised) with journal })
          (Workspace.driven_withStore driven (s.ended raised)) later
      rw [deeds, made]
      refine ⟨s', driven', ?_, answers, fun left _ => settled left (.inl ?_)⟩
      · -- nothing is uncommitted after the end of a block, whatever ends next
        rw [committed, Store.settled_ended, ite_self, published, next]
        cases raised <;> rfl
      · exact s.settled_ended raised

/-- Blocks that overlap on a driver without uncommitted changes: once all are left, the committed rows have the
    writes after which the next block to end, whichever it is, ended normally, and no others. These are the writes of
    the blocks that ended normally, if after each write its own block is the next to end. -/
theorem overlapping_blocks (driven : w.drivers[driver]? = some (.memory s evaluator))
    (settled : s.working = s.committed) (acts : List Act)
    (known : ∀ block raised, .leave block raised ∈ acts → w.transactions[block]? = some driver) (left : Left acts) :
    ∃ s', (Run.after (acts.map (·.perform driver)) w).drivers[driver]? = some (.memory s' evaluator) ∧
      s'.working = s'.committed ∧
      s'.committed =
        (published (deeds driver acts w)).foldl (fun t c => (Call.write c.1).effect t c.2) s.committed ∧
      (∀ c ∈ published (deeds driver acts w), (Call.write c.1).Answers c.2) ∧
      (Deed.Separate (deeds driver acts w) →
        (∀ block m n, .ended block m ∈ deeds driver acts w → .ended block n ∈ deeds driver acts w → m = n) →
        published (deeds driver acts w) = Deed.ofNormal (deeds driver acts w) (deeds driver acts w)) := by
  obtain ⟨s', driven', committed, answers, ends⟩ := exec_acts driven acts known
  rw [settled, ite_self] at committed
  exact ⟨s', driven', ends left (.inl settled), committed, answers,
    fun separate once => Deed.published_eq_ofNormal once (fun _ member => member) separate⟩

end Act

namespace Accounts

def shared : Workspace := { opened with transactions := [0, 0] }

/-- A block in another one; the inner block and the outer block may end by an error. -/
def nested (inner outer : Option Error) : List Act :=
  [.call 0 (account (.str "a@b")), .call 1 (account (.str "c@d")), .leave 1 inner, .leave 0 outer]

def both (inner outer : Option Error) : Workspace := Run.after ((nested inner outer).map (·.perform 0)) shared

theorem left_nested (inner outer : Option Error) : Act.Left (nested inner outer) :=
  ⟨⟨outer, by simp⟩, ⟨inner, by simp⟩, trivial⟩

def committedEmails (w : Workspace) : List (Option String) :=
  ((w.drivers[0]?.bind Driver.store?).map fun s => rowsOf s.committed "accounts").getD [] |>.map
    fun row => (row.column "email").text?

end Accounts

/-- The outer block fails after the inner one has ended, which has published the rows of both. -/
theorem Act.overlapping_blocks_accounts :
    ∃ s', (Accounts.both none (some (.runtime "full"))).drivers[0]? = some (.memory s' none) ∧
      s'.working = s'.committed ∧
      (Deed.published (deeds 0 (Accounts.nested none (some (.runtime "full"))) Accounts.shared)).length = 2 ∧
      s'.committed = (Deed.published (deeds 0 (Accounts.nested none (some (.runtime "full"))) Accounts.shared)).foldl
        (fun t c => (Call.write c.1).effect t c.2) Accounts.empty.committed := by
  have driven : Accounts.shared.drivers[0]? = some (.memory Accounts.empty none) := rfl
  have known : ∀ block raised, .leave block raised ∈ Accounts.nested none (some (.runtime "full")) →
      Accounts.shared.transactions[block]? = some 0 := by
    intro block raised member
    simp only [Accounts.nested, List.mem_cons, reduceCtorEq, Act.leave.injEq, List.not_mem_nil, or_false, false_or]
      at member
    rcases member with ⟨rfl, -⟩ | ⟨rfl, -⟩ <;> rfl
  obtain ⟨s', driven', settled, committed, -, -⟩ :=
    overlapping_blocks driven rfl _ known (Accounts.left_nested none (some (.runtime "full")))
  exact ⟨s', driven', settled, by decide +kernel, committed⟩

/-- What a block wrote that fails is committed, if another one ends normally before; and what a block wrote that ends
    normally is lost, if another one fails before. -/
theorem Act.not_isolated :
    Accounts.empty.working = Accounts.empty.committed ∧
      (∀ inner outer, Act.Left (Accounts.nested inner outer)) ∧
      Accounts.committedEmails (Accounts.both none (some (.runtime "full"))) = [some "a@b", some "c@d"] ∧
      Accounts.committedEmails (Accounts.both (some (.runtime "full")) none) = [] :=
  ⟨rfl, Accounts.left_nested, by decide +kernel, by decide +kernel⟩

end ModelStore
