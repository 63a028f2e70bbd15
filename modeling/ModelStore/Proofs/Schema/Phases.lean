import Mathlib
import ModelStore.Proofs.Assoc
import ModelStore.Schema.Provisioning

/-!
The phases of provisioning. Whatever the calls of a driver do and in whichever order they take their
turns, all calls of a phase are made and end before any call of a later one starts, and the errors of the
first phase that fails are reported in the order of its calls.
-/

namespace ModelStore

variable {σ : Type}

/-- A turn that was taken. What a call answers is known when it ends. -/
structure Provisioner.Step where
  turn : Turn
  job : Job
  outcome : Except Error Unit := .ok ()

namespace Provisioner.Step

def move (s : Step) : Turn × Job := (s.turn, s.job)

def started? (s : Step) : Option Job :=
  match s.turn with
  | .start => some s.job
  | _ => none

def ended? (s : Step) : Option (Job × Except Error Unit) :=
  match s.turn with
  | .finish => some (s.job, s.outcome)
  | _ => none

end Provisioner.Step

/-- The jobs that take the given turn. -/
def taking (t : Turn) (turns : List (Turn × Job)) : List Job :=
  turns.filterMap fun m => if m.1 = t then some m.2 else none

namespace Provisioner

/-- The same provisioner, which also records the turns. -/
def traced (p : Provisioner σ) : Provisioner (σ × List Provisioner.Step) where
  catalog x := p.catalog x.1
  start c := fun x =>
    let (_, y) := p.start c x.1
    ((), y, x.2 ++ [⟨.start, c, .ok ()⟩])
  resume c := fun x =>
    let (_, y) := p.resume c x.1
    ((), y, x.2 ++ [⟨.resume, c, .ok ()⟩])
  finish c := fun x =>
    let (outcome, y) := p.finish c x.1
    (outcome, y, x.2 ++ [⟨.finish, c, outcome⟩])
  note e := fun x =>
    let (_, y) := p.note e x.1
    ((), y, x.2)
  schedule := p.schedule

/-- Whether every call starts once and ends once, after it started; jobs may overlap in any way. -/
structure Fair (p : Provisioner σ) : Prop where
  starts : ∀ requests, (taking .start (p.schedule (Schema.numbered requests))).Perm (Schema.numbered requests)
  ends : ∀ requests, (taking .finish (p.schedule (Schema.numbered requests))).Perm (Schema.numbered requests)
  ordered : ∀ requests, ∀ c ∈ Schema.numbered requests,
    [(.start, c), (.finish, c)].Sublist (p.schedule (Schema.numbered requests))

end Provisioner

namespace Schema

/-- Whether each request of a phase was called once, with which outcome it ended, and that before it ended it
    had started. -/
structure Attempted (requests : List Request) (steps : List Provisioner.Step)
    (outcomes : List (Except Error Unit)) : Prop where
  counted : outcomes.length = requests.length
  started : (steps.filterMap Provisioner.Step.started?).Perm (numbered requests)
  ended : (steps.filterMap Provisioner.Step.ended?).Perm ((numbered requests).zip outcomes)
  ordered : ∀ c ∈ numbered requests, ∃ a b : Provisioner.Step, [a, b].Sublist steps ∧ a.move = (.start, c) ∧
    b.move = (.finish, c)

/-- The steps and the outcome of phases that start in a state. A phase is passed when all its jobs
    succeeded, and only then the next one starts, in the state that it left; else its failures are the
    outcome, in the order of the jobs. -/
inductive Barriers (p : Provisioner σ) (s : Schema) :
    List Phase → σ → List Provisioner.Step → Except Error Unit → Prop where
  | finished {x : σ} : Barriers p s [] x [] (.ok ())
  | passed {phase : Phase} {rest : List Phase} {x y : σ} {steps later : List Provisioner.Step}
      {outcomes : List (Except Error Unit)} {outcome : Except Error Unit}
      (attempted : Attempted (s.requests (p.catalog x) phase) steps outcomes)
      (succeeded : outcomes.filterMap errorOf? = [])
      (left : runPhase p phase (s.requests (p.catalog x) phase) x = (.ok (), y))
      (next : Barriers p s rest y later outcome) : Barriers p s (phase :: rest) x (steps ++ later) outcome
  | failed {phase : Phase} {rest : List Phase} {x : σ} {steps : List Provisioner.Step}
      {outcomes : List (Except Error Unit)} {e : Error} {es : List Error}
      (attempted : Attempted (s.requests (p.catalog x) phase) steps outcomes)
      (failures : outcomes.filterMap errorOf? = e :: es) :
      Barriers p s (phase :: rest) x steps (.error (.syncFailed phase.text (e :: es)))

variable {p : Provisioner σ} {s : Schema} {x y : σ} {phase : Phase} {phases : List Phase}
  {requests : List Request} {steps : List Provisioner.Step} {outcomes : List (Except Error Unit)}
  {outcome : Except Error Unit}

/-! Turns. -/

theorem filterMap_started? (steps : List Provisioner.Step) :
    steps.filterMap Provisioner.Step.started? = taking .start (steps.map Provisioner.Step.move) := by
  rw [taking, List.filterMap_map]
  refine List.filterMap_congr fun step _ => ?_
  obtain ⟨turn, c, o⟩ := step
  cases turn <;> rfl

theorem map_ended? (steps : List Provisioner.Step) :
    (steps.filterMap Provisioner.Step.ended?).map Prod.fst = taking .finish (steps.map Provisioner.Step.move) := by
  rw [taking, List.filterMap_map, List.map_filterMap]
  refine List.filterMap_congr fun step _ => ?_
  obtain ⟨turn, c, o⟩ := step
  cases turn <;> rfl

/-- Recording the turns changes nothing else, and the outcomes are those of the jobs that ended. -/
theorem takeTurns_traced (p : Provisioner σ) (turns : List (Turn × Job)) (x : σ) (log : List Provisioner.Step) :
    ∃ steps, takeTurns p.traced turns (x, log) =
        ((takeTurns p turns x).1, (takeTurns p turns x).2, log ++ steps) ∧
      steps.map Provisioner.Step.move = turns ∧
      (takeTurns p turns x).1 = (steps.filterMap Provisioner.Step.ended?).map fun e => (e.1.1, e.2) := by
  induction turns generalizing x log with
  | nil => exact ⟨[], by rw [List.append_nil]; rfl, rfl, rfl⟩
  | cons m turns ih =>
    obtain ⟨turn, c⟩ := m
    cases turn with
    | start =>
      obtain ⟨steps, run, moves, done⟩ := ih (p.start c x).2 (log ++ [⟨.start, c, .ok ()⟩])
      refine ⟨⟨.start, c, .ok ()⟩ :: steps, ?_, ?_, done⟩
      · rw [List.append_assoc] at run
        exact run
      · rw [List.map_cons, moves]
        rfl
    | resume =>
      obtain ⟨steps, run, moves, done⟩ := ih (p.resume c x).2 (log ++ [⟨.resume, c, .ok ()⟩])
      refine ⟨⟨.resume, c, .ok ()⟩ :: steps, ?_, ?_, done⟩
      · rw [List.append_assoc] at run
        exact run
      · rw [List.map_cons, moves]
        rfl
    | finish =>
      obtain ⟨steps, run, moves, done⟩ := ih (p.finish c x).2 (log ++ [⟨.finish, c, (p.finish c x).1⟩])
      refine ⟨⟨.finish, c, (p.finish c x).1⟩ :: steps, ?_, ?_, ?_⟩
      · rw [List.append_assoc] at run
        exact congrArg (fun r : List (Nat × Except Error Unit) × σ × List Provisioner.Step =>
          ((c.1, (p.finish c x).1) :: r.1, r.2)) run
      · rw [List.map_cons, moves]
        rfl
      · exact congrArg ((c.1, (p.finish c x).1) :: ·) done

/-! One phase. -/

theorem numbers_nodup (requests : List Request) : ((numbered requests).map Prod.fst).Nodup := by
  rw [numbered, List.map_fst_zip (by rw [List.length_range])]
  exact List.nodup_range

/-- What ended is found again by its number, in the order of the jobs. -/
theorem perm_zip_lookup {jobs : List Job} {ended : List (Job × Except Error Unit)}
    (distinct : (jobs.map Prod.fst).Nodup) (perm : (ended.map Prod.fst).Perm jobs)
    (found : outcomes = jobs.filterMap fun c => (ended.map fun e => (e.1.1, e.2)).lookup c.1) :
    outcomes.length = jobs.length ∧ ended.Perm (jobs.zip outcomes) := by
  let done : Assoc Nat (Except Error Unit) := ended.map fun e => (e.1.1, e.2)
  let answer (c : Job) : Except Error Unit := (done.get? c.1).getD (.ok ())
  have keys : done.keys.Nodup := by
    have numbers : done.keys = (ended.map Prod.fst).map Prod.fst := by
      simp only [done, Assoc.keys, List.map_map]
      rfl
    rw [numbers]
    exact (perm.map Prod.fst).nodup_iff.mpr distinct
  have own : ∀ e ∈ ended, done.get? e.1.1 = some e.2 := fun e member =>
    Assoc.get?_of_mem keys (List.mem_map_of_mem (f := fun e : Job × Except Error Unit => (e.1.1, e.2)) member)
  have each : ∀ c ∈ jobs, done.get? c.1 = some (answer c) := by
    intro c member
    rcases List.mem_map.mp (perm.mem_iff.mpr member) with ⟨e, inside, rfl⟩
    rw [own e inside]
    simp only [answer, own e inside, Option.getD_some]
  have whole : outcomes = jobs.map answer := by
    rw [found]
    exact (List.filterMap_congr each).trans (congrFun List.filterMap_eq_map jobs)
  refine ⟨by rw [whole, List.length_map], ?_⟩
  have pairs : jobs.zip outcomes = jobs.map fun c => (c, answer c) := by
    rw [whole]
    exact List.map_prod_left_eq_zip.symm
  have same : ended = (ended.map Prod.fst).map fun c => (c, answer c) := by
    rw [List.map_map]
    refine (List.map_id _).symm.trans (List.map_congr_left fun e member => ?_)
    simp only [id, Function.comp, answer, own e member, Option.getD_some]
  rw [pairs, same]
  exact perm.map _

theorem outcomes_traced (fair : p.Fair) (requests : List Request) (x : σ) (log : List Provisioner.Step) :
    ∃ steps, Schema.outcomes p.traced requests (x, log) =
        ((Schema.outcomes p requests x).1, (Schema.outcomes p requests x).2, log ++ steps) ∧
      Attempted requests steps (Schema.outcomes p requests x).1 := by
  obtain ⟨steps, run, moves, done⟩ := takeTurns_traced p (p.schedule (numbered requests)) x log
  have answers : (Schema.outcomes p requests x).1 = (numbered requests).filterMap fun c =>
      ((steps.filterMap Provisioner.Step.ended?).map fun e => (e.1.1, e.2)).lookup c.1 := by
    rw [← done]
    rfl
  have ends : ((steps.filterMap Provisioner.Step.ended?).map Prod.fst).Perm (numbered requests) := by
    rw [map_ended?, moves]
    exact fair.ends requests
  obtain ⟨counted, ended⟩ := perm_zip_lookup (numbers_nodup requests) ends answers
  refine ⟨steps, ?_, ?_, ?_, ended, fun c member => ?_⟩
  · exact congrArg (fun r : List (Nat × Except Error Unit) × σ × List Provisioner.Step =>
      ((numbered requests).filterMap fun c => r.1.lookup c.1, r.2)) run
  · rw [counted, numbered, List.length_zip, List.length_range, Nat.min_self]
  · rw [filterMap_started?, moves]
    exact fair.starts requests
  · have order := fair.ordered requests c member
    rw [← moves] at order
    obtain ⟨pair, inside, same⟩ := List.sublist_map_iff.mp order
    obtain ⟨a, rest, rfl, first, same⟩ := List.map_eq_cons_iff.mp same.symm
    obtain ⟨b, none, rfl, second, same⟩ := List.map_eq_cons_iff.mp same
    rw [List.map_eq_nil_iff.mp same] at inside
    exact ⟨a, b, inside, first, second⟩

theorem attempted_nil : Attempted [] [] [] :=
  ⟨rfl, List.Perm.nil, List.Perm.nil, List.forall_mem_nil _⟩

/-- How a phase ends: with all its failures in the order of the jobs, if there are any. -/
def verdict (phase : Phase) (outcomes : List (Except Error Unit)) : Except Error Unit :=
  match outcomes.filterMap errorOf? with
  | [] => .ok ()
  | e :: es => .error (.syncFailed phase.text (e :: es))

theorem conclude_eq (p : Provisioner σ) (phase : Phase) (count : Nat)
    (outcomes : List (Except Error Unit)) (x : σ) :
    (conclude p phase count (outcomes.filterMap errorOf?) x).1 = verdict phase outcomes := by
  unfold verdict
  cases outcomes.filterMap errorOf? with
  | nil => rfl
  | cons e es => rfl

theorem conclude_traced (p : Provisioner σ) (phase : Phase) (count : Nat) (errors : List Error) (x : σ)
    (log : List Provisioner.Step) : conclude p.traced phase count errors (x, log) =
      ((conclude p phase count errors x).1, (conclude p phase count errors x).2, log) := by
  cases errors with
  | nil => rfl
  | cons e es => rfl

theorem runPhase_traced (fair : p.Fair) (phase : Phase) (requests : List Request) (x : σ)
    (log : List Provisioner.Step) :
    ∃ steps outcomes, runPhase p.traced phase requests (x, log) =
        ((runPhase p phase requests x).1, (runPhase p phase requests x).2, log ++ steps) ∧
      Attempted requests steps outcomes ∧ (runPhase p phase requests x).1 = verdict phase outcomes := by
  cases requests with
  | nil => exact ⟨[], [], by rw [List.append_nil]; rfl, attempted_nil, rfl⟩
  | cons r rs =>
    let y := (p.note (.ensuring phase (r :: rs).length) x).2
    obtain ⟨steps, run, attempted⟩ := outcomes_traced fair (r :: rs) y log
    have after : ∀ q : Provisioner (σ × List Provisioner.Step), q = p.traced →
        runPhase q phase (r :: rs) (x, log) =
          conclude q phase (r :: rs).length ((Schema.outcomes q (r :: rs) (y, log)).1.filterMap errorOf?)
            (Schema.outcomes q (r :: rs) (y, log)).2 := by
      rintro q rfl
      rfl
    refine ⟨steps, (Schema.outcomes p (r :: rs) y).1, ?_, attempted, conclude_eq p phase _ _ _⟩
    rw [after _ rfl, run, conclude_traced]
    rfl

/-! All phases. -/

theorem verdict_cases (phase : Phase) (outcomes : List (Except Error Unit)) :
    verdict phase outcomes = .ok () ∧ outcomes.filterMap errorOf? = [] ∨
      ∃ e es, verdict phase outcomes = .error (.syncFailed phase.text (e :: es)) ∧
        outcomes.filterMap errorOf? = e :: es := by
  unfold verdict
  cases outcomes.filterMap errorOf? with
  | nil => exact .inl ⟨rfl, rfl⟩
  | cons e es => exact .inr ⟨e, es, rfl, rfl⟩

theorem runPhases_passed {rest : List Phase} {requests : List Request}
    (same : s.requests (p.catalog x) phase = requests) (ran : runPhase p phase requests x = (.ok (), y)) :
    runPhases p s (phase :: rest) x = runPhases p s rest y := by
  subst same
  have here : p.current x = (p.catalog x, x) := rfl
  simp only [runPhases, Bind.bind, StateT.bind, here, ran]

theorem runPhases_failed {rest : List Phase} {requests : List Request} {e : Error}
    (same : s.requests (p.catalog x) phase = requests) (ran : runPhase p phase requests x = (.error e, y)) :
    runPhases p s (phase :: rest) x = (.error e, y) := by
  subst same
  have here : p.current x = (p.catalog x, x) := rfl
  simp only [runPhases, Bind.bind, StateT.bind, here, ran]
  rfl

theorem runPhases_traced (fair : p.Fair) (s : Schema) (phases : List Phase) (x : σ)
    (log : List Provisioner.Step) :
    ∃ steps outcome y, runPhases p s phases x = (outcome, y) ∧
      runPhases p.traced s phases (x, log) = (outcome, y, log ++ steps) ∧
      Barriers p s phases x steps outcome := by
  induction phases generalizing x log with
  | nil => exact ⟨[], .ok (), x, rfl, by rw [List.append_nil]; rfl, .finished⟩
  | cons phase rest ih =>
    obtain ⟨steps, outcomes, run, attempted, ends⟩ :=
      runPhase_traced fair phase (s.requests (p.catalog x) phase) x log
    have whole : runPhase p phase (s.requests (p.catalog x) phase) x =
        (verdict phase outcomes, (runPhase p phase (s.requests (p.catalog x) phase) x).2) := by
      rw [← ends]
      rfl
    rw [ends] at run
    -- the next phase begins in the state that this one left, with the turns recorded so far
    generalize (runPhase p phase (s.requests (p.catalog x) phase) x).2 = y at run whole
    rcases verdict_cases phase outcomes with ⟨passed, none⟩ | ⟨e, es, failed, failures⟩
    · rw [passed] at run whole
      obtain ⟨later, outcome, z, plain, traced, next⟩ := ih y (log ++ steps)
      refine ⟨steps ++ later, outcome, z, (runPhases_passed rfl whole).trans plain, ?_,
        .passed attempted none whole next⟩
      rw [← List.append_assoc]
      exact (runPhases_passed (p := p.traced) (x := (x, log)) rfl run).trans traced
    · rw [failed] at run whole
      exact ⟨steps, _, y, runPhases_failed rfl whole,
        runPhases_failed (p := p.traced) (x := (x, log)) rfl run, .failed attempted failures⟩

theorem errorOf?_eq_none {o : Except Error Unit} : errorOf? o = none ↔ o = .ok () := by
  cases o with
  | error e => exact iff_of_false (Option.some_ne_none e) nofun
  | ok u => exact iff_of_true rfl rfl

/-- The outcomes of a phase are those with which its jobs ended. -/
theorem Attempted.all_ok (attempted : Attempted requests steps outcomes) :
    (∀ e ∈ steps.filterMap Provisioner.Step.ended?, e.2 = .ok ()) ↔ outcomes.filterMap errorOf? = [] := by
  have lengths : (numbered requests).length = outcomes.length := by
    rw [attempted.counted, numbered, List.length_zip, List.length_range, Nat.min_self]
  have answers : ((numbered requests).zip outcomes).map Prod.snd = outcomes :=
    List.map_snd_zip (Nat.le_of_eq lengths.symm)
  rw [List.filterMap_eq_nil_iff]
  simp only [errorOf?_eq_none]
  constructor
  · intro all o member
    rw [← answers] at member
    rcases List.mem_map.mp member with ⟨e, inside, rfl⟩
    exact all e (attempted.ended.mem_iff.mpr inside)
  · intro all e member
    refine all e.2 ?_
    rw [← answers]
    exact List.mem_map_of_mem (attempted.ended.mem_iff.mp member)

theorem Barriers.ok_iff (barriers : Barriers p s phases x steps outcome) :
    outcome = .ok () ↔ ∀ e ∈ steps.filterMap Provisioner.Step.ended?, e.2 = .ok () := by
  induction barriers with
  | finished => exact iff_of_true rfl (List.forall_mem_nil _)
  | passed attempted succeeded left next ih =>
    rw [ih, List.filterMap_append, List.forall_mem_append, attempted.all_ok]
    exact (and_iff_right succeeded).symm
  | failed attempted failures =>
    refine iff_of_false nofun fun all => ?_
    rw [attempted.all_ok.mp all] at failures
    cases failures

/-- A failure is caused by the first one of its phase. -/
theorem Barriers.caused {e : Error} (barriers : Barriers p s phases x steps outcome)
    (failed : outcome = .error e) :
    ∃ phase first later, e = .syncFailed phase (first :: later) ∧ e.cause? = some first := by
  induction barriers with
  | finished => cases failed
  | passed attempted succeeded left next ih => exact ih failed
  | failed attempted failures =>
    cases failed
    exact ⟨_, _, _, rfl, rfl⟩

/-! Targets of foreign keys. -/

/-- Whether all foreign keys of a schema refer to the very members of their names. -/
def Closed (s : Schema) (cs : Catalog) : Prop :=
  ∀ c ∈ s.members, ∀ k ∈ (cs.get c).foreignKeys,
    s.find? k.target.collection.name = some k.target.collection

theorem foreignTarget?_cases (s : Schema) (cs : Catalog) :
    s.Closed cs ∧ s.foreignTarget? cs = none ∨
      ¬s.Closed cs ∧ ∃ c k, s.foreignTarget? cs = some (foreignTarget c k) := by
  have target : ∀ k, s.hasTarget k = true ↔ s.find? k.target.collection.name = some k.target.collection :=
    fun k => beq_iff_eq
  cases found : s.foreignTarget? cs with
  | none =>
    refine .inl ⟨fun c member k key => (target k).mp ?_, rfl⟩
    have fine := List.findSome?_eq_none_iff.mp found (.foreignKey c k)
      (List.mem_flatMap.mpr ⟨c, member, List.mem_map_of_mem key⟩)
    by_contra other
    simp only [Bool.not_eq_true] at other
    simp only [other, Bool.false_eq_true, if_false, reduceCtorEq] at fine
  | some e =>
    obtain ⟨r, inside, own⟩ := List.exists_of_findSome?_eq_some found
    obtain ⟨c, member, listed⟩ := List.mem_flatMap.mp inside
    rcases List.mem_map.mp listed with ⟨k, key, rfl⟩
    dsimp only at own
    split at own
    · cases own
    · rename_i other
      cases own
      exact .inr ⟨fun closed => other ((target k).mpr (closed c member k key)), c, k, rfl⟩

theorem sync_open {e : Error} (refused : s.foreignTarget? (p.catalog x) = some e) :
    s.sync p x = (.error e, x) := by
  have here : p.current x = (p.catalog x, x) := rfl
  simp only [sync, Bind.bind, StateT.bind, here, refused]
  rfl

theorem sync_closed (closed : s.foreignTarget? (p.catalog x) = none) :
    s.sync p x = runPhases p s [.collections, .indexes, .foreignKeys] x := by
  have here : p.current x = (p.catalog x, x) := rfl
  simp only [sync, Bind.bind, StateT.bind, here, closed]

/-- Nothing is provisioned for a schema with a foreign key to a collection outside. Otherwise the phases
    follow each other, each after all jobs of the one before ended with success. All is well just if no job
    failed; else the failures of one phase are reported, because of the first one. -/
theorem sync_phases (fair : p.Fair) (s : Schema) (x : σ) :
    ∃ outcome y steps, s.sync p x = (outcome, y) ∧ s.sync p.traced (x, []) = (outcome, y, steps) ∧
      (¬s.Closed (p.catalog x) → steps = [] ∧ y = x ∧ ∃ issues, outcome = .error (.validation issues)) ∧
      (s.Closed (p.catalog x) →
        Barriers p s [.collections, .indexes, .foreignKeys] x steps outcome ∧
        (outcome = .ok () ↔ ∀ e ∈ steps.filterMap Provisioner.Step.ended?, e.2 = .ok ()) ∧
        ∀ e, outcome = .error e → ∃ phase first later, e = .syncFailed phase (first :: later) ∧
          e.cause? = some first) := by
  rcases foreignTarget?_cases s (p.catalog x) with ⟨closed, none⟩ | ⟨open_, c, k, refused⟩
  · obtain ⟨steps, outcome, y, plain, traced, barriers⟩ :=
      runPhases_traced fair s [.collections, .indexes, .foreignKeys] x []
    refine ⟨outcome, y, steps, (sync_closed none).trans plain,
      (sync_closed (p := p.traced) (x := (x, [])) none).trans traced, fun other => (other closed).elim,
      fun _ => ⟨barriers, barriers.ok_iff, fun e failed => barriers.caused failed⟩⟩
  · exact ⟨_, x, [], sync_open refused, sync_open (p := p.traced) (x := (x, [])) refused,
      fun _ => ⟨rfl, rfl, _, rfl⟩, fun closed => (open_ closed).elim⟩

end Schema

namespace Shelf

def books : CollectionRef := ⟨0, "books"⟩

def readers : CollectionRef := ⟨1, "readers"⟩

def loan : CollectionForeignKey := ⟨some "loan", "reader", ⟨readers, "id"⟩⟩

def schema : Schema := ⟨[books, readers]⟩

def catalog : Catalog :=
  [{ name := "books", indexes := [⟨some "title", ["title"], false⟩, ⟨some "isbn", ["isbn"], true⟩],
     foreignKeys := [loan] },
   { name := "readers" }]

/-- All jobs start, and they end in the opposite order. -/
def backwards (jobs : List Job) : List (Turn × Job) :=
  jobs.map (fun c => (.start, c)) ++ jobs.reverse.map fun c => (.finish, c)

/-- A driver that has no indexes. -/
def provisioner : Provisioner Catalog where
  catalog cs := cs
  start _ := pure ()
  resume _ := pure ()
  finish c := pure (match c.2 with
    | .index _ i => .error (.runtime (i.name.getD ""))
    | _ => .ok ())
  note _ := pure ()
  schedule := backwards

theorem taking_map (t u : Turn) (jobs : List Job) :
    taking t (jobs.map fun c => (u, c)) = if u = t then jobs else [] := by
  rw [taking, List.filterMap_map]
  split
  · rename_i same
    simp only [Function.comp_def, same, if_true, List.filterMap_some]
  · rename_i other
    simp only [Function.comp_def, other, if_false, List.filterMap_none]

theorem fair : provisioner.Fair where
  starts requests := by
    change (taking .start (backwards _)).Perm _
    rw [backwards, taking, List.filterMap_append, ← taking, ← taking, taking_map, taking_map]
    exact (List.append_nil _).symm ▸ List.Perm.refl _
  ends requests := by
    change (taking .finish (backwards _)).Perm _
    rw [backwards, taking, List.filterMap_append, ← taking, ← taking, taking_map, taking_map]
    exact List.reverse_perm _
  ordered requests c member :=
    (List.singleton_sublist.mpr (List.mem_map_of_mem member)).append
      (List.singleton_sublist.mpr (List.mem_map_of_mem (List.mem_reverse.mpr member)))

end Shelf

/-- The collections are provisioned. The indexes fail one after the other from the last to the first, are
    reported from the first to the last, and foreign keys are not tried. -/
theorem Schema.sync_phases_shelf : ∃ y steps,
    Shelf.schema.sync Shelf.provisioner.traced (Shelf.catalog, []) =
      (.error (.syncFailed "indexes" [.runtime "title", .runtime "isbn"]), y, steps) ∧
    (steps.filterMap Provisioner.Step.ended?).map (·.1.1) = [1, 0, 1, 0] ∧
    Barriers Shelf.provisioner Shelf.schema [.collections, .indexes, .foreignKeys] Shelf.catalog steps
      (.error (.syncFailed "indexes" [.runtime "title", .runtime "isbn"])) := by
  obtain ⟨outcome, y, steps, -, traced, -, closed⟩ := sync_phases Shelf.fair Shelf.schema Shelf.catalog
  have inside : Shelf.schema.Closed Shelf.catalog := by
    refine List.forall_mem_cons.mpr ⟨?_, List.forall_mem_singleton.mpr (List.forall_mem_nil _)⟩
    exact List.forall_mem_singleton.mpr rfl
  have barriers := (closed inside).1
  cases traced
  exact ⟨_, _, rfl, rfl, barriers⟩

end ModelStore
