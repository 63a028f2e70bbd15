import ModelStore.Proofs.Workspace.Runs

/-!
Fetching from a cursor, in whatever ways its items are asked for. What it stores is taken item by item and in
order; whatever is made of an item, what is left are those after it.
-/

namespace ModelStore

/-- Whether an operation does nothing to a cursor. -/
def Run.Spares {α : Type} (a : Run α) (id : Nat) : Prop :=
  ∀ w, (a.exec w).2.cursors[id]? = w.cursors[id]?

/-- Whether an operation does nothing to a cursor but close it. -/
def Run.ClosesAtMost {α : Type} (a : Run α) (id : Nat) : Prop :=
  ∀ w, (a.exec w).2.cursors[id]? = w.cursors[id]? ∨ (a.exec w).2.cursors[id]? = some (.stored [] true)

theorem Run.Spares.closesAtMost {α : Type} {a : Run α} {id : Nat} (spares : a.Spares id) : a.ClosesAtMost id :=
  fun w => .inl (spares w)

/-- An item that was taken from a cursor, and what the transformations made of it. -/
structure Taking where
  item : Value
  made : Except Error Value

/-- The items that are handed out: those that the transformations did not fail at. -/
def Taking.handed (log : List Taking) : List Value := log.filterMap (·.made.toOption)

theorem Taking.handed_of_made {log : List Taking} {vs : List Value} (made : log.map (·.made) = vs.map .ok) :
    Taking.handed log = vs := by
  have same : Taking.handed log = (log.map (·.made)).filterMap Except.toOption := by
    rw [List.filterMap_map]
    rfl
  rw [same, made, List.filterMap_map]
  exact List.filterMap_some

/-- An iteration that hands out what was made of the items that it took. It ends where a transformation fails. -/
structure Trace.Hands (t : Trace) (log : List Taking) : Prop where
  items : t.items = Taking.handed log
  made : ∀ x ∈ log.dropLast, x.made.toBool = true
  failed : ∀ x e, log.getLast? = some x → x.made = .error e → t.outcome = .error e

theorem Trace.Hands.none {t : Trace} (nothing : t.items = []) : t.Hands [] :=
  ⟨nothing, List.forall_mem_nil _, fun _ _ none => nomatch none⟩

theorem Trace.Hands.made_one {t : Trace} {x : Value} (v : Value) (one : t.items = [x]) : t.Hands [⟨v, .ok x⟩] where
  items := one
  made := List.forall_mem_nil _
  failed := fun y e last made => by
    cases last
    cases made

theorem Trace.Hands.failed_one {t : Trace} {e : Error} (v : Value) (nothing : t.items = [])
    (failed : t.outcome = .error e) : t.Hands [⟨v, .error e⟩] where
  items := nothing
  made := List.forall_mem_nil _
  failed := fun y e last made => by
    cases last
    cases made
    exact failed

theorem Trace.Hands.cons {t : Trace} {log : List Taking} {x : Value} (v : Value) (hands : t.Hands log) :
    Trace.Hands ⟨x :: t.items, .fetch :: .handle :: t.steps, t.outcome⟩ (⟨v, .ok x⟩ :: log) where
  items := congrArg (x :: ·) hands.items
  made := by
    cases log with
    | nil => exact List.forall_mem_nil _
    | cons y log => exact List.forall_mem_cons.mpr ⟨rfl, hands.made⟩
  failed := fun y e last made => by
    cases log with
    | nil =>
      cases last
      cases made
    | cons z log => exact hands.failed y e last made

/-- A workspace with other items that a cursor has left. -/
def Workspace.withLeft (w : Workspace) (id : Nat) (items : List Value) : Workspace :=
  { w with cursors := w.cursors.set id (.stored items false) }

namespace Reader

open Run hiding ofExcept

variable {α : Type} {r : Reader} {w w' : Workspace} {items rest : List Value} {closed : Bool} {v : Value}
  {outcome : Except Error Value} {body : Nat → Value → Run Bool}

/-- What the transformations of a cursor make of an item. -/
def effect : Reader → Value → Run Value
  | stored _, v => pure v
  | mapped inner transform, v => do transform (← inner.effect v)

/-- Whether the transformations of a cursor do nothing to it, and make something of every item. -/
def Apart : Reader → Prop
  | stored _ => True
  | mapped inner transform =>
    inner.Apart ∧ ∀ v, (transform v).Spares inner.base ∧ ∀ w, ((transform v).exec w).1 ≠ .ok .none

theorem isNone_of_ne {v : Value} (some : (Except.ok v : Except Error Value) ≠ .ok .none) : v.isNone = false := by
  cases v with
  | none => exact absurd rfl some
  | _ => rfl

theorem exec_content {id : Nat} (stored : w.cursors[id]? = some (.stored items closed)) :
    (content id).exec w = (.ok (items, closed), w) := by
  rw [content, exec_bind_ok (exec_get w), exec_bind_ok (exec_found_some stored w)]
  rfl

/-! One item. -/

theorem effect_spares (apart : r.Apart) (v : Value) : (r.effect v).Spares r.base := by
  induction r generalizing v with
  | stored id => exact fun w => rfl
  | mapped inner transform ih =>
    intro w
    have first := ih apart.1 v w
    rw [effect, exec_bind]
    cases made : (inner.effect v).exec w with
    | mk outcome w₁ =>
      rw [made] at first
      cases outcome with
      | error e => exact first
      | ok x => exact ((apart.2 x).1 w₁).trans first

theorem effect_present (apart : r.Apart) (present : v.isNone = false) (w : Workspace) :
    ((r.effect v).exec w).1 ≠ .ok .none := by
  cases r with
  | stored id =>
    rintro missing
    cases missing
    cases present
  | mapped inner transform =>
    rw [effect, exec_bind]
    split
    · exact (apart.2 _).2 _
    · exact fun none => nomatch none

/-- The first item that is left is taken, and then transformed. -/
theorem exec_next_cons (apart : r.Apart) (present : v.isNone = false)
    (stored : w.cursors[r.base]? = some (.stored (v :: rest) false)) :
    r.next.exec w = (r.effect v).exec (w.withLeft r.base rest) := by
  induction r with
  | stored id =>
    exact exec_bind_ok (exec_content stored)
  | mapped inner transform ih =>
    have some := effect_present apart.1 present (w.withLeft inner.base rest)
    rw [next, exec_bind, ih apart.1 stored, effect, exec_bind, base]
    cases made : (inner.effect v).exec (w.withLeft inner.base rest) with
    | mk outcome w₁ =>
      rw [made] at some
      cases outcome with
      | error e => rfl
      | ok x =>
        have there : x.isNone = false := isNone_of_ne some
        simp only [there, Bool.false_eq_true, if_false]

theorem exec_next_end (stored : w.cursors[r.base]? = some (.stored [] closed)) : r.next.exec w = (.ok .none, w) := by
  induction r with
  | stored id =>
    exact exec_bind_ok (exec_content stored)
  | mapped inner transform ih =>
    rw [next, exec_bind_ok (ih stored)]
    rfl

/-- A cursor from which some items were not taken. A closed one does not store them any more. -/
structure Holds (r : Reader) (w : Workspace) (rest : List Value) (closed : Bool) : Prop where
  stored : w.cursors[r.base]? = some (if closed then .stored [] true else .stored rest false)
  present : ∀ v ∈ rest, v.isNone = false

theorem Holds.spared {a : Run α} (holds : r.Holds w rest closed) (spares : a.Spares r.base) :
    r.Holds (a.exec w).2 rest closed :=
  ⟨(spares w).trans holds.stored, holds.present⟩

theorem Holds.handled {a : Run α} (holds : r.Holds w rest closed) (atMost : a.ClosesAtMost r.base) :
    ∃ closed', r.Holds (a.exec w).2 rest closed' ∧ (a.Spares r.base → closed' = closed) := by
  by_cases spares : (a.exec w).2.cursors[r.base]? = w.cursors[r.base]?
  · exact ⟨closed, ⟨spares.trans holds.stored, holds.present⟩, fun _ => rfl⟩
  · exact ⟨true, ⟨(atMost w).resolve_left spares, holds.present⟩, fun all => absurd (all w) spares⟩

theorem Holds.shut (holds : r.Holds w rest closed) :
    r.Holds { w with cursors := w.cursors.set r.base (.stored [] true) } rest true :=
  ⟨List.getElem?_set_self (List.getElem?_eq_some_iff.mp holds.stored).1, holds.present⟩

/-- The next item is there and taken, or there is none. -/
theorem next_cases (apart : r.Apart) (holds : r.Holds w items closed) (done : r.next.exec w = (outcome, w')) :
    ((items = [] ∨ closed = true) ∧ outcome = .ok .none ∧ w' = w) ∨
      ∃ v rest w₁, items = v :: rest ∧ closed = false ∧ (r.effect v).exec w₁ = (outcome, w') ∧
        outcome ≠ .ok .none ∧ r.Holds w' rest false := by
  cases closed with
  | true =>
    rw [exec_next_end holds.stored] at done
    cases done
    exact .inl ⟨.inr rfl, rfl, rfl⟩
  | false =>
    cases items with
    | nil =>
      rw [exec_next_end holds.stored] at done
      cases done
      exact .inl ⟨.inl rfl, rfl, rfl⟩
    | cons v rest =>
      obtain ⟨here, present⟩ := List.forall_mem_cons.mp holds.present
      rw [exec_next_cons apart here holds.stored] at done
      have inside := (List.getElem?_eq_some_iff.mp holds.stored).1
      have left : r.Holds (w.withLeft r.base rest) rest false := ⟨List.getElem?_set_self inside, present⟩
      have some := effect_present apart here (w.withLeft r.base rest)
      have after := left.spared (effect_spares apart v)
      rw [done] at some after
      exact .inr ⟨v, rest, _, rfl, rfl, done, some, after⟩

/-! Several items. -/

/-- Items that are taken in order, each with what the transformations made of it, up to those that are left. -/
structure Takes (r : Reader) (items : List Value) (log : List Taking) (rest : List Value) : Prop where
  taken : items = log.map (·.item) ++ rest
  made : ∀ x ∈ log, ∃ w w', (r.effect x.item).exec w = (x.made, w')

theorem Takes.one (made : (r.effect v).exec w = (outcome, w')) (rest : List Value) :
    r.Takes (v :: rest) [⟨v, outcome⟩] rest :=
  ⟨rfl, fun x member => by
    cases List.mem_singleton.mp member
    exact ⟨w, w', made⟩⟩

theorem Takes.append {middle : List Value} {log log' : List Taking} (first : r.Takes items log middle)
    (second : r.Takes middle log' rest) : r.Takes items (log ++ log') rest where
  taken := by rw [first.taken, second.taken, List.map_append, List.append_assoc]
  made := fun x member => (List.mem_append.mp member).elim (first.made x) (second.made x)

/-- The same for a cursor that may be closed at first or in the end. From a closed one nothing is taken. -/
structure Draws (r : Reader) (items : List Value) (closed : Bool) (log : List Taking) (rest : List Value)
    (closed' : Bool) : Prop extends r.Takes items log rest where
  shut : closed = true → log = [] ∧ closed' = true

theorem Draws.none {closed' : Bool} (items : List Value) (shut : closed = true → closed' = true) :
    r.Draws items closed [] items closed' :=
  ⟨⟨rfl, List.forall_mem_nil _⟩, fun already => ⟨rfl, shut already⟩⟩

theorem Draws.one (made : (r.effect v).exec w = (outcome, w')) (rest : List Value) (closed' : Bool) :
    r.Draws (v :: rest) false [⟨v, outcome⟩] rest closed' :=
  ⟨.one made rest, Bool.noConfusion⟩

theorem Draws.append {middle : List Value} {log log' : List Taking} {closed₁ closed₂ : Bool}
    (first : r.Draws items closed log middle closed₁) (second : r.Draws middle closed₁ log' rest closed₂) :
    r.Draws items closed (log ++ log') rest closed₂ where
  toTakes := first.toTakes.append second.toTakes
  shut := fun already => by
    obtain ⟨rfl, still⟩ := first.shut already
    exact second.shut still

/-- A cursor that stores its items hands out just these. -/
theorem Takes.handed_stored {id : Nat} {log : List Taking} (takes : (stored id).Takes items log rest) :
    Taking.handed log = log.map (·.item) := by
  have same : ∀ x ∈ log, x.made.toOption = some x.item := by
    intro x member
    obtain ⟨w, w', made⟩ := takes.made x member
    have kept : Except.ok x.item = x.made := congrArg Prod.fst made
    rw [← kept]
    rfl
  rw [Taking.handed, List.filterMap_congr same, List.filterMap_eq_map']

/-- A loop over a cursor, item by item: each is fetched and then handled, and only then comes the next one. -/
inductive Looped (r : Reader) (body : Nat → Value → Run Bool) : Nat → Workspace → Trace → Workspace → Prop where
  | finished {n : Nat} {w w' : Workspace} (ended : r.next.exec w = (.ok .none, w')) :
      Looped r body n w ⟨[], [.finish], .ok ()⟩ w'
  | failed {n : Nat} {w w' : Workspace} {e : Error} (fetched : r.next.exec w = (.error e, w')) :
      Looped r body n w ⟨[], [], .error e⟩ w'
  | raised {n : Nat} {w w₁ w' : Workspace} {v : Value} {e : Error} (fetched : r.next.exec w = (.ok v, w₁))
      (present : v.isNone = false) (handled : (body n v).exec w₁ = (.error e, w')) :
      Looped r body n w ⟨[v], [.fetch, .handle], .error e⟩ w'
  | left {n : Nat} {w w₁ w' : Workspace} {v : Value} (fetched : r.next.exec w = (.ok v, w₁))
      (present : v.isNone = false) (handled : (body n v).exec w₁ = (.ok false, w')) :
      Looped r body n w ⟨[v], [.fetch, .handle], .ok ()⟩ w'
  | handled {n : Nat} {w w₁ w₂ w' : Workspace} {v : Value} {t : Trace} (fetched : r.next.exec w = (.ok v, w₁))
      (present : v.isNone = false) (handled : (body n v).exec w₁ = (.ok true, w₂))
      (later : Looped r body (n + 1) w₂ t w') :
      Looped r body n w ⟨v :: t.items, .fetch :: .handle :: t.steps, t.outcome⟩ w'

/-- A loop ends by itself: it takes no more items than there are. -/
theorem exec_loopFor (apart : r.Apart) (handling : ∀ n v, (body n v).ClosesAtMost r.base)
    (holds : r.Holds w rest closed) {fuel : Nat} (enough : (if closed then 0 else rest.length) < fuel) (n : Nat) :
    ∃ t w', (r.loopFor body fuel n).exec w = (.ok t, w') ∧ r.Looped body n w t w' := by
  induction fuel generalizing w rest closed n with
  | zero => omega
  | succ fuel ih =>
    cases fetched : r.next.exec w with
    | mk outcome w₁ =>
    rw [loopFor, exec_bind_ok (exec_attempt _ w), fetched]
    rcases next_cases apart holds fetched with ⟨-, rfl, rfl⟩ | ⟨v, rest, w₂, rfl, rfl, -, some, left⟩
    · exact ⟨_, w₁, rfl, .finished fetched⟩
    cases outcome with
    | error e => exact ⟨_, w₁, rfl, .failed fetched⟩
    | ok x =>
      have present := isNone_of_ne some
      obtain ⟨closed', after, -⟩ := left.handled (handling n x)
      have attempted := exec_attempt (body n x) w₁
      simp only [present, Bool.false_eq_true, if_false]
      cases handled : (body n x).exec w₁ with
      | mk answer w₂ =>
      rw [handled] at after attempted
      rw [exec_bind_ok attempted]
      cases answer with
      | error e => exact ⟨_, w₂, rfl, .raised fetched present handled⟩
      | ok goesOn =>
        cases goesOn with
        | false => exact ⟨_, w₂, rfl, .left fetched present handled⟩
        | true =>
          have fewer : (if closed' then 0 else rest.length) < fuel := by
            have bound : rest.length + 1 < fuel + 1 := enough
            split <;> omega
          obtain ⟨t, w₃, further, later⟩ := ih after fewer (n + 1)
          exact ⟨_, w₃, exec_bind_ok further, .handled fetched present handled later⟩

theorem exec_loop (apart : r.Apart) (handling : ∀ n v, (body n v).ClosesAtMost r.base)
    (holds : r.Holds w rest closed) : ∃ t w', (r.loop body).exec w = (.ok t, w') ∧ r.Looped body 1 w t w' := by
  have known : ∃ items, (content r.base).exec w = (.ok (items, closed), w) ∧
      (if closed then 0 else rest.length) < items.length + 1 := by
    cases closed with
    | true => exact ⟨[], exec_content holds.stored, Nat.lt_succ_self _⟩
    | false => exact ⟨rest, exec_content holds.stored, Nat.lt_succ_self _⟩
  obtain ⟨items, known, enough⟩ := known
  obtain ⟨t, w', done, looped⟩ := exec_loopFor apart handling holds enough 1
  exact ⟨t, w', (exec_bind_ok known).trans done, looped⟩

/-- A handler changes what it changes as the body of a loop. -/
theorem state_handled (a : Run Unit) (w : Workspace) : (exec (do a; return true) w).2 = (a.exec w).2 := by
  rw [exec_bind]
  cases a.exec w with
  | mk outcome w₁ => cases outcome <;> rfl

/-- An item that is handled is one that was taken. -/
theorem draws_handled {n : Nat} {w₁ w₂ : Workspace} {x : Value} {answer : Except Error Bool} (apart : r.Apart)
    (handling : ∀ n v, (body n v).ClosesAtMost r.base) (holds : r.Holds w items closed)
    (fetched : r.next.exec w = (.ok x, w₁)) (present : x.isNone = false)
    (handled : (body n x).exec w₁ = (answer, w₂)) :
    ∃ v rest closed', r.Draws items closed [⟨v, .ok x⟩] rest closed' ∧ r.Holds w₂ rest closed' ∧
      ((body n x).Spares r.base → closed' = closed) := by
  rcases next_cases apart holds fetched with ⟨-, none, -⟩ | ⟨v, rest, w', rfl, rfl, made, -, left⟩
  · cases none
    cases present
  · obtain ⟨closed', after, spared⟩ := left.handled (handling n x)
    rw [handled] at after
    exact ⟨v, rest, closed', .one made rest closed', after, spared⟩

/-- A loop takes the items that it handles in order, and at most one more, the transformation of which fails. -/
theorem Looped.draws {n : Nat} {t : Trace} (looped : r.Looped body n w t w') (apart : r.Apart)
    (handling : ∀ n v, (body n v).ClosesAtMost r.base) (holds : r.Holds w items closed) :
    ∃ log rest closed', r.Draws items closed log rest closed' ∧ t.Hands log ∧ r.Holds w' rest closed' ∧
      ((∀ n v, (body n v).Spares r.base) → closed' = closed) := by
  induction looped generalizing items closed with
  | finished ended =>
    rcases next_cases apart holds ended with ⟨-, -, rfl⟩ | ⟨v, rest, w₁, -, -, -, some, -⟩
    · exact ⟨[], items, closed, .none items id, .none rfl, holds, fun _ => rfl⟩
    · exact absurd rfl some
  | failed fetched =>
    rcases next_cases apart holds fetched with ⟨-, none, -⟩ | ⟨v, rest, w₁, rfl, rfl, made, -, left⟩
    · cases none
    · exact ⟨_, rest, false, .one made rest false, .failed_one v rfl rfl, left, fun _ => rfl⟩
  | raised fetched present handled | left fetched present handled =>
    obtain ⟨v, rest, closed', drawn, after, spared⟩ := draws_handled apart handling holds fetched present handled
    exact ⟨_, rest, closed', drawn, .made_one v rfl, after, fun spares => spared (spares _ _)⟩
  | handled fetched present handled later ih =>
    obtain ⟨v, rest, closed₁, drawn, after, spared⟩ := draws_handled apart handling holds fetched present handled
    obtain ⟨log, rest', closed₂, draws, hands, holds', spared'⟩ := ih after
    exact ⟨_, rest', closed₂, drawn.append draws, hands.cons v, holds',
      fun spares => (spared' spares).trans (spared (spares _ _))⟩

/-- A loop that is never left takes all items, up to the first at which a transformation fails. -/
theorem Looped.takes_all {n : Nat} {t : Trace} (looped : r.Looped body n w t w') (apart : r.Apart)
    (spares : ∀ n v, (body n v).Spares r.base) (stays : ∀ n v w, ((body n v).exec w).1 = .ok true)
    (holds : r.Holds w items false) :
    ∃ log, match t.outcome with
      | .ok () => r.Takes items log [] ∧ log.map (·.made) = t.items.map .ok
      | .error e => ∃ v rest, r.Takes items (log ++ [⟨v, .error e⟩]) rest := by
  induction looped generalizing items with
  | finished ended =>
    rcases next_cases apart holds ended with ⟨rfl | none, -⟩ | ⟨v, rest, w₁, -, -, -, some, -⟩
    · exact ⟨[], ⟨rfl, List.forall_mem_nil _⟩, rfl⟩
    · cases none
    · exact absurd rfl some
  | failed fetched =>
    rcases next_cases apart holds fetched with ⟨-, none, -⟩ | ⟨v, rest, w₁, rfl, -, made, -, -⟩
    · cases none
    · exact ⟨[], v, rest, .one made rest⟩
  | raised fetched present handled | left fetched present handled =>
    cases (congrArg Prod.fst handled).symm.trans (stays _ _ _)
  | handled fetched present handled later ih =>
    rename_i x t
    obtain ⟨v, rest, closed', drawn, after, spared⟩ :=
      draws_handled apart (fun n v => (spares n v).closesAtMost) holds fetched present handled
    cases spared (spares _ _)
    obtain ⟨log, all⟩ := ih after
    refine ⟨⟨v, .ok x⟩ :: log, ?_⟩
    cases ended : t.outcome with
    | ok _ =>
      rw [ended] at all
      exact ⟨drawn.toTakes.append all.1, congrArg (_ :: ·) all.2⟩
    | error e =>
      rw [ended] at all
      obtain ⟨v', rest', takes⟩ := all
      exact ⟨v', rest', drawn.toTakes.append takes⟩

/-- A list has the items of a loop, unless it fails as the loop does. -/
theorem exec_toList {t : Trace} (gathered : (r.each fun _ _ => return ()).exec w = (.ok t, w')) :
    r.toList.exec w = (t.outcome.map fun _ => t.items, w') := by
  rw [toList, exec_bind_ok gathered, exec_bind, exec_ofExcept]
  cases t.outcome <;> rfl

/-- The list of what is left has all of it, or else a transformation fails. -/
theorem exec_toList_takes (apart : r.Apart) (holds : r.Holds w items false) :
    ∃ log outcome w', r.toList.exec w = (outcome, w') ∧
      match outcome with
      | .ok vs => r.Takes items log [] ∧ log.map (·.made) = vs.map .ok
      | .error e => ∃ v rest, r.Takes items (log ++ [⟨v, .error e⟩]) rest := by
  have spares : ∀ (_ : Nat) (_ : Value), Run.Spares (do pure (); return true) r.base := fun _ _ _ => rfl
  obtain ⟨t, w', done, looped⟩ := exec_loop apart (fun n v => (spares n v).closesAtMost) holds
  obtain ⟨log, all⟩ := looped.takes_all apart spares (fun _ _ _ => rfl) holds
  refine ⟨log, _, w', exec_toList done, ?_⟩
  cases ended : t.outcome <;> rw [ended] at all <;> exact all

end Reader

/-- A way to use a cursor. -/
inductive Use where
  | next
  | each (handle : Nat → Value → Run Unit)
  | toList
  /-- A loop over the cursor, which may be left at any item. -/
  | iterate (body : Nat → Value → Run Bool)
  | close
  /-- The end of a block that uses the cursor. -/
  | leave (outcome : Except Error Unit)

namespace Use

open Reader
open Run hiding ofExcept Spares ClosesAtMost

/-- Uses a cursor; what was handed out is kept also if the use fails. -/
def perform (r : Reader) : Use → Run Trace
  | next => do
    match ← attempt r.next with
    | .error e => return ⟨[], [], .error e⟩
    | .ok v => if v.isNone then return ⟨[], [.finish], .ok ()⟩ else return ⟨[v], [.fetch], .ok ()⟩
  | each handle => r.each handle
  | toList => r.each fun _ _ => return ()
  | iterate body => r.loop body
  | close => do
    r.close
    return ⟨[], [], .ok ()⟩
  | leave outcome => do return ⟨[], [], ← attempt (r.leave outcome)⟩

/-- Whether a cursor is closed by its use. -/
def closes : Use → Bool
  | close | leave _ => true
  | _ => false

/-- Whether the code that is run for each item does nothing to the cursor but close it. -/
def ClosesAtMost (id : Nat) : Use → Prop
  | each handle => ∀ n v, (handle n v).ClosesAtMost id
  | iterate body => ∀ n v, (body n v).ClosesAtMost id
  | _ => True

/-- Whether nothing closes the cursor. -/
def KeepsOpen (id : Nat) : Use → Prop
  | each handle => ∀ n v, (handle n v).Spares id
  | iterate body => ∀ n v, (body n v).Spares id
  | close | leave _ => False
  | _ => True

variable {r : Reader} {w w' : Workspace} {items : List Value} {closed : Bool} {use : Use}

theorem exec_leave (holds : r.Holds w items closed) (outcome : Except Error Unit) :
    ∃ w', (r.leave outcome).exec w = (outcome, w') ∧ r.Holds w' items true := by
  cases closed with
  | true =>
    have asked : r.isClosed.exec w = (.ok true, w) := exec_bind_ok (exec_content holds.stored)
    exact ⟨w, (exec_bind_ok asked).trans (exec_ofExcept outcome w), holds⟩
  | false =>
    have asked : r.isClosed.exec w = (.ok false, w) := exec_bind_ok (exec_content holds.stored)
    exact ⟨_, (exec_bind_ok asked).trans (exec_ofExcept outcome _), holds.shut⟩

/-- Whatever the use of a cursor is, it takes items that are left, in order, and no others. -/
theorem exec_perform (apart : r.Apart) (handling : use.ClosesAtMost r.base) (holds : r.Holds w items closed) :
    ∃ t log rest closed' w', (use.perform r).exec w = (.ok t, w') ∧ r.Draws items closed log rest closed' ∧
      t.Hands log ∧ r.Holds w' rest closed' ∧ (use.closes = true → closed' = true) ∧
      (use.KeepsOpen r.base → closed' = closed) := by
  have loops : ∀ body : Nat → Value → Run Bool, (∀ n v, (body n v).ClosesAtMost r.base) →
      ∃ t log rest closed' w', (r.loop body).exec w = (.ok t, w') ∧ r.Draws items closed log rest closed' ∧
        t.Hands log ∧ r.Holds w' rest closed' ∧ ((∀ n v, (body n v).Spares r.base) → closed' = closed) := by
    intro body handling
    obtain ⟨t, w', done, looped⟩ := exec_loop apart handling holds
    obtain ⟨log, rest, closed', draws, hands, left, spared⟩ := looped.draws apart handling holds
    exact ⟨t, log, rest, closed', w', done, draws, hands, left, spared⟩
  cases use with
  | next =>
    rw [perform, exec_bind_ok (exec_attempt _ w)]
    cases done : r.next.exec w with
    | mk outcome w₁ =>
    rcases next_cases apart holds done with ⟨-, rfl, rfl⟩ | ⟨v, rest, w₂, rfl, rfl, made, some, left⟩
    · exact ⟨_, [], items, closed, w₁, rfl, .none items id, .none rfl, holds, Bool.noConfusion, fun _ => rfl⟩
    · cases outcome with
      | error e =>
        exact ⟨_, _, rest, false, w₁, rfl, .one made rest false, .failed_one v rfl rfl, left, Bool.noConfusion,
          fun _ => rfl⟩
      | ok x =>
        simp only [isNone_of_ne some, Bool.false_eq_true, if_false]
        exact ⟨_, _, rest, false, w₁, rfl, .one made rest false, .made_one v rfl, left, Bool.noConfusion,
          fun _ => rfl⟩
  | each handle =>
    obtain ⟨t, log, rest, closed', w', done, draws, hands, left, spared⟩ :=
      loops (fun n v => do handle n v; return true) fun n v w => by
        rw [state_handled]
        exact handling n v w
    refine ⟨t, log, rest, closed', w', done, draws, hands, left, Bool.noConfusion,
      fun keeps => spared fun n v w => ?_⟩
    rw [state_handled]
    exact keeps n v w
  | toList =>
    obtain ⟨t, log, rest, closed', w', done, draws, hands, left, spared⟩ :=
      loops (fun _ _ => do pure (); return true) fun _ _ _ => .inl rfl
    exact ⟨t, log, rest, closed', w', done, draws, hands, left, Bool.noConfusion, fun _ => spared fun _ _ _ => rfl⟩
  | iterate body =>
    obtain ⟨t, log, rest, closed', w', done, draws, hands, left, spared⟩ := loops body handling
    exact ⟨t, log, rest, closed', w', done, draws, hands, left, Bool.noConfusion, spared⟩
  | close =>
    exact ⟨_, [], items, true, _, rfl, .none items fun _ => rfl, .none rfl, holds.shut, fun _ => rfl, False.elim⟩
  | leave outcome =>
    obtain ⟨w', done, shut⟩ := exec_leave holds outcome
    refine ⟨⟨[], [], outcome⟩, [], items, true, w', ?_, .none items fun _ => rfl, .none rfl, shut, fun _ => rfl,
      False.elim⟩
    rw [perform, exec_bind_ok (exec_attempt _ w), done]
    rfl

end Use

namespace Run

/-- Restoring a document makes an instance of it, and does nothing else. -/
theorem restoreBy_cases {id : Nat} {v : Value} {w w' : Workspace} {outcome : Except Error Value}
    (done : (restoreBy id v).exec w = (outcome, w')) : w'.cursors = w.cursors ∧ outcome ≠ .ok .none := by
  rw [restoreBy, mapping, bind_assoc, exec_bind_ok (exec_get w)] at done
  rcases bind_cases done with ⟨e, failed, rfl⟩ | ⟨m, w₁, first, restored⟩
  · exact ⟨congrArg Workspace.cursors (found_error failed), by rintro ⟨⟩⟩
  cases (found_cases first).2
  rw [restore, exec_bind_ok (exec_get w)] at restored
  rcases bind_cases restored with ⟨e, failed, rfl⟩ | ⟨ref, w₂, second, restored⟩
  · exact ⟨congrArg Workspace.cursors (found_error failed), by rintro ⟨⟩⟩
  cases (found_cases second).2
  rcases bind_cases restored with ⟨e, failed, rfl⟩ | ⟨x, w₃, third, restored⟩
  · exact ⟨congrArg Workspace.cursors (ofExcept_cases failed).2, by rintro ⟨⟩⟩
  cases (ofExcept_cases third).2
  cases restored
  exact ⟨rfl, by rintro ⟨⟩⟩

theorem apart_restoreBy (inner id : Nat) : (Reader.mapped (.stored inner) (restoreBy id)).Apart := by
  refine ⟨trivial, fun v => ⟨fun w => ?_, fun w => (restoreBy_cases rfl).2⟩⟩
  exact congrArg (·[inner]?) (restoreBy_cases (v := v) (w := w) rfl).1

theorem content_cases {id : Nat} {w w' : Workspace} {c : List Value × Bool}
    (done : (Reader.content id).exec w = (.ok c, w')) : w' = w ∧ w.cursors[id]? = some (.stored c.1 c.2) := by
  rw [Reader.content, exec_bind_ok (exec_get w)] at done
  rcases bind_cases done with ⟨e, -, failed⟩ | ⟨cursor, w₁, first, rest⟩
  · cases failed
  obtain ⟨known, rfl⟩ := found_cases first
  cases cursor with
  | stored items closed =>
    cases rest
    exact ⟨rfl, known⟩
  | mapped inner m => cases rest

/-- A cursor of a workspace stores its items, or restores those of one that does. -/
theorem reader_cases {id : Nat} {r : Reader} {w w' : Workspace} (done : (reader id).exec w = (.ok r, w')) :
    w' = w ∧ (∃ items closed, w.cursors[r.base]? = some (.stored items closed)) ∧
      (r = .stored id ∨ ∃ inner m, r = .mapped (.stored inner) (restoreBy m)) := by
  rw [reader, exec_bind_ok (exec_get w)] at done
  rcases bind_cases done with ⟨e, -, failed⟩ | ⟨cursor, w₁, first, rest⟩
  · cases failed
  obtain ⟨known, rfl⟩ := found_cases first
  cases cursor with
  | stored items closed =>
    cases rest
    exact ⟨rfl, ⟨items, closed, known⟩, .inl rfl⟩
  | mapped inner m =>
    rcases bind_cases rest with ⟨e, -, failed⟩ | ⟨c, w₂, second, opened⟩
    · cases failed
    obtain ⟨rfl, stored⟩ := content_cases second
    cases opened
    exact ⟨rfl, ⟨c.1, c.2, stored⟩, .inr ⟨inner, m, rfl⟩⟩

/-- The transformations of the cursors of a workspace do nothing to them. -/
theorem reader_apart {id : Nat} {r : Reader} {w w' : Workspace} (done : (reader id).exec w = (.ok r, w')) :
    r.Apart := by
  obtain ⟨-, -, rfl | ⟨inner, m, rfl⟩⟩ := reader_cases done
  · trivial
  · exact apart_restoreBy inner m

end Run

/-! Numbers from a cursor, each in a list of its own. -/

namespace Numbers

/-- What wraps numbers, but for one. -/
def wrapped : Reader :=
  .mapped (.stored 0) fun
    | .int 2 => throw (.runtime "two")
    | v => return .list [v]

def numbers : List Value := [.int 1, .int 2, .int 3, .int 4, .int 5, .int 6, .int 7]

def opened : Workspace := { cursors := [.stored numbers false] }

/-- A handler that fails at its second item. -/
def fragile (n : Nat) (_ : Value) : Run Unit := if n = 2 then throw (.runtime "stop") else return ()

/-- A loop that is left at once, and at last a block that is left. -/
def uses : List Use :=
  [.next, .next, .each fragile, .iterate fun _ _ => return false, .toList, .leave (.ok ()), .next]

end Numbers

end ModelStore
