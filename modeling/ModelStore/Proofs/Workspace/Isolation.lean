import ModelStore.Proofs.Mapping.Parsing
import ModelStore.Proofs.Workspace.Calls
import ModelStore.Proofs.Workspace.Construction
import ModelStore.Proofs.Workspace.Grown
import ModelStore.Proofs.Workspace.Listing

/-!
Mappings of a hierarchy share a collection, but what one of them finds does not depend on the rows of the
others. Two runs on stores that differ in such rows only are compared step by step.
-/

namespace ModelStore

/-- Stores with the same rows of a mapping, in the same order, that know the same collections. -/
structure Mapping.Alike (m : Mapping) (s s' : Store) : Prop where
  label : s'.label = s.label
  shapes : s'.shapes = s.shapes
  rows : ∀ ref, m.collection = some ref → (s'.rows ref.name).filter m.covers = (s.rows ref.name).filter m.covers

namespace Run

variable {α β : Type} {w w' : Workspace} {a : Run α} {f : α → Run β} {driver : Nat} {evaluator : Option Nat}
  {s s' : Store} {m : Mapping} {ref : CollectionRef}

/-- Whether an operation has the same outcome with another store in a driver, and makes the same of the rest
    of the workspace. -/
def Unaffected (a : Run α) (w : Workspace) (driver : Nat) (evaluator : Option Nat) (s' : Store) : Prop :=
  a.exec (w.withStore driver evaluator s') = ((a.exec w).1, (a.exec w).2.withStore driver evaluator s')

namespace Unaffected

theorem ofExcept (x : Except Error α) : (Run.ofExcept x).Unaffected w driver evaluator s' := by
  rw [Unaffected, exec_ofExcept, exec_ofExcept]

theorem found (x : Option α) : (Run.found x).Unaffected w driver evaluator s' := by
  cases x <;> rfl

theorem bind (first : a.Unaffected w driver evaluator s')
    (next : ∀ x w₁, a.exec w = (.ok x, w₁) → (f x).Unaffected w₁ driver evaluator s') :
    (a >>= f).Unaffected w driver evaluator s' := by
  rw [Unaffected, exec_bind, exec_bind, first]
  cases done : a.exec w with
  | mk outcome w₁ =>
    cases outcome with
    | error e => rfl
    | ok x => exact next x w₁ done

theorem read {f : Workspace → Run β} (same : f (w.withStore driver evaluator s') = f w)
    (next : (f w).Unaffected w driver evaluator s') : (get >>= f).Unaffected w driver evaluator s' := by
  rw [Unaffected, exec_bind_ok (exec_get _), exec_bind_ok (exec_get w), same]
  exact next

theorem attempt (tried : a.Unaffected w driver evaluator s') :
    (Run.attempt a).Unaffected w driver evaluator s' := by
  rw [Unaffected, exec_attempt, exec_attempt, tried]

/-! Fetching from a cursor looks at no driver. -/

theorem content (id : Nat) : (Reader.content id).Unaffected w driver evaluator s' := by
  refine read rfl (bind (found _) fun c w₁ _ => ?_)
  cases c <;> rfl

theorem restoreBy (id : Nat) (document : Value) : (Run.restoreBy id document).Unaffected w driver evaluator s' := by
  refine bind (read rfl (found _)) fun m w₁ _ => read rfl (bind (found _) fun ref w₂ _ => ?_)
  exact bind (ofExcept _) fun x w₃ _ => rfl

/-- A cursor whose transformations look at no driver. -/
def Blind (driver : Nat) (evaluator : Option Nat) (s' : Store) : Reader → Prop
  | .stored _ => True
  | .mapped inner transform =>
    Blind driver evaluator s' inner ∧ ∀ v w, (transform v).Unaffected w driver evaluator s'

theorem next {r : Reader} (blind : Blind driver evaluator s' r) : r.next.Unaffected w driver evaluator s' := by
  induction r generalizing w with
  | stored id =>
    refine bind (content id) fun c w₁ _ => ?_
    obtain ⟨items, closed⟩ := c
    cases items with
    | nil => rfl
    | cons v vs => cases closed <;> rfl
  | mapped inner transform ih =>
    refine bind (ih blind.1) fun v w₁ _ => ?_
    split
    · rfl
    · exact blind.2 v w₁

theorem loopFor {r : Reader} {body : Nat → Value → Run Bool} (blind : Blind driver evaluator s' r)
    (handling : ∀ n v w, (body n v).Unaffected w driver evaluator s') (fuel count : Nat) :
    (r.loopFor body fuel count).Unaffected w driver evaluator s' := by
  -- the workspace changes with each result that is fetched
  induction fuel generalizing w count with
  | zero => rfl
  | succ fuel ih =>
    refine bind (attempt (next blind)) fun outcome w₁ _ => ?_
    cases outcome with
    | error e => rfl
    | ok v =>
      dsimp only
      split
      · rfl
      · refine bind (attempt (handling count v w₁)) fun answer w₂ _ => ?_
        split
        · rfl
        · rfl
        · exact bind (ih (count + 1)) fun t w₃ _ => rfl

theorem blind_of_reader {id : Nat} {r : Reader} (known : (Run.reader id).exec w = (.ok r, w')) :
    Blind driver evaluator s' r := by
  obtain ⟨-, -, rfl | ⟨inner, m, rfl⟩⟩ := reader_cases known
  · trivial
  · exact ⟨trivial, fun v w => restoreBy m v⟩

theorem reader (id : Nat) : (Run.reader id).Unaffected w driver evaluator s' := by
  refine read rfl (bind (found _) fun c w₁ _ => ?_)
  cases c with
  | stored items closed => rfl
  | mapped inner mapping => exact bind (content inner) fun c w₂ _ => rfl

theorem each (id : Nat) (handle : Nat → Value → Except Error Unit) :
    (Run.each id handle).Unaffected w driver evaluator s' := by
  refine bind (reader id) fun r w₁ known => ?_
  have handling : ∀ n v w,
      Run.Unaffected (do Run.ofExcept (handle n v); return true) w driver evaluator s' :=
    fun n v w => bind (ofExcept _) fun _ w₂ _ => rfl
  exact bind (content _) fun c w₂ _ => loopFor (blind_of_reader known) handling _ 1

/-! Asking for instances looks at one store, and there at no other rows than those of the mapping. -/

theorem parse (collected : m.collection = some ref) (filter : Value) (o : FindOptions) :
    (Run.parse m filter o).Unaffected w driver evaluator s' := by
  have collection : (collectionOf m).Unaffected w driver evaluator s' := by
    rw [collectionOf, collected]
    rfl
  exact bind collection fun ref w₁ _ => bind (ofExcept _) fun q w₂ _ => rfl

theorem findDocuments {q : Query} (driven : w.drivers[driver]? = some (.memory s evaluator))
    (same : s'.select w.layout.collections (w.evaluatorOf (.memory s evaluator)) q =
      s.select w.layout.collections (w.evaluatorOf (.memory s evaluator)) q) :
    (Run.findDocuments driver q).Unaffected w driver evaluator s' := by
  have found : Driver.find (.memory s' evaluator) w.layout.collections (w.evaluatorOf (.memory s' evaluator)) q =
      Driver.find (.memory s evaluator) w.layout.collections (w.evaluatorOf (.memory s evaluator)) q := by
    rw [w.evaluatorOf_memory s' s]
    exact congrArg (List.map _ <$> ·) same
  rw [Unaffected, exec_findDocuments driven, exec_findDocuments (Workspace.driven_withStore driven s')]
  exact congrArg (·, w.withStore driver evaluator s') found

variable {schema : Nat}

theorem findEntities (own : m.Sound schema) (collected : m.collection = some ref)
    (driven : w.drivers[m.driver]? = some (.memory s evaluator))
    (equal : (w.evaluatorOf (.memory s evaluator)).Equates) (alike : m.Alike s s') (filter options : Value) :
    (Run.findEntities m filter options).Unaffected w m.driver evaluator s' := by
  unfold Run.findEntities
  split
  · rfl
  refine bind (ofExcept _) fun o w₁ prepared => ?_
  obtain ⟨-, rfl⟩ := ofExcept_cases prepared
  refine bind (parse collected filter o) fun q w₂ read => ?_
  obtain ⟨parsed, rfl⟩ := parse_cases collected read
  obtain ⟨stored, -⟩ := Mapping.parse_cases own parsed
  -- the query is of the collection of the mapping, where the stores agree on what is covered
  have same : (s'.rows q.collection.name).filter m.covers = (s.rows q.collection.name).filter m.covers :=
    stored ▸ alike.rows ref collected
  have documents : (Run.findDocuments m.driver q).Unaffected (noted w₁ m q) m.driver evaluator s' :=
    findDocuments driven (Store.select_congr alike.label alike.shapes same fun row =>
      Mapping.refused_of_parse own equal parsed)
  refine bind (bind documents fun found w₃ _ => rfl) fun h w₃ _ => ?_
  cases h <;> rfl

end Unaffected

/-- Asks for instances and hands all that are found to a handler, one by one. -/
def readEach (m : Mapping) (filter options : Value) (handle : Nat → Value → Except Error Unit) : Run Trace := do
  match ← findEntities m filter options with
  | .object (.cursor _ id) => each id handle
  | _ => return ⟨[], [], .ok ()⟩

/-- What a mapping finds does not depend on the rows that it does not cover: the filter may fail, or open a
    cursor, and what that yields may fail as well. None of those rows is under the cursor, and of none anything
    but the restrictions to the discriminator values is tested. -/
theorem find_isolated (grown : w.Grown) (known : m ∈ w.layout.mappings) (hierarchy : m.isHierarchy = true)
    (driven : w.drivers[m.driver]? = some (.memory s evaluator))
    (equal : (w.evaluatorOf (.memory s evaluator)).Equates) (alike : m.Alike s s') (filter options : Value) :
    (findEntities m filter options).Unaffected w m.driver evaluator s' ∧
      (∀ handle, (readEach m filter options handle).Unaffected w m.driver evaluator s') ∧
      ∃ ref, m.collection = some ref ∧
        (∀ v w', (findEntities m filter options).exec w = (.ok v, w') →
          ∃ rows : List Row, rows.Subperm ((s.rows ref.name).filter m.covers) ∧
            v = .object (.cursor true (w.cursors.length + 1)) ∧
            w'.cursors = w.cursors ++
              [.stored (rows.map (·.document ref.name)) false, .mapped w.cursors.length m.id]) ∧
        ∀ o q row, m.parse ref filter o = .ok q → m.covers row = false →
          (w.evaluatorOf (.memory s evaluator)).satisfies row.columnOf q.whereClause = .ok false ∧
          (w.evaluatorOf (.memory s evaluator)).tested row.columnOf q.whereClause =
            (w.evaluatorOf (.memory s evaluator)).tested row.columnOf (.and m.restrictions) := by
  obtain ⟨own, ref, collected⟩ := grown.sound m known (beq_iff_eq.mp hierarchy)
  have found := Unaffected.findEntities own collected driven equal alike filter options
  refine ⟨found, fun handle => ?_, ref, collected, fun v w' done => ?_, fun o q row parsed outside => ?_⟩
  · refine found.bind fun v w₁ _ => ?_
    split
    · exact Unaffected.each _ handle
    · rfl
  · obtain ⟨o, q, documents, -, parsed, listed, rfl, rfl⟩ := findEntities_cases hierarchy collected driven done
    obtain ⟨rows, part, rfl⟩ := Mapping.documents_of_parse own equal parsed listed
    exact ⟨rows, part, rfl, rfl⟩
  · exact ⟨Mapping.refused_of_parse own equal parsed outside, Mapping.tested_of_parse own equal parsed outside⟩

end Run

/-! The cars of a fleet that also has trucks. -/

namespace Fleet

def all : Workspace := Run.after [Run.declare vehicles, Run.declare (cars "doors")] opened

def row (kind number : String) (doors : Value) : Row :=
  [("kind", .str kind), ("number", .str number), ("doors", doors)]

/-- Two cars, and a truck with any value for the column of the cars. -/
def lot (doors : Value) : Store :=
  (({ label := "InMemoryDriver" } : Store).ensureCollection ⟨0, "vehicle"⟩).setRows "vehicle"
    [row "car" "A 1" (.int 5), row "truck" "B 2" doors, row "car" "C 3" (.int 3)]

def parked : Workspace := { all with drivers := [.memory (lot (.str "many")) none] }

/-- More than two doors, or any plate but one; the first of these by their doors. -/
def wide : Value :=
  .dict [(.str "$or", .list [.dict [(.str "doors", .dict [(.str "$gt", .int 2)])],
    .dict [(.str "$not", .dict [(.str "plate", .str "A 1")])]])]

def byDoors : Value :=
  .dict [(.str "order_by", .list [.dict [(.str "field", .str "doors")]]), (.str "limit", .int 1)]

theorem parked_grown : parked.Grown := by
  have both : all.Grown := by
    refine .declared (d := cars "doors") (.declared (w := opened) (d := vehicles) (.start rfl) ?_) ?_
    all_goals decide +kernel
  exact .other both rfl

end Fleet

/-- The doors of the truck, which cannot be compared with a number, do not show among the cars. -/
theorem Run.find_isolated_cars : ∃ m, Fleet.parked.layout.mappings[1]? = some m ∧
    m.Alike (Fleet.lot (.str "many")) (Fleet.lot (.int 4)) ∧
    (readEach m Fleet.wide Fleet.byDoors fun _ _ => .ok ()).Unaffected Fleet.parked 0 none (Fleet.lot (.int 4)) ∧
    ((readEach m Fleet.wide Fleet.byDoors fun _ _ => .ok ()).exec Fleet.parked).1.toOption.map
      (·.items.length) = some 1 := by
  have there : (Fleet.parked.layout.mappings[1]?).isSome = true := by decide +kernel
  obtain ⟨m, found⟩ := Option.isSome_iff_exists.mp there
  have facts : (Fleet.parked.layout.mappings[1]?).all (fun m => m.isHierarchy && m.driver == 0 &&
      m.collection == some ⟨0, "vehicle"⟩ && m.covers (Fleet.row "car" "A 1" (.int 5)) &&
      m.covers (Fleet.row "car" "C 3" (.int 3)) && !m.covers (Fleet.row "truck" "B 2" (.str "many")) &&
      !m.covers (Fleet.row "truck" "B 2" (.int 4))) = true := by
    decide +kernel
  have one : (Fleet.parked.layout.mappings[1]?).all (fun m =>
      ((readEach m Fleet.wide Fleet.byDoors fun _ _ => .ok ()).exec Fleet.parked).1.toOption.map
        (·.items.length) == some 1) = true := by
    decide +kernel
  rw [found, Option.all_some] at facts one
  simp only [Bool.and_eq_true, Bool.not_eq_true', beq_iff_eq] at facts
  obtain ⟨⟨⟨⟨⟨⟨hierarchy, driver⟩, collected⟩, first⟩, last⟩, outside⟩, outside'⟩ := facts
  have alike : m.Alike (Fleet.lot (.str "many")) (Fleet.lot (.int 4)) := by
    refine ⟨rfl, rfl, fun ref stored => ?_⟩
    cases collected.symm.trans stored
    have rows : ∀ doors, (Fleet.lot doors).rows "vehicle" =
        [Fleet.row "car" "A 1" (.int 5), Fleet.row "truck" "B 2" doors, Fleet.row "car" "C 3" (.int 3)] :=
      fun _ => rfl
    rw [rows, rows]
    simp only [List.filter_cons, first, last, outside, outside', if_true, Bool.false_eq_true, if_false]
  have driven : Fleet.parked.drivers[m.driver]? = some (.memory (Fleet.lot (.str "many")) none) := by
    rw [driver]
    rfl
  obtain ⟨-, each, -⟩ := find_isolated Fleet.parked_grown (List.mem_of_getElem? found) hierarchy driven
    Evaluator.default_equates alike Fleet.wide Fleet.byDoors
  rw [driver] at each
  exact ⟨m, found, alike, each _, beq_iff_eq.mp one⟩

end ModelStore
