import Mathlib
import Mathlib.Data.List.Forall2
import ModelStore.Proofs.Workspace.Fetching

/-!
Listing instances. A cursor over documents that can all be restored yields their instances in order, and
the list of them is what a filter finds.
-/

namespace ModelStore

theorem getElem?_middle {α : Type} (before after : List α) (a : α) :
    (before ++ a :: after)[before.length]? = some a := by
  rw [List.getElem?_append_right (Nat.le_refl _), Nat.sub_self, List.getElem?_cons_zero]

/-- A cursor of a mapping with documents that are left. -/
structure Workspace.Pending (w : Workspace) (m : Mapping) (id inner : Nat) (documents : List Value) :
    Prop where
  outer : w.cursors[id]? = some (.mapped inner m.id)
  stored : w.cursors[inner]? = some (.stored documents false)
  known : w.layout.mappings[m.id]? = some m

/-- A workspace with a cursor of a mapping over documents. -/
def Workspace.withCursor (w : Workspace) (m : Mapping) (documents : List Value) : Workspace :=
  { w with cursors := (w.cursors ++ [.stored documents false]) ++ [.mapped w.cursors.length m.id] }

/-- Workspaces that differ at most in what searches leave behind. -/
structure Workspace.Stays (w w' : Workspace) : Prop where
  layout : w'.layout = w.layout
  drivers : w'.drivers = w.drivers
  evaluators : w'.evaluators = w.evaluators

namespace Workspace.Stays

variable {w w' w'' : Workspace}

theorem refl (w : Workspace) : w.Stays w := ⟨rfl, rfl, rfl⟩

theorem trans (first : w.Stays w') (next : w'.Stays w'') : w.Stays w'' :=
  ⟨next.layout.trans first.layout, next.drivers.trans first.drivers, next.evaluators.trans first.evaluators⟩

end Workspace.Stays

namespace Run

variable {w w' : Workspace} {m : Mapping} {ref : CollectionRef} {id inner : Nat} {v : Value}
  {vs : List Value} {x : Entity} {xs : List Entity}

/-- The values that stand for instances with the numbers from `n` on. -/
def entityValues : Nat → List Entity → List Value
  | _, [] => []
  | n, x :: xs => .object (.entity n x.model.name) :: entityValues (n + 1) xs

/-- The instance that a value stands for. -/
def entityAt? (w : Workspace) : Value → Option Entity
  | .object (.entity id _) => w.entities[id]?
  | _ => none

/-- The instances that an operation lists. -/
def entitiesOf (r : Except Error (List Value) × Workspace) : Option (List Entity) :=
  match r.1 with
  | .ok vs => vs.mapM (entityAt? r.2)
  | .error _ => none

/-- All instances that a filter finds. -/
def listEntities (m : Mapping) (filter : Value) : Run (List Value) := do
  match ← findEntities m filter .none with
  | .object (.cursor _ id) => toList id
  | _ => return []

theorem mapM_entityValues (before : List Entity) (entities : w.entities = before ++ xs) :
    (entityValues before.length xs).mapM (entityAt? w) = some xs := by
  induction xs generalizing before with
  | nil => rfl
  | cons x xs ih =>
    have rest := ih (before ++ [x]) (entities.trans (List.append_cons before x xs))
    rw [List.length_append] at rest
    rw [entityValues, List.mapM_cons, entityAt?, entities, getElem?_middle before xs x]
    exact congrArg (·.bind fun xs => some (x :: xs)) rest

theorem exec_reader {documents : List Value} (pending : w.Pending m id inner documents) :
    (reader id).exec w = (.ok (.mapped (.stored inner) (restoreBy m.id)), w) := by
  rw [reader, exec_bind_ok (exec_get w), exec_bind_ok (exec_found_some pending.outer w)]
  exact exec_bind_ok (Reader.exec_content pending.stored)

/-- The next document is taken, and then restored. -/
theorem exec_next_eq {documents : List Value} (pending : w.Pending m id inner (v :: documents))
    (present : v.isNone = false) :
    (Reader.mapped (.stored inner) (restoreBy m.id)).next.exec w = (restore m v).exec (w.withLeft inner documents) := by
  have mapped : (mapping m.id).exec (w.withLeft inner documents) = (.ok m, w.withLeft inner documents) := by
    rw [mapping, exec_bind_ok (exec_get _)]
    exact exec_found_some pending.known _
  rw [Reader.exec_next_cons (apart_restoreBy inner m.id) present pending.stored]
  exact exec_bind_ok mapped

theorem exec_next {documents : List Value} (pending : w.Pending m id inner (v :: documents))
    (collected : m.collection = some ref) (present : v.isNone = false)
    (restored : w.layout.restore m ref v = .ok x) :
    ∃ w', (Reader.mapped (.stored inner) (restoreBy m.id)).next.exec w =
        (.ok (.object (.entity w.entities.length x.model.name)), w') ∧
      w'.Pending m id inner documents ∧ w.Stays w' ∧ w'.entities = w.entities ++ [x] := by
  have apart : inner ≠ id := by
    rintro rfl
    cases pending.outer.symm.trans pending.stored
  have low := (List.getElem?_eq_some_iff.mp pending.stored).1
  let w₁ : Workspace := w.withLeft inner documents
  refine ⟨{ w₁ with entities := w.entities ++ [x] }, ?_, ⟨?_, List.getElem?_set_self low, pending.known⟩,
    ⟨rfl, rfl, rfl⟩, rfl⟩
  · rw [exec_next_eq pending present]
    exact exec_restore (w := w₁) collected restored
  · show (w.cursors.set inner _)[id]? = _
    rw [List.getElem?_set_ne apart, pending.outer]

/-- Documents and the instances that they are restored as. -/
abbrev Restored (l : Layout) (m : Mapping) (ref : CollectionRef) (documents : List Value) (xs : List Entity) :
    Prop :=
  List.Forall₂ (fun v x => v.isNone = false ∧ l.restore m ref v = .ok x) documents xs

theorem exec_loopFor {documents : List Value} (collected : m.collection = some ref)
    (restored : Restored w.layout m ref documents xs) (pending : w.Pending m id inner documents)
    (count : Nat) :
    ∃ steps w', ((Reader.mapped (.stored inner) (restoreBy m.id)).loopFor (fun _ _ => do pure (); return true)
        (documents.length + 1) count).exec w =
        (.ok ⟨entityValues w.entities.length xs, steps, .ok ()⟩, w') ∧
      w.Stays w' ∧ w'.entities = w.entities ++ xs := by
  generalize same : w.layout = l at restored
  induction restored generalizing w count with
  | nil =>
    have ended := Reader.exec_next_end (r := .mapped (.stored inner) (restoreBy m.id)) pending.stored
    refine ⟨[.finish], w, ?_, .refl w, (List.append_nil _).symm⟩
    rw [Reader.loopFor, exec_bind_ok (exec_attempt _ w), ended]
    rfl
  | cons first rest ih =>
    rename_i v x documents xs
    obtain ⟨present, restored⟩ := first
    rw [← same] at restored
    obtain ⟨w₁, done, pending', stays, entities⟩ := exec_next pending collected present restored
    obtain ⟨steps, w₂, last, stays', entities'⟩ := ih pending' (count + 1) (stays.layout.trans same)
    refine ⟨.fetch :: .handle :: steps, w₂, ?_, stays.trans stays', ?_⟩
    · rw [List.length_cons, Reader.loopFor, exec_bind_ok (exec_attempt _ w), done]
      refine (exec_bind_ok (exec_attempt _ w₁)).trans ((exec_bind_ok last).trans ?_)
      rw [entities, List.length_append]
      rfl
    · rw [entities', entities, List.append_assoc]
      rfl

theorem pending_withCursor (documents : List Value) (known : w.layout.mappings[m.id]? = some m) :
    (w.withCursor m documents).Pending m (w.cursors.length + 1) w.cursors.length documents := by
  refine ⟨?_, ?_, known⟩
  · have next : (w.cursors ++ [Cursor.stored documents false]).length = w.cursors.length + 1 := by
      rw [List.length_append, List.length_singleton]
    show ((w.cursors ++ [_]) ++ [_])[w.cursors.length + 1]? = _
    rw [← next]
    exact List.getElem?_concat_length
  · show ((w.cursors ++ [_]) ++ [_])[w.cursors.length]? = _
    rw [List.append_assoc]
    exact getElem?_middle ..

theorem exec_toList_of_loop {documents : List Value} {t : Trace} (pending : w.Pending m id inner documents)
    (done : ((Reader.mapped (.stored inner) (restoreBy m.id)).loopFor (fun _ _ => do pure (); return true)
      (documents.length + 1) 1).exec w = (.ok t, w')) :
    (toList id).exec w = (t.outcome.map fun _ => t.items, w') := by
  rw [toList, exec_bind_ok (exec_reader pending)]
  exact Reader.exec_toList ((exec_bind_ok (Reader.exec_content pending.stored)).trans done)

theorem exec_toList {documents : List Value} (collected : m.collection = some ref)
    (restored : Restored w.layout m ref documents xs) (pending : w.Pending m id inner documents) :
    ∃ w', (toList id).exec w = (.ok (entityValues w.entities.length xs), w') ∧
      w.Stays w' ∧ w'.entities = w.entities ++ xs := by
  obtain ⟨steps, w', done, left⟩ := exec_loopFor collected restored pending 1
  exact ⟨w', exec_toList_of_loop pending done, left⟩

/-- A cursor over the documents that are found, as instances. -/
theorem exec_findEntities {filter options : Value} {o : FindOptions} {q : Query} {d : Driver}
    {documents : List Value} (hierarchy : m.isHierarchy = true) (collected : m.collection = some ref)
    (prepared : m.prepareOptions options = .ok o) (parsed : m.parse ref filter o = .ok q)
    (driven : w.drivers[m.driver]? = some d)
    (found : d.find w.layout.collections (w.evaluatorOf d) q = .ok documents) :
    (findEntities m filter options).exec w =
      (.ok (.object (.cursor true (w.cursors.length + 1))), (noted w m q).withCursor m documents) := by
  let w₁ : Workspace := { noted w m q with cursors := w.cursors ++ [.stored documents false] }
  have first : (find m.driver q).exec (noted w m q) = (.ok (.cursor false w.cursors.length), w₁) := by
    have documents_ : (findDocuments m.driver q).exec (noted w m q) = (.ok documents, noted w m q) :=
      (exec_findDocuments (w := noted w m q) driven q).trans (congrArg (·, noted w m q) found)
    rw [find, exec_bind_ok documents_]
    rfl
  have next : w₁.cursors.length = w.cursors.length + 1 := by
    rw [List.length_append, List.length_singleton]
  unfold findEntities
  simp only [hierarchy, Bool.not_true, Bool.false_eq_true, if_false]
  rw [prepared, exec_bind_ok (exec_ofExcept _ w), exec_bind_ok (exec_parse collected parsed w),
    exec_bind_ok first]
  dsimp only
  rw [exec_map, ← next]
  rfl

/-- The documents that are found become the instances that are listed. -/
theorem exec_listed {filter options : Value} {o : FindOptions} {q : Query} {d : Driver} {documents : List Value}
    (hierarchy : m.isHierarchy = true) (collected : m.collection = some ref)
    (known : w.layout.mappings[m.id]? = some m) (prepared : m.prepareOptions options = .ok o)
    (parsed : m.parse ref filter o = .ok q) (driven : w.drivers[m.driver]? = some d)
    (found : d.find w.layout.collections (w.evaluatorOf d) q = .ok documents)
    (restored : Restored w.layout m ref documents xs) :
    ∃ id w₁ w₂, (findEntities m filter options).exec w = (.ok (.object (.cursor true id)), w₁) ∧
      (toList id).exec w₁ = (.ok (entityValues w.entities.length xs), w₂) ∧ w.Stays w₂ ∧
      w₂.entities = w.entities ++ xs := by
  have opened := exec_findEntities hierarchy collected prepared parsed driven found
  have before : w.Stays ((noted w m q).withCursor m documents) := ⟨rfl, rfl, rfl⟩
  have pending := pending_withCursor (w := noted w m q) documents known
  obtain ⟨w₂, listed, stays, entities⟩ :=
    exec_toList (w := (noted w m q).withCursor m documents) collected restored pending
  exact ⟨_, _, w₂, opened, listed, before.trans stays, entities⟩

theorem exec_listEntities {filter : Value} {q : Query} {d : Driver} {documents : List Value}
    (hierarchy : m.isHierarchy = true) (collected : m.collection = some ref)
    (known : w.layout.mappings[m.id]? = some m) (parsed : m.parse ref filter {} = .ok q)
    (driven : w.drivers[m.driver]? = some d)
    (found : d.find w.layout.collections (w.evaluatorOf d) q = .ok documents)
    (restored : Restored w.layout m ref documents xs) :
    entitiesOf ((listEntities m filter).exec w) = some xs := by
  have asked : m.prepareOptions .none = .ok {} := rfl
  obtain ⟨id, w₁, w₂, opened, listed, -, entities⟩ :=
    exec_listed hierarchy collected known asked parsed driven found restored
  have all : (listEntities m filter).exec w = (.ok (entityValues w.entities.length xs), w₂) := by
    rw [listEntities, exec_bind_ok opened]
    exact listed
  rw [all, entitiesOf]
  exact mapM_entityValues w.entities entities

end Run

end ModelStore
