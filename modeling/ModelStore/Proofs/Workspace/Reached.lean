import ModelStore.Proofs.Mapping.Regular
import ModelStore.Proofs.Workspace.Declaring

/-!
What the mappings of a hierarchy make of their collection. Instances are created, saved and removed through
them, transactions end, and further mappings are declared: all rows stay regular.
-/

namespace ModelStore

variable {l : Layout} {driver schema : Nat} {ref : CollectionRef} {c : Collection} {s s' : Store}
  {m own : Mapping} {x : Entity} {row key : Row}

/-- A store that knows a collection, and of which all rows of the collection are regular. -/
structure Store.Regular (s : Store) (l : Layout) (ref : CollectionRef) : Prop where
  provisioned : s.shapes.get? ref.name = some ref
  working : ∀ row ∈ s.rows ref.name, l.Regular ref row
  committed : ∀ row ∈ Store.rowsOf s.committed ref.name, l.Regular ref row

namespace Store.Regular

theorem setRows {rows : List Row} (kept : s.Regular l ref) (regular : ∀ row ∈ rows, l.Regular ref row) :
    (s.setRows ref.name rows).Regular l ref where
  provisioned := kept.provisioned
  working := by
    rw [rows_setRows, if_pos (beq_self_eq_true _)]
    exact regular
  committed := kept.committed

theorem commit (kept : s.Regular l ref) : s.commit.Regular l ref :=
  ⟨kept.provisioned, kept.working, kept.working⟩

theorem rollback (kept : s.Regular l ref) : s.rollback.Regular l ref :=
  ⟨kept.provisioned, kept.committed, kept.committed⟩

theorem create {outcome : Except Error Row} (kept : s.Regular l ref)
    (hierarchy : l.Hierarchy driver schema ref) (uniform : l.Uniform ref) (stores : l.Stores schema ref c)
    (member : own ∈ l.family ref) (typed : own.Typed x true) (written : own.rowOf l ref.name x true = .ok row)
    (made : s.create l.collections (.str ref.name) row.toEntries = (outcome, s')) : s'.Regular l ref := by
  cases outcome with
  | error e =>
    obtain ⟨sequences, rfl⟩ := create_error made
    exact ⟨kept.provisioned, kept.working, kept.committed⟩
  | ok created =>
    obtain ⟨creates, -, sequences, rfl⟩ :=
      hierarchy.declared.sound.creates_of_create member stores kept.provisioned written made
    have same : ({ s with sequences } : Store).Regular l ref :=
      ⟨kept.provisioned, kept.working, kept.committed⟩
    refine same.setRows fun r inside => ?_
    rcases List.mem_append.mp inside with old | new
    · exact kept.working r old
    · rw [List.mem_singleton.mp new]
      exact hierarchy.regular_of_creates uniform stores member typed creates

theorem save (kept : s.Regular l ref) (hierarchy : l.Hierarchy driver schema ref) (uniform : l.Uniform ref)
    (stores : l.Stores schema ref c) (member : own ∈ l.family ref) (typed : own.Typed x false)
    (written : own.rowOf l ref.name x false = .ok row) (keyed : own.keyOf row = .ok key)
    (made : s.save l.collections (.str ref.name) key.toEntries (Mapping.changes row key).toEntries = .ok s') :
    s'.Regular l ref := by
  obtain ⟨d, before, old, after, new, shaped, rows, -, overlay, rfl⟩ := save_cases made
  cases (shape_of_get? kept.provisioned).symm.trans shaped
  rw [stores.get_eq] at overlay
  have writes := hierarchy.declared.sound.writes_of_rowOf member stores written
  have there := kept.working
  rw [rows] at there
  refine kept.setRows fun r inside => ?_
  rcases List.mem_append.mp inside with first | rest
  · exact there r (List.mem_append_left _ first)
  · rcases List.mem_cons.mp rest with rfl | last
    · have regular := there old (List.mem_append_right _ (List.mem_cons_self ..))
      exact hierarchy.regular_of_saves uniform stores member typed writes keyed regular overlay
    · exact there r (List.mem_append_right _ (List.mem_cons_of_mem _ last))

theorem remove {entries : List (Value × Value)} (kept : s.Regular l ref)
    (made : s.remove l.collections (.str ref.name) entries = .ok s') : s'.Regular l ref := by
  obtain ⟨before, old, after, rows, rfl⟩ := remove_cases made
  have there := kept.working
  rw [rows] at there
  refine kept.setRows fun r inside => ?_
  rcases List.mem_append.mp inside with first | last
  · exact there r (List.mem_append_left _ first)
  · exact there r (List.mem_append_right _ (List.mem_cons_of_mem _ last))

end Store.Regular

namespace Workspace

open Run

/-- Whether a driver of another workspace has the same table under a name. -/
def SameTable (w w' : Workspace) (driver : Nat) (name : String) : Prop :=
  ∀ s evaluator, w.drivers[driver]? = some (.memory s evaluator) →
    ∃ s' evaluator', w'.drivers[driver]? = some (.memory s' evaluator') ∧
      s'.shapes.get? name = s.shapes.get? name ∧ s'.rows name = s.rows name ∧
      Store.rowsOf s'.committed name = Store.rowsOf s.committed name

theorem driven_of_set {w w' : Workspace} {d d' : Driver} (driven : w.drivers[driver]? = some d)
    (drivers : w'.drivers = w.drivers.set driver d') : w'.drivers[driver]? = some d' := by
  rw [drivers]
  exact List.getElem?_set_self (List.getElem?_eq_some_iff.mp driven).1

/-! What one operation through a mapping of a hierarchy makes of the driver. -/

section Operations

variable {w w' : Workspace} {s : Store} {evaluator : Option Nat} {id : Nat} {name : String}
  {outcome : Except Error Unit}

theorem create_cases (declared : w.layout.Declared driver schema) (member : m ∈ w.layout.family ref)
    (driven : w.drivers[driver]? = some (.memory s evaluator)) (given : w.entities[id]? = some x)
    (done : (createEntity m (.object (.entity id name))).exec w = (outcome, w')) :
    w' = w ∨ ∃ own row answer s', w.layout.mappingFor m x = .ok own ∧ own ∈ w.layout.family ref ∧
      own.rowOf w.layout ref.name x true = .ok row ∧
      s.create w.layout.collections (.str ref.name) row.toEntries = (answer, s') ∧
      w'.layout = w.layout ∧ w'.drivers = w.drivers.set driver (.memory s' evaluator) := by
  have sound := declared.sound
  rcases Layout.mem_family.mp member with ⟨known, stored⟩
  obtain ⟨c, stores⟩ := sound.exists_stores member
  have own_driver := declared.driver_eq m known
  rcases createEntity_cases (sound.isHierarchy known) given (own_driver.symm ▸ driven) done with
    ⟨rfl, -⟩ | ⟨own, ref', row, answer, d, entities, journal, mapped, stored', written, made, rfl, -⟩
  · exact .inl rfl
  · cases stored.symm.trans stored'
    rw [stores.get_eq, stores.name] at written made
    obtain ⟨outcome, s', created, -, rfl⟩ := Driver.create_cases made
    have inside := sound.family_below member (sound.mappingFor_cases mapped)
    exact .inr ⟨own, row, outcome, s', mapped, inside, written, created, rfl, by rw [own_driver]⟩

/-- What a successful creation leaves: the row of the instance after all others, and the instance with what was
    generated for it. -/
theorem created_cases (declared : w.layout.Declared driver schema) (member : m ∈ w.layout.family ref)
    (stores : w.layout.Stores schema ref c) (driven : w.drivers[driver]? = some (.memory s evaluator))
    (provisioned : s.shapes.get? ref.name = some ref) (given : w.entities[id]? = some x)
    (done : (createEntity m (.object (.entity id name))).exec w = (.ok (), w')) :
    ∃ own row back x' s' journal, w.layout.mappingFor m x = .ok own ∧ own ∈ w.layout.family ref ∧
      own.Creates c x row ∧ c.convertRow .fromStore row = .ok back ∧
      Mapping.refresh back own.allFields x = (x', .ok ()) ∧
      s.checkUnique c ref.name row (s.rows ref.name) = .ok () ∧ s'.rows ref.name = s.rows ref.name ++ [row] ∧
      s'.shapes = s.shapes ∧ w' = { w with
        drivers := w.drivers.set driver (.memory s' evaluator)
        entities := w.entities.set id x'
        journal } := by
  have sound := declared.sound
  obtain ⟨known, stored⟩ := Layout.mem_family.mp member
  have own_driver := declared.driver_eq m known
  have own_schema := (sound.each m known).schema_eq
  rcases createEntity_cases (sound.isHierarchy known) given (own_driver.symm ▸ driven) done with
    ⟨-, e, failed⟩ | ⟨own, ref', written, answer, d, entities, journal, mapped, stored', row_, made, rfl, finish⟩
  · cases failed
  · cases stored.symm.trans stored'
    rw [stores.get_eq, stores.name] at row_ made finish
    obtain ⟨document, back, x', rfl, converted, refreshed, rfl⟩ := finish rfl
    obtain ⟨outcome, s', saved, same, rfl⟩ := Driver.create_cases made
    have inside := sound.family_below member (sound.mappingFor_cases mapped)
    cases outcome with
    | error e => cases same
    | ok row =>
      cases same
      obtain ⟨creates, unique, sequences, rfl⟩ := sound.creates_of_create inside stores provisioned row_ saved
      rw [stores.convertRow_eq own_schema] at converted
      have entries : Row.ofEntries row.toValue.entryList = row := Row.ofEntries_toEntries row
      rw [entries] at converted
      have rows : (({ s with sequences } : Store).setRows ref.name
          (s.rows ref.name ++ [row])).rows ref.name = s.rows ref.name ++ [row] := by
        rw [Store.rows_setRows, if_pos (beq_self_eq_true _)]
      rw [own_driver]
      exact ⟨own, row, back, x', _, journal, mapped, inside, creates, converted, refreshed, unique, rows, rfl, rfl⟩

theorem save_cases_value {v : Value} (declared : w.layout.Declared driver schema) (member : m ∈ w.layout.family ref)
    (driven : w.drivers[driver]? = some (.memory s evaluator)) (done : (saveEntity m v).exec w = (outcome, w')) :
    (w' = w ∧ ∃ e, outcome = .error e) ∨
      ∃ id x own row key s', (instanceOf m v).exec w = (.ok (id, x), w) ∧ w.layout.mappingFor m x = .ok own ∧
        own ∈ w.layout.family ref ∧ own.rowOf w.layout ref.name x false = .ok row ∧ own.keyOf row = .ok key ∧
        s.save w.layout.collections (.str ref.name) key.toEntries (Mapping.changes row key).toEntries = .ok s' ∧
        w' = { w with drivers := w.drivers.set driver (.memory s' evaluator) } := by
  have sound := declared.sound
  rcases Layout.mem_family.mp member with ⟨known, stored⟩
  obtain ⟨c, stores⟩ := sound.exists_stores member
  have own_driver := declared.driver_eq m known
  rcases saveEntity_cases (sound.isHierarchy known) (own_driver.symm ▸ driven) done with
    failed | ⟨id, x, own, ref', row, key, d, given, mapped, stored', written, keyed, made, rfl⟩
  · exact .inl failed
  · cases stored.symm.trans stored'
    rw [stores.get_eq, stores.name] at written made
    obtain ⟨s', saved, rfl⟩ := Driver.save_cases made
    have inside := sound.family_below member (sound.mappingFor_cases mapped)
    exact .inr ⟨id, x, own, row, key, s', given, mapped, inside, written, keyed, saved, by rw [own_driver]⟩

theorem save_cases (declared : w.layout.Declared driver schema) (member : m ∈ w.layout.family ref)
    (driven : w.drivers[driver]? = some (.memory s evaluator)) (given : w.entities[id]? = some x)
    (done : (saveEntity m (.object (.entity id name))).exec w = (outcome, w')) :
    (w' = w ∧ ∃ e, outcome = .error e) ∨
      ∃ own row key s', w.layout.mappingFor m x = .ok own ∧ own ∈ w.layout.family ref ∧
        own.rowOf w.layout ref.name x false = .ok row ∧ own.keyOf row = .ok key ∧
        s.save w.layout.collections (.str ref.name) key.toEntries (Mapping.changes row key).toEntries = .ok s' ∧
        w' = { w with drivers := w.drivers.set driver (.memory s' evaluator) } := by
  rcases save_cases_value declared member driven done with
    failed | ⟨id', x', own, row, key, s', given', mapped, rest⟩
  · exact .inl failed
  · cases (exec_instanceOf given).symm.trans given'
    exact .inr ⟨own, row, key, s', mapped, rest⟩

theorem remove_cases {v : Value} (declared : w.layout.Declared driver schema)
    (member : m ∈ w.layout.family ref) (driven : w.drivers[driver]? = some (.memory s evaluator))
    (done : (removeEntity m v).exec w = (outcome, w')) :
    (w' = w ∧ ∃ e, outcome = .error e) ∨
      ∃ id x own row key s', (instanceOf m v).exec w = (.ok (id, x), w) ∧ w.layout.mappingFor m x = .ok own ∧
        own ∈ w.layout.family ref ∧ own.rowOf w.layout ref.name x false = .ok row ∧ own.keyOf row = .ok key ∧
        s.remove w.layout.collections (.str ref.name) key.toEntries = .ok s' ∧
        w' = { w with drivers := w.drivers.set driver (.memory s' evaluator) } := by
  have sound := declared.sound
  rcases Layout.mem_family.mp member with ⟨known, stored⟩
  obtain ⟨c, stores⟩ := sound.exists_stores member
  have own_driver := declared.driver_eq m known
  rcases removeEntity_cases (sound.isHierarchy known) (own_driver.symm ▸ driven) done with
    failed | ⟨id, x, own, ref', row, key, d, given, mapped, stored', written, keyed, made, rfl⟩
  · exact .inl failed
  · cases stored.symm.trans stored'
    rw [stores.get_eq, stores.name] at written made
    obtain ⟨s', removed, rfl⟩ := Driver.remove_cases made
    have inside := sound.family_below member (sound.mappingFor_cases mapped)
    exact .inr ⟨id, x, own, row, key, s', given, mapped, inside, written, keyed, removed, by rw [own_driver]⟩

end Operations

/-- A driver whose store has a property, and the mappings of a hierarchy that work on it. -/
structure Serves (w : Workspace) (driver schema : Nat) (ref : CollectionRef) (P : Layout → Store → Prop) : Prop where
  declared : w.layout.Declared driver schema
  inhabited : ∃ r, r ∈ w.layout.family ref
  held : ∃ s evaluator, w.drivers[driver]? = some (.memory s evaluator) ∧ P w.layout s

namespace Serves

variable {w w' : Workspace} {P Q : Layout → Store → Prop} {evaluator : Option Nat}

theorem stores (serves : w.Serves driver schema ref P) : ∃ c, w.layout.Stores schema ref c := by
  obtain ⟨r, member⟩ := serves.inhabited
  exact serves.declared.sound.exists_stores member

theorem set (serves : w.Serves driver schema ref P) (driven : w'.drivers[driver]? = some (.memory s' evaluator))
    (held : Q w.layout s') (layout : w'.layout = w.layout) : w'.Serves driver schema ref Q where
  declared := layout ▸ serves.declared
  inhabited := layout ▸ serves.inhabited
  held := ⟨s', evaluator, driven, layout ▸ held⟩

/-- The end of a transaction, which keeps the rows of one side. -/
theorem update {g : Catalog → Driver → Except Error Driver} {outcome : Except Error Unit}
    (serves : w.Serves driver schema ref P)
    (keeps : ∀ s evaluator, P w.layout s →
      ∃ s' : Store, g w.layout.collections (.memory s evaluator) = .ok (.memory s' evaluator) ∧ Q w.layout s')
    (done : (Run.update driver g).exec w = (outcome, w')) :
    (w' = w ∧ ∃ e, outcome = .error e) ∨ w'.Serves driver schema ref Q := by
  obtain ⟨s, evaluator, driven, held⟩ := serves.held
  obtain ⟨s', made, next⟩ := keeps s evaluator held
  rcases update_cases driven done with failed | ⟨d, made', rfl⟩
  · exact .inl failed
  · cases made.symm.trans made'
    exact .inr (serves.set (driven_of_set driven rfl) next rfl)

/-- A property that both sides have in common stays, however the transaction ends. -/
theorem keep {g : Catalog → Driver → Except Error Driver} {outcome : Except Error Unit}
    (serves : w.Serves driver schema ref P)
    (keeps : ∀ s evaluator, P w.layout s →
      ∃ s' : Store, g w.layout.collections (.memory s evaluator) = .ok (.memory s' evaluator) ∧ P w.layout s')
    (done : (Run.update driver g).exec w = (outcome, w')) : w'.Serves driver schema ref P := by
  rcases serves.update keeps done with ⟨rfl, -⟩ | next
  · exact serves
  · exact next

/-- What does not touch the table keeps a property of it. -/
theorem other (serves : w.Serves driver schema ref P) (layout : w'.layout = w.layout)
    (same : SameTable w w' driver ref.name)
    (table : ∀ s s' : Store, s'.shapes.get? ref.name = s.shapes.get? ref.name → s'.rows ref.name = s.rows ref.name →
      Store.rowsOf s'.committed ref.name = Store.rowsOf s.committed ref.name → P w.layout s → P w.layout s') :
    w'.Serves driver schema ref P := by
  obtain ⟨s, evaluator, driven, held⟩ := serves.held
  obtain ⟨s', evaluator', driven', shapes, working, committed⟩ := same s evaluator driven
  exact serves.set driven' (table s s' shapes working committed held) layout

end Serves

/-- Workspaces that are reached from an empty table by working through the mappings of its hierarchy. All
    values that are written are of the types of their attributes; how an operation ends does not matter. -/
inductive Reached (driver schema : Nat) (ref : CollectionRef) : Workspace → Prop where
  | start {w : Workspace} {s : Store} {evaluator : Option Nat} {r : Mapping}
      (hierarchy : w.layout.Hierarchy driver schema ref) (uniform : w.layout.Uniform ref)
      (inhabited : r ∈ w.layout.family ref) (driven : w.drivers[driver]? = some (.memory s evaluator))
      (provisioned : s.shapes.get? ref.name = some ref) (working : s.rows ref.name = [])
      (committed : Store.rowsOf s.committed ref.name = []) : Reached driver schema ref w
  | create {w w' : Workspace} {m : Mapping} {id : Nat} {name : String} {x : Entity}
      {outcome : Except Error Unit} (before : Reached driver schema ref w) (member : m ∈ w.layout.family ref)
      (given : w.entities[id]? = some x)
      (typed : ∀ own, w.layout.mappingFor m x = .ok own → own.Typed x true)
      (done : (createEntity m (.object (.entity id name))).exec w = (outcome, w')) :
      Reached driver schema ref w'
  | save {w w' : Workspace} {m : Mapping} {id : Nat} {name : String} {x : Entity}
      {outcome : Except Error Unit} (before : Reached driver schema ref w) (member : m ∈ w.layout.family ref)
      (given : w.entities[id]? = some x)
      (typed : ∀ own, w.layout.mappingFor m x = .ok own → own.Typed x false)
      (done : (saveEntity m (.object (.entity id name))).exec w = (outcome, w')) :
      Reached driver schema ref w'
  | remove {w w' : Workspace} {m : Mapping} {v : Value} {outcome : Except Error Unit}
      (before : Reached driver schema ref w) (member : m ∈ w.layout.family ref)
      (done : (removeEntity m v).exec w = (outcome, w')) : Reached driver schema ref w'
  | commit {w w' : Workspace} {outcome : Except Error Unit} (before : Reached driver schema ref w)
      (done : (Run.commit driver).exec w = (outcome, w')) : Reached driver schema ref w'
  | rollback {w w' : Workspace} {outcome : Except Error Unit} (before : Reached driver schema ref w)
      (done : (Run.rollback driver).exec w = (outcome, w')) : Reached driver schema ref w'
  | declare {w w' : Workspace} {d : Declaration} {outcome : Except Error Handle}
      (before : Reached driver schema ref w) (kind : d.kind = .hierarchy)
      (done : (Run.declare d).exec w = (outcome, w')) (hierarchy : w'.layout.Hierarchy driver schema ref)
      (uniform : w'.layout.Uniform ref) : Reached driver schema ref w'
  | other {w w' : Workspace} (before : Reached driver schema ref w) (layout : w'.layout = w.layout)
      (same : SameTable w w' driver ref.name) : Reached driver schema ref w'

/-- What all reached workspaces have in common. -/
structure Keeps (w : Workspace) (driver schema : Nat) (ref : CollectionRef) : Prop where
  hierarchy : w.layout.Hierarchy driver schema ref
  uniform : w.layout.Uniform ref
  inhabited : ∃ r, r ∈ w.layout.family ref
  regular : ∃ s evaluator, w.drivers[driver]? = some (.memory s evaluator) ∧ s.Regular w.layout ref

namespace Keeps

variable {w w' : Workspace}

theorem stores (kept : w.Keeps driver schema ref) : ∃ c, w.layout.Stores schema ref c := by
  rcases kept.inhabited with ⟨r, member⟩
  exact kept.hierarchy.declared.sound.exists_stores member

theorem set {s : Store} {evaluator evaluator' : Option Nat} (kept : w.Keeps driver schema ref)
    (driven : w.drivers[driver]? = some (.memory s evaluator')) (regular : s'.Regular w.layout ref)
    (layout : w'.layout = w.layout) (drivers : w'.drivers = w.drivers.set driver (.memory s' evaluator)) :
    w'.Keeps driver schema ref where
  hierarchy := layout ▸ kept.hierarchy
  uniform := layout ▸ kept.uniform
  inhabited := layout ▸ kept.inhabited
  regular := ⟨s', evaluator, driven_of_set driven drivers, layout ▸ regular⟩

theorem create {id : Nat} {name : String} {outcome : Except Error Unit} (kept : w.Keeps driver schema ref)
    (member : m ∈ w.layout.family ref) (given : w.entities[id]? = some x)
    (typed : ∀ own, w.layout.mappingFor m x = .ok own → own.Typed x true)
    (done : (createEntity m (.object (.entity id name))).exec w = (outcome, w')) :
    w'.Keeps driver schema ref := by
  obtain ⟨s, evaluator, driven, regular⟩ := kept.regular
  obtain ⟨c, stores⟩ := kept.stores
  rcases create_cases kept.hierarchy.declared member driven given done with
    rfl | ⟨own, row, answer, s', mapped, inside, written, created, layout, drivers⟩
  · exact kept
  · have next := regular.create kept.hierarchy kept.uniform stores inside (typed own mapped) written created
    exact kept.set driven next layout drivers

theorem save {id : Nat} {name : String} {outcome : Except Error Unit} (kept : w.Keeps driver schema ref)
    (member : m ∈ w.layout.family ref) (given : w.entities[id]? = some x)
    (typed : ∀ own, w.layout.mappingFor m x = .ok own → own.Typed x false)
    (done : (saveEntity m (.object (.entity id name))).exec w = (outcome, w')) :
    w'.Keeps driver schema ref := by
  obtain ⟨s, evaluator, driven, regular⟩ := kept.regular
  obtain ⟨c, stores⟩ := kept.stores
  rcases save_cases kept.hierarchy.declared member driven given done with
    ⟨rfl, -⟩ | ⟨own, row, key, s', mapped, inside, written, keyed, saved, rfl⟩
  · exact kept
  · have next := regular.save kept.hierarchy kept.uniform stores inside (typed own mapped) written keyed saved
    exact kept.set driven next rfl rfl

theorem remove {v : Value} {outcome : Except Error Unit} (kept : w.Keeps driver schema ref)
    (member : m ∈ w.layout.family ref) (done : (removeEntity m v).exec w = (outcome, w')) :
    w'.Keeps driver schema ref := by
  obtain ⟨s, evaluator, driven, regular⟩ := kept.regular
  rcases remove_cases kept.hierarchy.declared member driven done with
    ⟨rfl, -⟩ | ⟨id, x, own, row, key, s', -, -, -, -, -, removed, rfl⟩
  · exact kept
  · exact kept.set driven (regular.remove removed) rfl rfl

/-- The end of a transaction, which keeps the regular rows of one side. -/
theorem update {g : Catalog → Driver → Except Error Driver} {outcome : Except Error Unit}
    (kept : w.Keeps driver schema ref)
    (keeps : ∀ s evaluator d, s.Regular w.layout ref → g w.layout.collections (.memory s evaluator) = .ok d →
      ∃ s' : Store, d = .memory s' evaluator ∧ s'.Regular w.layout ref)
    (done : (Run.update driver g).exec w = (outcome, w')) : w'.Keeps driver schema ref := by
  obtain ⟨s, evaluator, driven, regular⟩ := kept.regular
  rcases update_cases driven done with ⟨rfl, -⟩ | ⟨d, made, rfl⟩
  · exact kept
  · rcases keeps s evaluator d regular made with ⟨s', rfl, next⟩
    exact kept.set driven next rfl rfl

theorem declare {d : Declaration} {outcome : Except Error Handle} (kept : w.Keeps driver schema ref)
    (kind : d.kind = .hierarchy) (done : (Run.declare d).exec w = (outcome, w'))
    (hierarchy : w'.layout.Hierarchy driver schema ref) (uniform : w'.layout.Uniform ref) :
    w'.Keeps driver schema ref := by
  rcases declare_cases kind kept.hierarchy.declared.sound.contained done with
    ⟨rfl, -⟩ | ⟨l, n, journal, made, -, rfl⟩
  · exact kept
  · obtain ⟨parent, ref', old, new, step⟩ := Layout.step_of_declare kind made
    have mappings := Layout.mappings_of_attach step.attached
    obtain ⟨s, evaluator, driven, regular⟩ := kept.regular
    obtain ⟨r, member⟩ := kept.inhabited
    have each : ∀ row, w.layout.Regular ref row → l.Regular ref row := fun row before =>
      kept.hierarchy.regular_of_append hierarchy uniform mappings member before
    refine ⟨hierarchy, uniform, ⟨r, ?_⟩, s, evaluator, driven, regular.provisioned, ?_, ?_⟩
    · show r ∈ l.family ref
      rw [Layout.family_of_append l mappings ref]
      exact List.mem_append_left _ member
    · exact fun row inside => each row (regular.working row inside)
    · exact fun row inside => each row (regular.committed row inside)

theorem other (kept : w.Keeps driver schema ref) (layout : w'.layout = w.layout)
    (same : SameTable w w' driver ref.name) : w'.Keeps driver schema ref := by
  obtain ⟨s, evaluator, driven, regular⟩ := kept.regular
  obtain ⟨s', evaluator', driven', shapes, working, committed⟩ := same s evaluator driven
  refine ⟨layout ▸ kept.hierarchy, layout ▸ kept.uniform, layout ▸ kept.inhabited, s', evaluator', driven',
    ?_, ?_, ?_⟩
  · rw [shapes, regular.provisioned]
  · rw [working, layout]
    exact regular.working
  · rw [committed, layout]
    exact regular.committed

end Keeps

/-- Whatever was done, the rows are regular. -/
theorem Reached.keeps {w : Workspace} (reached : Reached driver schema ref w) : w.Keeps driver schema ref := by
  induction reached with
  | start hierarchy uniform inhabited driven provisioned working committed =>
    refine ⟨hierarchy, uniform, ⟨_, inhabited⟩, _, _, driven, provisioned, ?_, ?_⟩
    · rw [working]
      exact List.forall_mem_nil _
    · rw [committed]
      exact List.forall_mem_nil _
  | create _ member given typed done kept => exact kept.create member given typed done
  | save _ member given typed done kept => exact kept.save member given typed done
  | remove _ member done kept => exact kept.remove member done
  | commit _ done kept =>
    refine kept.update (fun s evaluator d regular made => ?_) done
    cases made
    exact ⟨_, rfl, regular.commit⟩
  | rollback _ done kept =>
    refine kept.update (fun s evaluator d regular made => ?_) done
    cases made
    exact ⟨_, rfl, regular.rollback⟩
  | declare _ kind done hierarchy uniform kept => exact kept.declare kind done hierarchy uniform
  | other _ layout same kept => exact kept.other layout same

end Workspace

end ModelStore
