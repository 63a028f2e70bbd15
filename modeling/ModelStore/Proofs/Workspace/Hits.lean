import ModelStore.Proofs.Workspace.Recorded
import ModelStore.Proofs.Workspace.RoundTrip

/-!
Saving and removing instances. Both hit the one row with the key of the instance, which the mapping of its class
created, and nothing else in the workspace; and an instance that was saved is read back by its key.
-/

namespace ModelStore

open Layout (Below)

variable {driver schema : Nat} {ref : CollectionRef} {s : Store} {evaluator : Option Nat} {t m : Mapping}
  {x : Entity} {row old new : Row} {w w' : Workspace} {os cs : List Origin} {i id : Nat} {name : String}

namespace Workspace

/-- The workspace with other rows under a name in a driver. -/
def withRows (w : Workspace) (driver : Nat) (s : Store) (evaluator : Option Nat) (name : String)
    (rows : List Row) : Workspace :=
  { w with drivers := w.drivers.set driver (.memory (s.setRows name rows) evaluator) }

/-- The row of an instance: the only one with its key, and its mapping created it with that. -/
structure Locates (w : Workspace) (driver : Nat) (ref : CollectionRef) (os : List Origin) (m : Mapping) (x : Entity)
    (s : Store) (evaluator : Option Nat) (i : Nat) (row : Row) : Prop where
  driven : w.drivers[driver]? = some (.memory s evaluator)
  here : (s.rows ref.name)[i]? = some row
  origin : ∃ made, os[i]? = some ⟨m, made⟩ ∧ m.HasKey x made
  only : ∀ (j : Nat) (o : Origin), os[j]? = some o → m.HasKey x o.made → j = i

namespace Records

/-- No two rows have the key of one instance. -/
theorem eq_of_hasKey {a b : Row} {i j : Nat} (records : w.Records driver schema ref os cs)
    (driven : w.drivers[driver]? = some (.memory s evaluator)) (own : m ∈ w.layout.family ref)
    (includes : m.Includes x false) (keyed : m.keyFields ≠ []) (identifies : m.Identifies x)
    (first : (s.rows ref.name)[i]? = some a) (second : (s.rows ref.name)[j]? = some b) (has : m.HasKey x a)
    (has' : m.HasKey x b) : i = j := by
  obtain ⟨s', evaluator', c, driven', -, -, separates, -⟩ := records.exists_store
  cases driven.symm.trans driven'
  exact records.sound.eq_of_hasKey records.hierarchy.keys own (records.hierarchy.fits m own).agrees includes keyed
    identifies separates.working first second has has'

/-- A row has the key of an instance if it was created with it. -/
theorem exists_row {o : Origin} {j : Nat} (records : w.Records driver schema ref os cs)
    (driven : w.drivers[driver]? = some (.memory s evaluator)) (own : m ∈ w.layout.family ref)
    (listed : os[j]? = some o) :
    ∃ r, (s.rows ref.name)[j]? = some r ∧ o.Keeps r ∧ w.layout.Owned ref o.own r ∧
      (m.HasKey x o.made ↔ m.HasKey x r) := by
  obtain ⟨s', evaluator', c, driven', -, tracks, -, working, -⟩ := records.exists_store
  cases driven.symm.trans driven'
  obtain ⟨r, there, keeps⟩ := forall₂_getElem? working listed
  have creator : (os.map Origin.own)[j]? = some o.own := by rw [List.getElem?_map, listed, Option.map_some]
  obtain ⟨r', there', owned⟩ := forall₂_getElem? tracks.working creator
  cases there.symm.trans there'
  refine ⟨r, there, keeps, owned, forall₂_congr fun f field => ?_⟩
  have shared := records.sound.keyField_mem records.hierarchy.keys own owned.member field
  rw [Row.column, Row.column, keeps.same f shared]

/-- The row that has the key of an instance is the one that its mapping created with it. -/
theorem locates (records : w.Records driver schema ref os cs)
    (driven : w.drivers[driver]? = some (.memory s evaluator)) (own : m ∈ w.layout.family ref)
    (includes : m.Includes x false) (keyed : m.keyFields ≠ []) (identifies : m.Identifies x)
    (mine : w.CreatesKey driver ref os m x) (here : (s.rows ref.name)[i]? = some row) (has : m.HasKey x row) :
    w.Locates driver ref os m x s evaluator i row := by
  obtain ⟨s', evaluator', c, driven', -, -, -, working, -⟩ := records.exists_store
  cases driven.symm.trans driven'
  obtain ⟨o, listed, -⟩ := forall₂_getElem? working.flip here
  obtain ⟨r, there, -, -, created⟩ := records.exists_row (m := m) (x := x) driven own listed
  cases here.symm.trans there
  have class_ := mine i o row listed (by rwa [table_eq driven]) has
  refine ⟨driven, here, ⟨o.made, ?_, created.mpr has⟩, fun j p listed' has' => ?_⟩
  · rw [listed, ← class_]
  · obtain ⟨r, there, -, -, created⟩ := records.exists_row (m := m) (x := x) driven own listed'
    exact records.eq_of_hasKey driven own includes keyed identifies there here (created.mp has') has

end Records

end Workspace

namespace Run

open Workspace

/-- An instance at hand that is to be written through a mapping at or above its own, the only one of its class. -/
structure Handles (w : Workspace) (driver schema : Nat) (ref : CollectionRef) (os cs : List Origin) (t m : Mapping)
    (id : Nat) (x : Entity) : Prop where
  recorded : w.Recorded driver schema ref os cs
  target : t ∈ w.layout.family ref
  below : Below w.layout t m
  only : ∀ b ∈ w.layout.family ref, b.model.name = m.model.name → b = m
  given : w.entities[id]? = some x
  class_ : x.model = m.model

namespace Handles

theorem own (handles : Handles w driver schema ref os cs t m id x) : m ∈ w.layout.family ref :=
  handles.recorded.records.sound.family_below handles.target handles.below

theorem mapped (handles : Handles w driver schema ref os cs t m id x) : w.layout.mappingFor t x = .ok m := by
  have known := (Layout.mem_family.mp handles.target).1
  refine handles.recorded.records.sound.mappingFor_eq known handles.below (by rw [handles.class_]) ?_
  intro b inside same class_
  refine handles.only b ?_ class_
  rw [Layout.mem_family, same]
  exact ⟨inside, (Layout.mem_family.mp handles.own).2⟩

theorem creation (handles : Handles w driver schema ref os cs t m id x)
    (driven : w.drivers[driver]? = some (.memory s evaluator)) (provisioned : s.shapes.get? ref.name = some ref) :
    Creation w (.memory s evaluator) ref t m id x := by
  have records := handles.recorded.records
  have known := (Layout.mem_family.mp handles.target).1
  have own_driver := records.declared.driver_eq t known
  have own_schema := (records.sound.each t known).schema_eq
  exact ⟨own_driver ▸ own_schema ▸ records.hierarchy, handles.target, handles.below, handles.only,
    own_driver ▸ driven, ⟨s, evaluator, rfl, provisioned⟩, handles.given, handles.class_⟩

/-- An instance that is created has its key recorded, with what was generated for it. -/
theorem created (handles : Handles w driver schema ref os cs t m id x) (conforms : m.Conforms x)
    (done : (createEntity t (.object (.entity id name))).exec w = (.ok (), w')) :
    ∃ x' made, w'.entities[id]? = some x' ∧ m.Refreshes x x' made ∧ m.HasKey x' made ∧
      w'.Recorded driver schema ref (os ++ [⟨m, made⟩]) cs := by
  have records := handles.recorded.records
  obtain ⟨s, evaluator, c, driven, -, tracks, -⟩ := records.exists_store
  have ready := handles.creation driven tracks.provisioned
  have fits := records.hierarchy.fits m handles.own
  have own_driver := records.declared.driver_eq t (Layout.mem_family.mp handles.target).1
  have own_schema := (records.sound.each t (Layout.mem_family.mp handles.target).1).schema_eq
  obtain ⟨c, stores⟩ := ready.collection
  obtain ⟨made, back, x', s', journal, creates, converted, refreshed, -, rows, -, same⟩ := ready.created stores done
  obtain ⟨refreshes, holds⟩ := (own_schema ▸ records.sound).refresh_of_creates handles.own stores fits conforms
    creates converted refreshed
  have recorded := Recorded.create handles.recorded handles.target handles.given handles.mapped conforms.includes done
  have driven' : w'.drivers[driver]? = some (.memory s' evaluator) := by
    rw [same, ← own_driver]
    exact List.getElem?_set_self (List.getElem?_eq_some_iff.mp ready.driven).1
  rw [table_eq driven, table_eq driven', rows, List.drop_left] at recorded
  refine ⟨x', made, ?_, refreshes, holds.hasKey fits, recorded⟩
  rw [same]
  exact List.getElem?_set_self (List.getElem?_eq_some_iff.mp handles.given).1

/-- Saving writes over the row of the instance, and only over the columns of its mapping beside the key. -/
theorem saved_cases (handles : Handles w driver schema ref os cs t m id x) (includes : m.Includes x false)
    (identifies : m.Identifies x) (mine : w.CreatesKey driver ref os m x)
    (done : (saveEntity t (.object (.entity id name))).exec w = (.ok (), w')) :
    ∃ s evaluator i old new row, w.Locates driver ref os m x s evaluator i old ∧ m.HasKey x old ∧
      m.keyFields ≠ [] ∧ m.Writes x false row ∧
      (∀ k, new.get? k = (if k ∈ m.keyNames then none else row.get? k).or (old.get? k)) ∧
      w' = w.withRows driver s evaluator ref.name ((s.rows ref.name).set i new) ∧
      w'.Recorded driver schema ref os cs := by
  have records := handles.recorded.records
  obtain ⟨s, evaluator, c, driven, stores, tracks, -⟩ := records.exists_store
  have recorded := Recorded.save handles.recorded handles.target handles.given handles.mapped includes mine done
  rcases save_cases records.declared handles.target driven handles.given done with
    ⟨-, e, failed⟩ | ⟨own, row, key, s', mapped, inside, written, keyed, saved, same⟩
  · cases failed
  · cases handles.mapped.symm.trans mapped
    have nonempty := (records.sound.keyed_cases (Layout.mem_family.mp inside).1 keyed).1
    obtain ⟨before, old, after, new, ⟨rows, has, -⟩, column, rfl⟩ :=
      records.sound.save_hits stores inside tracks.provisioned written keyed saved
    have here : (s.rows ref.name)[before.length]? = some old := by rw [rows, getElem?_middle]
    have located := records.locates driven inside includes nonempty identifies mine here has
    refine ⟨s, evaluator, _, old, new, row, located, has, nonempty,
      records.sound.writes_of_rowOf inside stores written, column, ?_, recorded⟩
    rw [same, withRows, rows, set_middle]

theorem removed (handles : Handles w driver schema ref os cs t m id x) (includes : m.Includes x false)
    (identifies : m.Identifies x) (mine : w.CreatesKey driver ref os m x)
    (done : (removeEntity t (.object (.entity id name))).exec w = (.ok (), w')) :
    ∃ s evaluator i old, w.Locates driver ref os m x s evaluator i old ∧
      w' = w.withRows driver s evaluator ref.name ((s.rows ref.name).eraseIdx i) ∧
      w'.Recorded driver schema ref (os.eraseIdx i) cs := by
  have records := handles.recorded.records
  obtain ⟨s, evaluator, c, driven, stores, tracks, -⟩ := records.exists_store
  rcases remove_cases records.declared handles.target driven done with
    ⟨-, e, failed⟩ | ⟨id', y, own, row, key, s', given, mapped, inside, written, keyed, made, same⟩
  · cases failed
  · cases (exec_instanceOf handles.given).symm.trans given
    cases handles.mapped.symm.trans mapped
    have nonempty := (records.sound.keyed_cases (Layout.mem_family.mp inside).1 keyed).1
    obtain ⟨before, old, after, ⟨rows, has, -⟩, rfl⟩ := records.sound.remove_hits stores inside written keyed made
    have here : (s.rows ref.name)[before.length]? = some old := by rw [rows, getElem?_middle]
    have left : w' = w.withRows driver s evaluator ref.name ((s.rows ref.name).eraseIdx before.length) := by
      rw [same, withRows, rows, eraseIdx_middle]
    have driven' : w'.drivers[driver]? = some (.memory (s.setRows ref.name ((s.rows ref.name).eraseIdx before.length))
        evaluator) := by
      rw [left]
      exact driven_of_set driven rfl
    have located := records.locates driven inside includes nonempty identifies mine here has
    refine ⟨s, evaluator, _, old, located, left, .remove handles.recorded handles.target done ?_⟩
    rw [table_eq driven, table_eq driven', Store.rows_setRows, if_pos (beq_self_eq_true _)]

end Handles

/-- A saved row has the columns that it had, but for those of the fields of its mapping beside the key. -/
theorem get?_saved_of_ne {l : Layout} {k : String} (owned : l.Owned ref m old) (writes : m.Writes x false row)
    (column : ∀ k, new.get? k = (if k ∈ m.keyNames then none else row.get? k).or (old.get? k))
    (outside : ∀ f ∈ m.allFields, f.primaryKey = false → f.name ≠ k) : new.get? k = old.get? k := by
  rw [column]
  by_cases key : k ∈ m.keyNames
  · rw [if_pos key, Option.none_or]
  · rw [if_neg key]
    by_cases given : k ∈ m.values.keys
    · rcases Assoc.exists_of_mem_keys given with ⟨v, value⟩
      rw [writes.value k v value, owned.value k v value, Option.some_or]
    · have apart : ∀ f ∈ m.allFields, f.name ≠ k := by
        rintro f mapped rfl
        cases primary : f.primaryKey with
        | true => exact key (List.mem_map_of_mem (List.mem_filter.mpr ⟨mapped, primary⟩))
        | false => exact outside f mapped primary rfl
      rw [writes.other k apart given, Option.none_or]

/-- A saved row holds the values of the instance, and a key that equals its key. -/
theorem resembles_saved {l : Layout} {made : Row} (sound : l.Sound schema) (known : m ∈ l.mappings) (fits : m.Fits)
    (admits : m.Admits x) (writes : m.Writes x false row)
    (column : ∀ k, new.get? k = (if k ∈ m.keyNames then none else row.get? k).or (old.get? k))
    (keeps : (Origin.mk m made).Keeps old) (has : m.HasKey x old) : m.Resembles x new := by
  intro f mapped a declared same
  rw [column]
  cases primary : f.primaryKey with
  | true =>
    have field : f ∈ m.keyFields := List.mem_filter.mpr ⟨mapped, primary⟩
    have key : f.name ∈ m.keyNames := List.mem_map_of_mem field
    obtain ⟨v, p, includes, stored, present⟩ := keeps.value f field a declared same
    obtain ⟨q, stored', equal⟩ := has f field
    rw [← keeps.same f field] at present
    rw [Row.column_of_get? present] at equal
    rw [if_pos key, Option.none_or]
    exact ⟨v, p, q, includes, stored, present, stored', equal⟩
  | false =>
    have typed := admits f mapped a declared same
    rcases writes.field f mapped rfl with ⟨raw, stored, present⟩
    rcases fits.exists_keeps mapped declared same typed with ⟨raw', kept⟩
    cases kept.stored.symm.trans stored
    rw [if_neg (sound.not_mem_keyNames known mapped primary), present]
    exact ⟨_, raw, raw, Attribute.includes_of_admits typed, stored, rfl, stored, kept.self⟩

/-- An instance is read by its key of a row that resembles it. -/
theorem finds_resembling {made : Row} (recorded : w.Recorded driver schema ref os cs)
    (driven : w.drivers[driver]? = some (.memory s evaluator)) (own : m ∈ w.layout.family ref)
    (class_ : x.model = m.model) (admits : m.Admits x) (identifies : m.Identifies x) (keyed : m.keyFields ≠ [])
    (writes : m.Writes x false row) (listed : os[i]? = some ⟨m, made⟩) (here : (s.rows ref.name)[i]? = some new)
    (resembles : m.Resembles x new) (equal : (w.evaluatorOf (.memory s evaluator)).Equates)
    (target : t ∈ w.layout.family ref) (below : Below w.layout t m) :
    ∃ y, entityOf ((findEntity t (m.keyFilter x)).exec w) = some y ∧ y.Equals x := by
  have records := recorded.records
  have fits := records.hierarchy.fits m own
  obtain ⟨s', evaluator', c, driven', stores, tracks, -⟩ := records.exists_store
  cases driven.symm.trans driven'
  obtain ⟨r, there, -, owned, -⟩ := records.exists_row (m := m) (x := x) driven own listed
  cases here.symm.trans there
  have alone : ∀ j r, (s.rows ref.name)[j]? = some r → m.HasKey x r → j = i := fun j r there has =>
    records.eq_of_hasKey driven own admits.includes keyed identifies there here has (resembles.hasKey fits)
  obtain ⟨q, parsed, found⟩ := records.hierarchy.find_resembling evaluator own stores target below equal owned
    admits resembles writes tracks.provisioned here alone
  obtain ⟨y, restored, equals⟩ := records.hierarchy.restore_resembling own stores target below owned class_ admits
    resembles
  obtain ⟨known, stored⟩ := Layout.mem_family.mp target
  have executed := exec_findEntity (records.sound.isHierarchy known) stored parsed
    (records.declared.driver_eq t known ▸ driven) found restored
  refine ⟨y, ?_, equals⟩
  rw [executed]
  exact List.getElem?_concat_length

end Run

/-! A log of alarms, one at hand at a time. -/

namespace Log

open Run Workspace

/-- The workspace with one alarm at hand. -/
def holding (w : Workspace) (x : Entity) : Workspace := { w with entities := [x] }

/-- The log after another alarm was created. -/
def rung (w : Workspace) (x : Entity) : Workspace := ((create true 0).exec (holding w x)).2

def numbered (x : Entity) (n : Int) : Entity := { x with attributes := x.attributes.put "number" (.int n) }

theorem creation_early : Creation (opened true none [early])
    (.memory (({ label := "InMemoryDriver" } : Store).ensureCollection collection) none) collection (top true)
    (bottom true) 0 early :=
  creation rfl rfl

theorem mem_top : top true ∈ (layout true).family collection :=
  creation_early.member

theorem opened_recorded (evaluator : Option Nat) : (opened true evaluator []).Recorded 0 0 collection [] [] :=
  .start (hierarchy true) mem_top rfl rfl rfl rfl

theorem handles (recorded : w.Recorded 0 0 collection os cs) (same : w.layout = layout true)
    (class_ : x.model = alarm) : Handles (holding w x) 0 0 collection os cs (top true) (bottom true) 0 x := by
  have layout : (holding w x).layout = layout true := same
  refine ⟨.other recorded rfl ?_, layout ▸ mem_top, layout ▸ creation_early.below, layout ▸ creation_early.only,
    rfl, class_.trans (bottom_model true).symm⟩
  exact fun s evaluator driven => ⟨s, evaluator, driven, rfl, rfl, rfl⟩

/-- Whether only alarms have been created so far. -/
structure Rings (w : Workspace) (os : List Origin) : Prop where
  recorded : w.Recorded 0 0 collection os []
  layout : w.layout = layout true
  own : ∀ o ∈ os, o.own = bottom true

theorem Rings.createsKey (rings : Rings w os) : (holding w x).CreatesKey 0 collection os (bottom true) x :=
  fun _ o _ listed _ _ => rings.own o (List.mem_of_getElem? listed)

theorem rings_opened (evaluator : Option Nat) : Rings (opened true evaluator []) [] :=
  ⟨opened_recorded evaluator, rfl, List.forall_mem_nil _⟩

theorem Rings.rung (rings : Rings w os) (class_ : x.model = alarm) (conforms : (bottom true).Conforms x)
    (done : ((create true 0).exec (holding w x)).1.toBool = true) :
    ∃ made, Rings (rung w x) (os ++ [⟨bottom true, made⟩]) := by
  have handles := handles rings.recorded rings.layout class_
  have made := exec_create true 0 (holding w x) done
  obtain ⟨x', made', -, -, -, recorded⟩ := handles.created conforms made
  obtain ⟨s, evaluator, -, driven, -⟩ := rings.recorded.records.exists_store
  have stepped := stepped_create handles.recorded.records.declared handles.target driven made
  refine ⟨made', recorded, stepped.layout.trans rings.layout, ?_⟩
  exact List.forall_mem_append.mpr ⟨rings.own, List.forall_mem_singleton.mpr rfl⟩

end Log

namespace Run

open Workspace

/-- Saving and removing hit the row that the mapping of the class of an instance created with its key, and nothing
    else: of that row the columns of other mappings and the key stay as they are, and what is read by the key
    afterwards equals the instance. -/
theorem hits_created (handles : Handles w driver schema ref os cs t m id x) :
    (m.Conforms x → ∀ name w', (createEntity t (.object (.entity id name))).exec w = (.ok (), w') →
      ∃ x' made, w'.entities[id]? = some x' ∧ m.Refreshes x x' made ∧ m.HasKey x' made ∧
        w'.Recorded driver schema ref (os ++ [⟨m, made⟩]) cs) ∧
    (m.Includes x false → m.Identifies x → w.CreatesKey driver ref os m x →
      (∀ name w', (saveEntity t (.object (.entity id name))).exec w = (.ok (), w') →
        ∃ s evaluator i old new, w.Locates driver ref os m x s evaluator i old ∧
          w' = w.withRows driver s evaluator ref.name ((s.rows ref.name).set i new) ∧
          (∀ k, (∀ f ∈ m.allFields, f.primaryKey = false → f.name ≠ k) → new.get? k = old.get? k) ∧
          w'.Recorded driver schema ref os cs ∧
          (m.Admits x → (w.evaluatorOf (.memory s evaluator)).Equates →
            ∀ t' ∈ w.layout.family ref, Below w.layout t' m →
              ∃ y, entityOf ((findEntity t' (m.keyFilter x)).exec w') = some y ∧ y.Equals x)) ∧
      ∀ name w', (removeEntity t (.object (.entity id name))).exec w = (.ok (), w') →
        ∃ s evaluator i old, w.Locates driver ref os m x s evaluator i old ∧
          w' = w.withRows driver s evaluator ref.name ((s.rows ref.name).eraseIdx i) ∧
          w'.Recorded driver schema ref (os.eraseIdx i) cs) := by
  have records := handles.recorded.records
  have known := (Layout.mem_family.mp handles.own).1
  have fits := records.hierarchy.fits m handles.own
  refine ⟨fun conforms name w' done => handles.created conforms done, fun includes identifies mine =>
    ⟨fun name w' done => ?_, fun name w' done => handles.removed includes identifies mine done⟩⟩
  obtain ⟨s, evaluator, i, old, new, row, located, has, keyed, writes, column, same, recorded⟩ :=
    handles.saved_cases includes identifies mine done
  obtain ⟨made, listed, -⟩ := located.origin
  obtain ⟨r, there, keeps, owned, -⟩ := records.exists_row (m := m) (x := x) located.driven handles.own listed
  cases located.here.symm.trans there
  refine ⟨s, evaluator, i, old, new, located, same, fun k => get?_saved_of_ne owned writes column, recorded,
    fun admits equal t' target below => ?_⟩
  subst same
  have driven : (w.withRows driver s evaluator ref.name ((s.rows ref.name).set i new)).drivers[driver]? = _ :=
    driven_of_set located.driven rfl
  have here : ((s.setRows ref.name ((s.rows ref.name).set i new)).rows ref.name)[i]? = some new := by
    rw [Store.rows_setRows, if_pos (beq_self_eq_true _)]
    exact List.getElem?_set_self (List.getElem?_eq_some_iff.mp located.here).1
  rw [w.evaluatorOf_memory s (s.setRows ref.name ((s.rows ref.name).set i new))] at equal
  have resembles := resembles_saved records.sound known fits admits writes column keeps has
  exact finds_resembling recorded driven handles.own handles.class_ admits identifies keyed writes listed here
    resembles equal target below

/-- An alarm that has got another number is saved through the entries, read back, and removed. -/
theorem hits_created_alarm : ∃ w w' w'' made y,
    w.Recorded 0 0 Log.collection [⟨Log.bottom true, made⟩] [] ∧
    w.entities[0]? = some (Log.numbered Log.early 7) ∧
    (saveEntity (Log.top true) (.object (.entity 0 "Alarm"))).exec w = (.ok (), w') ∧
    entityOf ((findEntity (Log.top true) ((Log.bottom true).keyFilter (Log.numbered Log.early 7))).exec w') = some y ∧
    y.Equals (Log.numbered Log.early 7) ∧
    (removeEntity (Log.top true) (.object (.entity 0 "Alarm"))).exec w' = (.ok (), w'') ∧
    w''.Recorded 0 0 Log.collection [] [] := by
  let x := Log.numbered Log.early 7
  let w₀ := Log.opened true none []
  have conforms : (Log.bottom true).Conforms Log.early := by
    unfold Mapping.Conforms
    decide +kernel
  obtain ⟨made, rings⟩ := (Log.rings_opened none).rung rfl conforms (by decide +kernel)
  let w := Log.holding (Log.rung w₀ Log.early) x
  let w' := ((saveEntity (Log.top true) (.object (.entity 0 "Alarm"))).exec w).2
  have handles : Handles w 0 0 Log.collection [⟨Log.bottom true, made⟩] [] (Log.top true) (Log.bottom true) 0 x :=
    Log.handles rings.recorded rings.layout rfl
  have admits : (Log.bottom true).Admits x := by decide +kernel
  have identifies : (Log.bottom true).Identifies x := by
    unfold Mapping.Identifies
    decide +kernel
  have equates : ∀ d, w.drivers[0]? = some d → (w.evaluatorOf d).Equates := fun d driven =>
    (standard_of_default (by decide +kernel) d driven).equates
  have saved : (saveEntity (Log.top true) (.object (.entity 0 "Alarm"))).exec w = (.ok (), w') :=
    exec_ok (by decide +kernel)
  have removed : (removeEntity (Log.top true) (.object (.entity 0 "Alarm"))).exec w' = (.ok (), _) :=
    exec_ok (by decide +kernel)
  obtain ⟨s, evaluator, i, old, new, located, same, -, recorded, reads⟩ :=
    ((hits_created handles).2 admits.includes identifies rings.createsKey).1 _ _ saved
  obtain ⟨y, read, equals⟩ := reads admits (equates _ located.driven) _ handles.target handles.below
  have handles' : Handles w' 0 0 Log.collection [⟨Log.bottom true, made⟩] [] (Log.top true) (Log.bottom true) 0 x :=
    same ▸ ⟨same ▸ recorded, handles.target, handles.below, handles.only, handles.given, handles.class_⟩
  have mine : w'.CreatesKey 0 Log.collection [⟨Log.bottom true, made⟩] (Log.bottom true) x :=
    fun _ o _ listed _ _ => rings.own o (List.mem_of_getElem? listed)
  obtain ⟨s', evaluator', j, old', located', -, rest⟩ :=
    ((hits_created handles').2 admits.includes identifies mine).2 _ _ removed
  obtain ⟨made', listed, -⟩ := located'.origin
  have first : j = 0 := Nat.lt_one_iff.mp (List.getElem?_eq_some_iff.mp listed).1
  subst first
  exact ⟨w, w', _, made, y, handles.recorded, rfl, saved, read, equals, removed, rest⟩

/-- Whether an instance whose values are of the types of its attributes is saved over the row that was created with
    its key, and then not read back by its key as one that equals it. -/
def Misreads (w : Workspace) (driver schema : Nat) (ref : CollectionRef) (os cs : List Origin) (t m : Mapping)
    (id : Nat) (x : Entity) : Prop :=
  Handles w driver schema ref os cs t m id x ∧ m.Includes x false ∧ m.Identifies x ∧
    w.CreatesKey driver ref os m x ∧
    ∃ name w', (saveEntity t (.object (.entity id name))).exec w = (.ok (), w') ∧
      ∀ y, entityOf ((findEntity t (m.keyFilter x)).exec w') = some y → ¬y.Equals x

theorem misreads_of_check {w₀ : Workspace} {n : Int} {y : Entity} (rings : Log.Rings w₀ os)
    (class_ : y.model = Log.alarm)
    (includes : (Log.bottom true).Includes (Log.numbered y n) false)
    (identifies : ((Log.bottom true).keyFields.all fun f => !((Log.numbered y n).get f.ref).isNone) = true)
    (done : ((saveEntity (Log.top true) (.object (.entity 0 "Alarm"))).exec
      (Log.holding w₀ (Log.numbered y n))).1.toBool = true)
    (other : ((entityOf ((findEntity (Log.top true) ((Log.bottom true).keyFilter (Log.numbered y n))).exec
      ((saveEntity (Log.top true) (.object (.entity 0 "Alarm"))).exec (Log.holding w₀ (Log.numbered y n))).2)).all
        fun z => Log.alarm.attributes.any fun a => !(z.get a.name == (Log.numbered y n).get a.name)) = true) :
    Misreads (Log.holding w₀ (Log.numbered y n)) 0 0 Log.collection os [] (Log.top true) (Log.bottom true) 0
      (Log.numbered y n) := by
  refine ⟨Log.handles rings.recorded rings.layout class_, includes, fun f field => ?_, rings.createsKey, _, _,
    exec_ok done, fun z read equals => ?_⟩
  · have some := List.all_eq_true.mp identifies f field
    rwa [Bool.not_eq_true'] at some
  · rw [read, Option.all_some] at other
    rcases List.any_eq_true.mp other with ⟨a, declared, differs⟩
    have class_ : (Log.numbered y n).model = Log.alarm := class_
    rw [equals.value a (class_ ▸ declared)] at differs
    cases differs

/-- An evaluator that compares texts without regard to case finds an alarm of a similar key, and an offset of less
    than a second is lost. -/
theorem not_hits_created :
    (∃ w os x, Misreads w 0 0 Log.collection os [] (Log.top true) (Log.bottom true) 0 x ∧
      (Log.bottom true).Admits x) ∧
    ∃ w os x, Misreads w 0 0 Log.collection os [] (Log.top true) (Log.bottom true) 0 x ∧
      ∀ d, w.drivers[0]? = some d → (w.evaluatorOf d).Equates := by
  have conforms : (Log.bottom true).Conforms Log.loud ∧ (Log.bottom true).Conforms Log.plain := by
    unfold Mapping.Conforms
    decide +kernel
  refine ⟨?_, ?_⟩
  · obtain ⟨_, rings⟩ := (Log.rings_opened (some 0)).rung rfl conforms.1 (by decide +kernel)
    obtain ⟨_, rings⟩ := rings.rung rfl conforms.2 (by decide +kernel)
    have admits : (Log.bottom true).Admits (Log.numbered Log.plain 2) := by decide +kernel
    exact ⟨_, _, _, misreads_of_check rings rfl admits.includes (by decide +kernel) (by decide +kernel)
      (by decide +kernel), admits⟩
  · obtain ⟨_, rings⟩ := (Log.rings_opened none).rung rfl conforms.2 (by decide +kernel)
    have equates : ∀ d, (Log.holding (Log.rung (Log.opened true none []) Log.plain)
        (Log.numbered Log.odd 1)).drivers[0]? = some d → _ := fun d driven =>
      (standard_of_default (by decide +kernel) d driven).equates
    exact ⟨_, _, _, misreads_of_check rings rfl (by decide +kernel) (by decide +kernel) (by decide +kernel)
      (by decide +kernel), equates⟩

end Run

end ModelStore
