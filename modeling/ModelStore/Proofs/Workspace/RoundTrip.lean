import ModelStore.Proofs.Mapping.Keys
import ModelStore.Proofs.Workspace.Reached

/-!
Instances there and back. An instance that is created through one mapping is found again by its
primary key through every other that is above its own, and the one that is found equals it.
-/

namespace ModelStore

open Layout (Below)
open Run (createEntity findEntity)

variable {w w' : Workspace} {driver schema : Nat} {ref : CollectionRef} {c : Collection}
  {s t m : Mapping} {x x' : Entity} {row back : Row} {id : Nat} {name : String} {store store' : Store}
  {evaluator : Option Nat} {rows : List Row}

namespace Layout

variable {l : Layout} {e : Evaluator} {q : Query}

/-- The row that an instance has been created as is the only one with its key. -/
theorem Hierarchy.find_key (evaluator : Option Nat) (hierarchy : l.Hierarchy driver schema ref)
    (member : m ∈ l.family ref)
    (stores : l.Stores schema ref c) (target : t ∈ l.family ref) (below : Below l t m)
    (equal : e.Equates) (keyed : m.keyFields ≠ []) (creates : m.Creates c x row) (holds : m.Holds x' row)
    (present : ∀ f ∈ m.keyFields, (x'.get f.ref).isNone = false)
    (unique : store.checkUnique c ref.name row rows = .ok ())
    (provisioned : store'.shapes.get? ref.name = some ref)
    (stored : store'.rows ref.name = rows ++ [row]) :
    ∃ q, t.parse ref (m.keyFilter x') { limit := some 1 } = .ok q ∧
      (Driver.memory store' evaluator).findOne l.collections e q = .ok (some (row.document ref.name)) := by
  have sound := hierarchy.declared.sound
  have fits := hierarchy.fits m member
  have known := (mem_family.mp target).1
  have read := sound.keyFilter_clauses hierarchy.keys member target fits holds
  obtain ⟨q, parsed, found⟩ := Mapping.find_of_clauses evaluator (o := { limit := some 1 }) (sound.each _ known) equal
    provisioned rfl read fun r _ _ => Mapping.keyClauses_told equal r
  refine ⟨q, parsed, ?_⟩
  have covered : t.covers row = true := (Mapping.covers_iff (sound.each _ known) row).mpr fun k v given => by
    rw [Row.column_of_get? (creates.value k v (below.values sound known given)), str_beq_self]
  have alone := sound.filter_sharesKey hierarchy.keys member stores fits keyed holds present unique
  rw [stored, ← List.filter_filter, alone, List.filter_singleton, covered] at found
  rw [Driver.findOne, found]
  rfl

/-- A row that was created is restored as an instance that equals the one it was created of. -/
theorem Hierarchy.restore_created (hierarchy : l.Hierarchy driver schema ref) (member : m ∈ l.family ref)
    (stores : l.Stores schema ref c) (target : t ∈ l.family ref) (below : Below l t m)
    (creates : m.Creates c x row) (holds : m.Holds x' row) (class_ : x'.model = m.model)
    (converted : c.convertRow .fromStore row = .ok back) :
    ∃ y, l.restore t ref (row.document ref.name) = .ok y ∧ y.model = x'.model ∧ y.fields = x'.fields := by
  have sound := hierarchy.declared.sound
  have fits := hierarchy.fits m member
  have resolved := sound.resolve_of_tagged hierarchy.differ member stores target below
    (stores.tagged_of_creates creates) converted
  obtain ⟨y, restored, model, values⟩ := sound.restore_eq stores (mem_family.mp target).1 member fits.agrees
    converted resolved fun f field a declared same => by
      rcases holds f field a declared same with ⟨raw, present, kept⟩
      exact ⟨raw, x'.get f.ref, present, kept.restored, kept.accepted⟩
  refine ⟨y, restored, model.trans class_.symm, ?_⟩
  rw [Entity.fields, Entity.fields, model, class_]
  refine List.map_congr_left fun a declared => ?_
  rcases fits.mapped a declared with ⟨f, field, same⟩
  rcases holds f field a declared same with ⟨raw, present, kept⟩
  have value := values f field
  rw [Row.column_of_get? present, kept.restored, same] at value
  rw [Except.ok.inj value]

end Layout

namespace Run

/-- An instance of a mapping is about to be created through one that is at or above it. -/
structure Creation (w : Workspace) (d : Driver) (ref : CollectionRef) (s m : Mapping) (id : Nat)
    (x : Entity) : Prop where
  hierarchy : w.layout.Hierarchy s.driver s.schema ref
  member : s ∈ w.layout.family ref
  below : Below w.layout s m
  only : ∀ b ∈ w.layout.family ref, b.model.name = m.model.name → b = m
  driven : w.drivers[s.driver]? = some d
  memory : ∃ store evaluator, d = .memory store evaluator ∧ store.shapes.get? ref.name = some ref
  given : w.entities[id]? = some x
  class_ : x.model = m.model

/-- The instance that an operation answers. -/
def entityOf (r : Except Error Value × Workspace) : Option Entity :=
  match r.1 with
  | .ok (.object (.entity id _)) => r.2.entities[id]?
  | _ => none

/-- Whether an instance is found by its key, as one that equals it, from every mapping above its own. -/
def Finds (w : Workspace) (ref : CollectionRef) (m : Mapping) (x : Entity) : Prop :=
  ∀ t ∈ w.layout.family ref, Below w.layout t m →
    ∃ y, entityOf ((findEntity t (m.keyFilter x)).exec w) = some y ∧ y.model = x.model ∧
      y.fields = x.fields

namespace Creation

theorem own (ready : Creation w (.memory store evaluator) ref s m id x) : m ∈ w.layout.family ref :=
  ready.hierarchy.declared.sound.family_below ready.member ready.below

theorem provisioned (ready : Creation w (.memory store evaluator) ref s m id x) :
    store.shapes.get? ref.name = some ref := by
  obtain ⟨_, _, same, provisioned⟩ := ready.memory
  cases same
  exact provisioned

theorem mapped (ready : Creation w (.memory store evaluator) ref s m id x) : w.layout.mappingFor s x = .ok m := by
  refine ready.hierarchy.declared.sound.mappingFor_eq (Layout.mem_family.mp ready.member).1 ready.below
    (by rw [ready.class_]) fun b member same name => ready.only b ?_ name
  rw [Layout.mem_family, same]
  exact ⟨member, (Layout.mem_family.mp ready.own).2⟩

/-- What a successful creation leaves: the row of the instance after all others, and the instance with
    what was generated for it. -/
theorem created (ready : Creation w (.memory store evaluator) ref s m id x)
    (stores : w.layout.Stores s.schema ref c)
    (done : (createEntity s (.object (.entity id name))).exec w = (.ok (), w')) :
    ∃ row back x' store' journal, m.Creates c x row ∧ c.convertRow .fromStore row = .ok back ∧
      Mapping.refresh back m.allFields x = (x', .ok ()) ∧
      store.checkUnique c ref.name row (store.rows ref.name) = .ok () ∧
      store'.rows ref.name = store.rows ref.name ++ [row] ∧ store'.shapes = store.shapes ∧
      w' = { w with
        drivers := w.drivers.set s.driver (.memory store' evaluator)
        entities := w.entities.set id x'
        journal } := by
  obtain ⟨own, row, back, x', store', journal, mapped, -, creates, converted, refreshed, unique, rows, shapes, same⟩ :=
    Workspace.created_cases ready.hierarchy.declared ready.member stores ready.driven ready.provisioned ready.given done
  cases ready.mapped.symm.trans mapped
  exact ⟨row, back, x', store', journal, creates, converted, refreshed, unique, rows, shapes, same⟩

theorem collection (ready : Creation w (.memory store evaluator) ref s m id x) :
    ∃ c, w.layout.Stores s.schema ref c :=
  ready.hierarchy.declared.sound.exists_stores ready.member

/-- Another instance can be created after the first one. -/
theorem after {y : Entity} {j : Nat} (ready : Creation w (.memory store evaluator) ref s m id x)
    (done : (createEntity s (.object (.entity id name))).exec w = (.ok (), w'))
    (given : w.entities[j]? = some y) (other : id ≠ j) (class_ : y.model = m.model) :
    ∃ store', Creation w' (.memory store' evaluator) ref s m j y := by
  obtain ⟨c, stores⟩ := ready.collection
  obtain ⟨row, back, x', store', journal, -, -, -, -, -, shapes, rfl⟩ := ready.created stores done
  have place : (w.drivers.set s.driver (.memory store' evaluator))[s.driver]? =
      some (.memory store' evaluator) :=
    List.getElem?_set_self (List.getElem?_eq_some_iff.mp ready.driven).1
  have known : (w.entities.set id x')[j]? = some y := by rw [List.getElem?_set_ne other, given]
  exact ⟨store', ready.hierarchy, ready.member, ready.below, ready.only, place,
    ⟨store', evaluator, rfl, shapes ▸ ready.provisioned⟩, known, class_⟩

end Creation

end Run

/-! A log of entries, some of which are alarms. Entries may have a primary key, and alarms are numbered. -/

namespace Log

open Run

def entry : Model where
  name := "Entry"
  lineage := ["Entry"]
  validated := true
  attributes := [⟨"code", .str, false, none⟩, ⟨"at", .datetime, false, none⟩]
  frozen := false

def alarm : Model where
  name := "Alarm"
  lineage := ["Alarm", "Entry"]
  validated := true
  attributes := entry.attributes ++ [⟨"number", .int, true, some .none⟩]
  frozen := false

def entries (key : Bool) : Declaration where
  kind := .hierarchy
  model := entry.toValue
  driver := .object (.driver .memory 0)
  schema := .object (.schema 0)
  fields := .tuple
    [.dict [(.str "name", .str "code"), (.str "type", .str "string"), (.str "primary_key", .bool key)],
     .dict [(.str "name", .str "at"), (.str "type", .str "date")]]
  discriminator := .str "kind"
  collection := .str "log"

def alarms : Declaration where
  kind := .hierarchy
  model := alarm.toValue
  driver := .object (.driver .memory 0)
  schema := .object (.schema 0)
  fields := .tuple
    [.dict [(.str "name", .str "number"), (.str "type", .str "integer"), (.str "sequence", .bool true)]]
  parent := .object (.mapping .hierarchy 0 "Entry")
  values := .dict [(.str "kind", .str "alarm")]

def layout (key : Bool) : Layout :=
  let drivers := [Driver.ofEvaluator none]
  (({ schemas := [{}] } : Layout).after [entry, alarm] drivers (entries key)).after [entry, alarm] drivers
    alarms

def collection : CollectionRef := ⟨0, "log"⟩

theorem declared (key : Bool) : (layout key).Declared 0 0 := by
  refine .after (.after (.start rfl rfl) rfl ?_) rfl ?_
  · cases key <;> decide +kernel
  · cases key <;> decide +kernel

theorem hierarchy (key : Bool) : (layout key).Hierarchy 0 0 collection := by
  refine ⟨declared key, Layout.siblingsDiffer_of_nodup ?_, ?_, ?_⟩
  · cases key <;> decide +kernel
  · cases key <;> decide +kernel
  · unfold Layout.KeysOnTop
    cases key <;> decide +kernel

theorem mappings_ne_nil (key : Bool) : (layout key).mappings ≠ [] := by
  cases key <;> decide +kernel

/-- The mapping of the entries. -/
def top (key : Bool) : Mapping := (layout key).mappings.head (mappings_ne_nil key)

/-- The mapping of the alarms. -/
def bottom (key : Bool) : Mapping := (layout key).mappings.getLast (mappings_ne_nil key)

theorem bottom_model (key : Bool) : (bottom key).model = alarm := by
  cases key <;> cbv

/-- A new log beside some instances. The first evaluator compares texts without regard to case. -/
def opened (key : Bool) (evaluator : Option Nat) (xs : List Entity) : Workspace where
  layout := layout key
  models := [entry, alarm]
  drivers := [.memory (({ label := "InMemoryDriver" } : Store).ensureCollection collection) evaluator]
  evaluators := [Evaluator.default.register .eq Comparator.equalIgnoringCase]
  entities := xs

theorem creation {key : Bool} {evaluator : Option Nat} {xs : List Entity} {id : Nat} {x : Entity}
    (given : xs[id]? = some x) (class_ : x.model = alarm) :
    Creation (opened key evaluator xs)
      (.memory (({ label := "InMemoryDriver" } : Store).ensureCollection collection) evaluator) collection
      (top key) (bottom key) id x := by
  have first := List.head_mem (mappings_ne_nil key)
  have last := List.getLast_mem (mappings_ne_nil key)
  have number : (top key).driver = 0 ∧ (top key).schema = 0 := by cases key <;> decide +kernel
  refine ⟨?_, Layout.mem_family.mpr ⟨first, ?_⟩, .child .self (List.mem_filter.mpr ⟨last, ?_⟩), ?_, ?_,
    ⟨_, _, rfl, ?_⟩, given, class_.trans (bottom_model key).symm⟩
  · rw [number.1, number.2]
    exact hierarchy key
  · cases key <;> decide +kernel
  · cases key <;> decide +kernel
  · intro b member same
    have all : ∀ b ∈ (layout key).family collection, b.model.name = (bottom key).model.name →
        b.id = (bottom key).id := by
      cases key <;> decide +kernel
    exact (declared key).sound.eq_of_id (Layout.mem_family.mp member).1 last (all b member same)
  · rw [number.1]
    rfl
  · decide +kernel

theorem whole_second : 0 < 1000000 := by decide

theorem no_offset : ∀ o ∈ (none : Option Int), o.natAbs < 86400000000 := by simp

/-- An alarm that is not numbered yet. -/
def ringing (code : String) (offset : Option Int) (bound : ∀ o ∈ offset, o.natAbs < 86400000000) :
    Entity where
  model := alarm
  attributes :=
    [("code", .str code),
     ("at", .datetime ⟨⟨2024, 1, 2, by decide, by decide, by decide, by decide, by decide, by decide⟩,
        3, 4, 5, 0, offset, by decide, by decide, by decide, whole_second, bound⟩),
     ("number", .none)]

def early : Entity := ringing "a" (some 3600000000) (by simp)

def loud : Entity := ringing "A" none no_offset

def plain : Entity := ringing "a" none no_offset

/-- The offset is half a second. -/
def odd : Entity := ringing "a" (some 500000) (by simp)

/-- The values of an instance as they are written. -/
def shown (x : Entity) : List String := x.fields.map (·.2.quoted)

def create (key : Bool) (id : Nat) : Run Unit := createEntity (top key) (.object (.entity id "Alarm"))

theorem exec_create (key : Bool) (id : Nat) (w : Workspace)
    (done : ((create key id).exec w).1.toBool = true) :
    (create key id).exec w = (.ok (), ((create key id).exec w).2) :=
  exec_ok done

end Log

namespace Run

/-- An instance that is created keeps its values but for the generated ones; and it is found by its key
    from every mapping above its own, as one that equals it. -/
theorem find_created (ready : Creation w (.memory store evaluator) ref s m id x)
    (keyed : m.keyFields ≠ []) (equal : (w.evaluatorOf (.memory store evaluator)).Equates)
    (conforms : m.Conforms x)
    (done : (createEntity s (.object (.entity id name))).exec w = (.ok (), w')) :
    ∃ x' row store', w'.entities[id]? = some x' ∧
      w'.drivers[s.driver]? = some (.memory store' evaluator) ∧
      store'.rows ref.name = store.rows ref.name ++ [row] ∧ m.Refreshes x x' row ∧
      ((∀ f ∈ m.keyFields, (x'.get f.ref).isNone = false) → Finds w' ref m x') := by
  have sound := ready.hierarchy.declared.sound
  have drives := ready.hierarchy.declared.driver_eq
  have own := ready.own
  have fits := ready.hierarchy.fits m own
  obtain ⟨c, stores⟩ := ready.collection
  obtain ⟨row, back, x', store', journal, creates, converted, refreshed, unique, rows, shapes, rfl⟩ :=
    ready.created stores done
  obtain ⟨refreshes, holds⟩ :=
    sound.refresh_of_creates own stores fits conforms creates converted refreshed
  have model : x'.model = m.model := refreshes.model.trans ready.class_
  have place : (w.drivers.set s.driver (.memory store' evaluator))[s.driver]? =
      some (.memory store' evaluator) :=
    List.getElem?_set_self (List.getElem?_eq_some_iff.mp ready.driven).1
  refine ⟨x', row, store', List.getElem?_set_self (List.getElem?_eq_some_iff.mp ready.given).1, place,
    rows, refreshes, fun present t target above => ?_⟩
  have provisioned := ready.provisioned
  rw [← shapes] at provisioned
  rw [w.evaluatorOf_memory store store'] at equal
  obtain ⟨q, parsed, found⟩ := ready.hierarchy.find_key evaluator own stores target above
    equal keyed creates holds present unique provisioned rows
  obtain ⟨y, restored, same, fields⟩ :=
    ready.hierarchy.restore_created own stores target above creates holds model converted
  rcases Layout.mem_family.mp target with ⟨known, stored⟩
  have kind : t.isHierarchy = true := beq_iff_eq.mpr (sound.each t known).kind
  have there : (w.drivers.set s.driver (.memory store' evaluator))[t.driver]? =
      some (.memory store' evaluator) := by
    rw [drives t known]
    exact place
  have executed := exec_findEntity
    (w := { w with
      drivers := w.drivers.set s.driver (.memory store' evaluator)
      entities := w.entities.set id x'
      journal }) kind stored parsed there found restored
  refine ⟨y, ?_, same, fields⟩
  rw [executed]
  exact List.getElem?_concat_length

/-- An alarm without a number, created as an entry of the log, is found with its number. -/
theorem find_created_alarm : ∃ w x,
    (Log.create true 0).exec (Log.opened true none [Log.early]) = (.ok (), w) ∧
      w.entities[0]? = some x ∧ Finds w Log.collection (Log.bottom true) x := by
  have ready : Creation (Log.opened true none [Log.early]) _ Log.collection (Log.top true)
    (Log.bottom true) 0 Log.early := Log.creation rfl rfl
  have keyed : (Log.bottom true).keyFields ≠ [] := by decide +kernel
  have conforms : (Log.bottom true).Conforms Log.early := by
    unfold Mapping.Conforms
    decide +kernel
  have done := Log.exec_create true 0 (Log.opened true none [Log.early]) (by decide +kernel)
  have given : ∀ f ∈ (Log.bottom true).keyFields, ∀ g ∈ (Log.bottom true).allFields, g.ref = f.ref →
      g.unset Log.early = false := by decide +kernel
  have present : ∀ f ∈ (Log.bottom true).keyFields, (Log.early.get f.ref).isNone = false := by
    decide +kernel
  obtain ⟨x, _, _, known, _, _, refreshes, finds⟩ :=
    find_created ready keyed Evaluator.default_equates conforms done
  refine ⟨_, x, done, known, finds fun f field => ?_⟩
  rw [refreshes.kept f.ref (given f field)]
  exact present f field

/-- Whether an instance whose values its class accepts is created, and then other values of it than those
    left to a sequence have changed, or it is not found by its key. -/
def Loses (w : Workspace) (d : Driver) (ref : CollectionRef) (s m : Mapping) (id : Nat) (x : Entity) :
    Prop :=
  Creation w d ref s m id x ∧
    (∀ a ∈ m.model.attributes, a.check (x.get a.name) = Checked.ok (x.get a.name)) ∧
    ∃ w' x', (createEntity s (.object (.entity id x.model.name))).exec w = (.ok (), w') ∧
      w'.entities[id]? = some x' ∧ (∀ f ∈ m.keyFields, (x'.get f.ref).isNone = false) ∧
      ¬((∀ f ∈ m.allFields, f.unset x = false → x'.get f.ref = x.get f.ref) ∧ Finds w' ref m x')

theorem loses_of_shown {key : Bool} {w : Workspace} {d : Driver} {x : Entity} {id : Nat}
    (ready : Creation w d Log.collection (Log.top key) (Log.bottom key) id x) (class_ : x.model = Log.alarm)
    (accepted : ∀ a ∈ Log.alarm.attributes, a.check (x.get a.name) = Checked.ok (x.get a.name))
    (done : ((Log.create key id).exec w).1.toBool = true)
    (other : (((Log.create key id).exec w).2.entities[id]?).any (fun x' =>
      (Log.bottom key).keyFields.all (fun f => !(x'.get f.ref).isNone) &&
        ((Log.bottom key).allFields.any (fun f =>
            !f.unset x && (x'.get f.ref).quoted != (x.get f.ref).quoted) ||
          (entityOf ((findEntity (Log.top key) ((Log.bottom key).keyFilter x')).exec
            ((Log.create key id).exec w).2)).all fun y => Log.shown y != Log.shown x')) = true) :
    Loses w d Log.collection (Log.top key) (Log.bottom key) id x := by
  rw [Option.any_eq_true] at other
  obtain ⟨x', known, differs⟩ := other
  obtain ⟨present, differs⟩ := Bool.and_eq_true_iff.mp differs
  have made : (createEntity (Log.top key) (.object (.entity id x.model.name))).exec w =
      (.ok (), ((Log.create key id).exec w).2) := by
    rw [class_]
    exact Log.exec_create key id w done
  refine ⟨ready, by rwa [Log.bottom_model key], _, x', made, known, fun f field => ?_, ?_⟩
  · have some := List.all_eq_true.mp present f field
    rwa [Bool.not_eq_true'] at some
  · rintro ⟨kept, finds⟩
    rcases Bool.or_eq_true_iff.mp differs with changed | missed
    · rcases List.any_eq_true.mp changed with ⟨f, field, changed⟩
      obtain ⟨given, changed⟩ := Bool.and_eq_true_iff.mp changed
      rw [Bool.not_eq_true'] at given
      rw [kept f field given, bne_self_eq_false] at changed
      cases changed
    · obtain ⟨store, evaluator, rfl, -⟩ := ready.memory
      obtain ⟨c, stores⟩ := ready.collection
      obtain ⟨_, _, _, _, _, -, -, -, -, -, -, same⟩ := ready.created stores made
      have layout : ((Log.create key id).exec w).2.layout = w.layout := by rw [same]
      obtain ⟨y, answered, -, fields⟩ :=
        finds (Log.top key) (layout ▸ ready.member) (layout ▸ ready.below)
      rw [answered, Option.all_some, Log.shown, Log.shown, fields, bne_self_eq_false] at missed
      cases missed

/-- Without a primary key the first instance is found, and one of a similar key by an evaluator that
    compares texts without regard to case; an offset of less than a second is lost. -/
theorem not_finds_created :
    (∃ d, Loses ((Log.create false 0).exec (Log.opened false none [Log.loud, Log.plain])).2 d
        Log.collection (Log.top false) (Log.bottom false) 1 Log.plain ∧
      (((Log.create false 0).exec (Log.opened false none [Log.loud, Log.plain])).2.evaluatorOf d).Equates ∧
      (Log.bottom false).Conforms Log.plain) ∧
    (∃ d, Loses ((Log.create true 0).exec (Log.opened true (some 0) [Log.loud, Log.plain])).2 d
        Log.collection (Log.top true) (Log.bottom true) 1 Log.plain ∧
      (Log.bottom true).keyFields ≠ [] ∧ (Log.bottom true).Conforms Log.plain) ∧
    ∃ d, Loses (Log.opened true none [Log.odd]) d Log.collection (Log.top true) (Log.bottom true) 0
        Log.odd ∧
      (Log.bottom true).keyFields ≠ [] ∧ ((Log.opened true none [Log.odd]).evaluatorOf d).Equates := by
  have keyed : (Log.bottom true).keyFields ≠ [] := by decide +kernel
  have conforms : ∀ key, (Log.bottom key).Conforms Log.plain := by
    unfold Mapping.Conforms
    decide +kernel
  have accepted : ∀ x ∈ [Log.plain, Log.odd], ∀ a ∈ Log.alarm.attributes,
      a.check (x.get a.name) = Checked.ok (x.get a.name) := by
    refine List.forall_mem_cons.mpr ⟨?_, List.forall_mem_singleton.mpr ?_⟩
    · exact List.forall_mem_cons.mpr ⟨rfl, List.forall_mem_cons.mpr ⟨rfl, List.forall_mem_singleton.mpr rfl⟩⟩
    · exact List.forall_mem_cons.mpr ⟨rfl, List.forall_mem_cons.mpr ⟨rfl, List.forall_mem_singleton.mpr rfl⟩⟩
  have second : ∀ key evaluator,
      ((Log.create key 0).exec (Log.opened key evaluator [Log.loud, Log.plain])).1.toBool = true →
      ∃ store, Creation ((Log.create key 0).exec (Log.opened key evaluator [Log.loud, Log.plain])).2
        (.memory store evaluator) Log.collection (Log.top key) (Log.bottom key) 1 Log.plain := by
    intro key evaluator made
    have ready : Creation (Log.opened key evaluator [Log.loud, Log.plain]) _ Log.collection
      (Log.top key) (Log.bottom key) 0 Log.loud := Log.creation rfl rfl
    exact ready.after (Log.exec_create key 0 _ made) rfl (by decide) (Log.bottom_model key).symm
  refine ⟨?_, ?_, ?_⟩
  · obtain ⟨store, ready⟩ := second false none (by decide +kernel)
    exact ⟨_, loses_of_shown ready rfl (accepted _ (List.mem_cons_self ..)) (by decide +kernel)
      (by decide +kernel), Evaluator.default_equates, conforms false⟩
  · obtain ⟨store, ready⟩ := second true (some 0) (by decide +kernel)
    exact ⟨_, loses_of_shown ready rfl (accepted _ (List.mem_cons_self ..)) (by decide +kernel)
      (by decide +kernel), keyed, conforms true⟩
  · have ready : Creation (Log.opened true none [Log.odd]) _ Log.collection (Log.top true)
      (Log.bottom true) 0 Log.odd := Log.creation rfl rfl
    exact ⟨_, loses_of_shown ready rfl (accepted _ (List.mem_cons_of_mem _ (List.mem_singleton_self _)))
      (by decide +kernel) (by decide +kernel), keyed, Evaluator.default_equates⟩

end Run

end ModelStore
