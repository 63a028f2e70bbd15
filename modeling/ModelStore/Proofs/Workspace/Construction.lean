import ModelStore.Proofs.Workspace.Calls
import ModelStore.Proofs.Workspace.Declaring

/-!
What constructing mappings one after another makes of a schema. A declaration that fails leaves everything
as it was; one that succeeds adds its own columns, indexes and mapping, each after those that were there.
-/

namespace ModelStore

open Declaration

namespace Layout

variable {l l' : Layout} {models : List Model} {drivers : List Driver} {d : Declaration} {schema : Nat}
  {m p : Mapping} {parent : Option Mapping} {ref : CollectionRef} {old new : Collection}

/-- An index with the storage names of the attributes that the descriptor names. -/
def Translates (m : Mapping) (c : Collection) (descriptor : Value) (i : CollectionIndex) : Prop :=
  ∃ given, CollectionIndex.check descriptor = .ok given ∧ i.unique = given.unique ∧
    i.name = some (given.name.getD (c.deriveName i.fields)) ∧
    List.Forall₂ (fun named name => ∃ f ∈ m.allColumns, f.ref = named ∧ f.name = name)
      given.fields i.fields

/-- What a declaration that succeeds makes of a layout. -/
structure Adds (drivers : List Driver) (d : Declaration) (l l' : Layout) (m : Mapping)
    (parent : Option Mapping) (ref : CollectionRef) (old new : Collection) : Prop where
  parent_eq : parent = d.parentIn l
  mappings : l'.mappings = l.mappings ++ [m]
  stored : m.collection = some ref
  discriminator : Check.nullable Check.nonEmptyText d.discriminator = .ok (m.column.map (·.name))
  declared : ∃ fs, d.fields.items = .ok fs ∧
    fs.mapM (augmented ((drivers[m.driver]?).getD .minimal)) = .ok m.fields
  columns : new.fields = old.fields ++ (m.column.toList ++ m.fields).map (·.toCollectionField)
  indexed : ∃ is stored, d.indexes.items = .ok is ∧ List.Forall₂ (Translates m old) is stored ∧
    new.indexes = old.indexes ++ stored
  other : new.name = old.name ∧ new.foreignKeys = old.foreignKeys
  root : parent = none → old.fields = [] ∧ old.indexes = [] ∧ ref = l.collections.fresh old.name ∧
    l'.collections = l.collections ++ [new] ∧
    l'.schemas = l.schemas.set m.schema { members := (l.schema m.schema).members ++ [ref] }
  child : ∀ p, parent = some p → p.collection = some ref ∧ l.collections[ref.id]? = some old ∧
    l'.collections = l.collections.set ref.id new ∧ l'.schemas = l.schemas
  appended : ∀ p, parent = some p → l'.children p = l.children p ++ [m]
  unrelated : ∀ q ∈ l.mappings, parent ≠ some q → l'.children q = l.children q

theorem translates_of_storedIndex {descriptor : Value} {i : CollectionIndex} {c : Collection}
    (sound : m.Sound schema) (done : storedIndex m c descriptor = .ok i) : Translates m c descriptor i := by
  rcases Outcome.of_bind done with ⟨given, checked, done⟩
  rcases Outcome.of_bind done with ⟨names, translated, done⟩
  cases done
  refine ⟨given, Checked.of_orInvalid checked, rfl, rfl, ?_⟩
  refine (Outcome.forall₂_of_mapM translated).imp fun named name found => ?_
  rcases Outcome.of_map found with ⟨f, known, rfl⟩
  obtain ⟨column, same⟩ := sound.fieldByRef_cases known
  exact ⟨f, column, (Option.some.inj same).symm, rfl⟩

theorem children_append (mappings : l'.mappings = l.mappings ++ [m])
    (ancestors : m.ancestors = (parent.map Mapping.chain).getD []) (q : Mapping) :
    l'.children q = if parent.any (·.id == q.id) then l.children q ++ [m] else l.children q := by
  have above : m.parent? = parent.map (·.toLevel) := by
    rw [Mapping.parent?, ancestors]
    cases parent with
    | none => rfl
    | some p => simp [Mapping.chain]
  rw [children, mappings, List.filter_append, children]
  cases parent with
  | none => simp [above]
  | some p => by_cases same : p.id = q.id <;> simp [above, same]

theorem adds_of_plan {p : Plan} {described : Mapping} {indexes : List Value} (sound : l.Sound schema)
    (kind : d.kind = .hierarchy) (schema_eq : p.mapping.schema = schema)
    (planned : Planned l models drivers d p described parent indexes)
    (attached : l.attach p.mapping p.ref p.extended = .ok l') :
    Adds drivers d l l' p.mapping parent p.ref p.collection p.extended := by
  have facts := describe_cases planned.described
  have step := step_of_plan kind planned attached
  have own : p.mapping.Sound schema := step.sound schema_eq fun q linked =>
    ⟨schema, sound.each q (step.known q linked)⟩
  have driver : p.mapping.driver = described.driver := by rw [planned.mapping]
  have fields : p.mapping.fields = described.fields := by rw [planned.mapping]
  obtain ⟨raw, x, -, column⟩ := planned.column
  obtain ⟨fs, items, augmented⟩ := facts.fields
  refine ⟨facts.parent_eq, mappings_of_attach attached, step.collection, ?_, ⟨fs, items, ?_⟩, rfl, ?_,
    ⟨rfl, rfl⟩, ?_, ?_, ?_, ?_⟩
  · rw [facts.discriminator, column, Option.map_map]
    exact congrArg _ (Option.map_id' ..).symm
  · rw [driver, fields, augmented]
  · refine ⟨indexes, p.indexes, facts.indexes kind, ?_, rfl⟩
    exact (Outcome.forall₂_of_mapM planned.indexes).imp fun _ _ => translates_of_storedIndex own
  · rintro rfl
    obtain ⟨-, fresh, none, empty⟩ := place_root planned.place
    obtain ⟨-, -, -, rfl⟩ := fresh_of_root step
    exact ⟨none, empty, fresh, rfl, rfl⟩
  · rintro q rfl
    obtain ⟨stored, current, rfl⟩ := place_of_child step
    refine ⟨stored, ?_, rfl, rfl⟩
    have inside := sound.contained q (step.known q rfl) p.ref stored
    rw [current, Catalog.get, List.getElem?_eq_getElem inside, Option.getD_some]
  · rintro q rfl
    rw [children_append (mappings_of_attach attached) step.ancestors q, Option.any_some, if_pos (beq_self_eq_true _)]
  · intro q known other
    rw [children_append (mappings_of_attach attached) step.ancestors q, if_neg]
    intro linked
    obtain ⟨r, rfl, same⟩ := (Option.any_eq_true ..).mp linked
    exact other (congrArg some (sound.eq_of_id (step.known r rfl) known (beq_iff_eq.mp same)))

end Layout

/-- A declaration is of a mapping of a hierarchy and names no other schema. -/
def Declaration.Over (schema : Nat) (d : Declaration) : Prop :=
  d.kind = .hierarchy ∧ ∀ id, d.schema = .object (.schema id) → id = schema

namespace Run

variable {w w' : Workspace} {d : Declaration} {schema : Nat}

/-- What one declaration comes to on a sound layout. -/
theorem declare_sound {outcome : Except Error Handle} (sound : w.layout.Sound schema) (ours : d.Over schema)
    (done : (declare d).exec w = (outcome, w')) :
    w'.layout.Sound schema ∧ ((w' = w ∧ ∃ e, outcome = .error e) ∨
      ∃ m parent ref old new, outcome = .ok m.handle ∧
        Layout.Adds w.drivers d w.layout w'.layout m parent ref old new) := by
  obtain ⟨kind, schema_eq⟩ := ours
  rcases declare_cases kind sound.contained done with ⟨rfl, failed⟩ | ⟨l, m, journal, made, answer, rfl⟩
  · exact ⟨sound, .inl ⟨rfl, failed⟩⟩
  · obtain ⟨p, plan, rfl, attached⟩ := Layout.declare_cases kind made
    obtain ⟨described, parent, indexes, planned⟩ := Layout.plan_cases plan
    have facts := Layout.describe_cases planned.described
    have same : p.mapping.schema = schema := by
      have own : p.mapping.schema = described.schema := by rw [planned.mapping]
      have given := facts.schema
      unfold schemaNumber at given
      split at given
      · rename_i id named
        cases given
        rw [own]
        exact schema_eq _ named
      · cases given
    exact ⟨sound.step same (Layout.step_of_plan kind planned attached),
      .inr ⟨p.mapping, parent, p.ref, p.collection, p.extended, answer,
        Layout.adds_of_plan sound kind same planned attached⟩⟩

/-- Layouts stay sound under declarations. -/
theorem after_declarations (sound : w.layout.Sound schema) (ds : List Declaration)
    (ours : ∀ d ∈ ds, d.Over schema) : (after (ds.map declare) w).layout.Sound schema := by
  induction ds generalizing w with
  | nil => exact sound
  | cons d ds ih =>
    obtain ⟨own, later⟩ := List.forall_mem_cons.mp ours
    exact ih (declare_sound sound own rfl).1 later

/-- Mappings are constructed one after another over a schema: whatever was constructed before, the next
    declaration fails and changes nothing, or succeeds and adds exactly what it says; and the columns of
    every collection are distinct, those of the mappings of its hierarchy in the order of construction. -/
theorem declare_exact {outcome : Except Error Handle} (start : w.layout.mappings = [])
    (there : schema < w.layout.schemas.length) (ds : List Declaration) (ours : ∀ x ∈ ds ++ [d], x.Over schema)
    (done : (declare d).exec (after (ds.map declare) w) = (outcome, w')) :
    (∀ e, outcome = .error e → w' = after (ds.map declare) w) ∧
      (∀ h, outcome = .ok h → ∃ m parent ref old new, h = m.handle ∧
        Layout.Adds (after (ds.map declare) w).drivers d (after (ds.map declare) w).layout w'.layout m parent
          ref old new) ∧
      ∀ m ∈ w'.layout.mappings, ∃ ref c, m.collection = some ref ∧
        w'.layout.collections[ref.id]? = some c ∧ c.fieldNames.Nodup ∧
        c.fields = ((w'.layout.mappings.filter (·.collection == some ref)).flatMap (·.columns)).map
          (·.toCollectionField) := by
  have before := after_declarations (Layout.sound_of_empty start there) ds fun x member =>
    ours x (List.mem_append_left _ member)
  obtain ⟨sound, result⟩ := declare_sound before (ours d (by simp)) done
  refine ⟨?_, ?_, fun m member => ?_⟩
  · rintro e rfl
    rcases result with ⟨same, -⟩ | ⟨m, parent, ref, old, new, answer, -⟩
    · exact same
    · cases answer
  · rintro h rfl
    rcases result with ⟨-, e, failed⟩ | ⟨m, parent, ref, old, new, answer, adds⟩
    · cases failed
    · cases answer
      exact ⟨m, parent, ref, old, new, rfl, adds⟩
  · obtain ⟨ref, c, stored, stores⟩ := sound.stored m member
    exact ⟨ref, c, stored, stores.found, stores.distinct, stores.fields⟩

end Run

/-! A fleet of vehicles, of which some are cars. -/

namespace Fleet

def vehicle : Model where
  name := "Vehicle"
  lineage := ["Vehicle"]
  validated := true
  attributes := [⟨"plate", .str, false, none⟩]
  frozen := false

def car : Model where
  name := "Car"
  lineage := ["Car", "Vehicle"]
  validated := true
  attributes := vehicle.attributes ++ [⟨"doors", .int, false, none⟩]
  frozen := false

/-- The declaration of a mapping of the fleet. -/
def declaration (model : Model) (fields : List Value) : Declaration where
  kind := .hierarchy
  model := model.toValue
  driver := .object (.driver .memory 0)
  schema := .object (.schema 0)
  fields := .tuple fields

/-- The plate is stored as the number, and no two vehicles have the same one. -/
def vehicles : Declaration :=
  { declaration vehicle [.dict [(.str "name", .str "number"), (.str "ref", .str "plate"),
      (.str "type", .str "string")]] with
    discriminator := .str "kind"
    indexes := .tuple [.dict [(.str "fields", .tuple [.str "plate"]), (.str "unique", .bool true)]] }

def cars (column : String) : Declaration :=
  { declaration car [.dict [(.str "name", .str column), (.str "ref", .str "doors"), (.str "type", .str "integer")]] with
    parent := .object (.mapping .hierarchy 0 "Vehicle")
    values := .dict [(.str "kind", .str "car")] }

def opened : Workspace where
  layout := { schemas := [{}] }
  models := [vehicle, car]
  drivers := [.ofEvaluator none]

/-- The vehicles are declared, and cars with a column that the vehicles have. -/
def declared : Workspace := Run.after [Run.declare vehicles, Run.declare (cars "number")] opened

end Fleet

/-- The cars that were refused left nothing behind. -/
theorem Run.declare_exact_cars : ∃ h m parent ref old new,
    ((declare (Fleet.cars "doors")).exec Fleet.declared).1 = .ok h ∧ h = m.handle ∧
      Layout.Adds Fleet.declared.drivers (Fleet.cars "doors") Fleet.declared.layout
        ((declare (Fleet.cars "doors")).exec Fleet.declared).2.layout m parent ref old new := by
  have ours : ∀ x ∈ [Fleet.vehicles, Fleet.cars "number"] ++ [Fleet.cars "doors"], x.Over 0 := by
    intro x member
    simp only [List.cons_append, List.nil_append, List.mem_cons, List.not_mem_nil, or_false] at member
    rcases member with rfl | rfl | rfl <;> exact ⟨rfl, fun id same => by cases same; rfl⟩
  obtain ⟨-, added, -⟩ := declare_exact (w := Fleet.opened) rfl (by decide)
    [Fleet.vehicles, Fleet.cars "number"] ours rfl
  have answered : ((declare (Fleet.cars "doors")).exec Fleet.declared).1.toBool = true := by decide +kernel
  cases answer : ((declare (Fleet.cars "doors")).exec Fleet.declared).1 with
  | error e =>
    rw [answer] at answered
    cases answered
  | ok h =>
    obtain ⟨m, parent, ref, old, new, same, adds⟩ := added h answer
    exact ⟨h, m, parent, ref, old, new, rfl, same, adds⟩

/-- The columns and indexes of the vehicles after the declaration of the cars. -/
example : ((Run.declare (Fleet.cars "doors")).exec Fleet.declared).2.layout.collections.map
    (fun c => (c.fieldNames, c.indexes)) =
    [(["kind", "number", "doors"], [⟨some "vehicle.number", ["number"], true⟩])] := by
  decide +kernel

end ModelStore
