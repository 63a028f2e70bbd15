import ModelStore.Mapping.Declaration
import ModelStore.Proofs.Assoc
import ModelStore.Proofs.Outcome

/-!
Layouts that come about by declarations. The main statement lists all that one declaration does to a
layout, so that what holds of every layout can be shown declaration by declaration.
-/

namespace ModelStore

namespace MappingConfig

variable {values : Assoc String String} {v : Value}

theorem checkTexts_nodup {es : List (Value × Value)} (done : checkTexts es = .ok values) :
    values.keys.Nodup := by
  have overlaid (n : Assoc String String) : ∀ m : Assoc String String, m.keys.Nodup →
      (m.overlay n).keys.Nodup := by
    induction n with
    | nil => exact fun _ distinct => distinct
    | cons e n ih => exact fun _ distinct => ih _ (Assoc.nodup_put distinct)
  cases es with
  | nil =>
    cases done
    exact List.nodup_nil
  | cons e es =>
    rcases Checked.of_seq done with ⟨_, rest, named, -, rfl⟩
    rcases Checked.of_seq named with ⟨_, text, keyed, -, rfl⟩
    rcases Checked.of_map keyed with ⟨name, -, rfl⟩
    exact overlaid rest _ (List.pairwise_singleton _ _)

theorem checkDiscriminators_nodup (done : checkDiscriminators v = .ok values) :
    values.keys.Nodup := by
  cases v with
  | dict es => exact checkTexts_nodup done
  | _ => cases done

theorem check_nodup {config : MappingConfig} (done : check v = .ok config) :
    config.discriminatorValues.keys.Nodup := by
  cases v with
  | dict es =>
    rcases Checked.of_seq done with ⟨make, values, others, checked, rfl⟩
    have plain : (make values).discriminatorValues = values := by
      rcases Checked.of_seq others with ⟨_, _, first, -, rfl⟩
      rcases Checked.of_seq first with ⟨_, _, second, -, rfl⟩
      rcases Checked.of_seq second with ⟨_, _, third, -, rfl⟩
      rcases Checked.of_seq third with ⟨_, _, fourth, -, rfl⟩
      rcases Checked.of_map fourth with ⟨_, -, rfl⟩
      rfl
    rw [plain]
    unfold optional at checked
    split at checked
    · exact checkDiscriminators_nodup (Checked.of_under checked)
    · cases checked
      exact List.nodup_nil
  | _ => cases done

theorem check_entries (model name fields discriminator parent values : Value) :
    check (.dict [(.str "model", model), (.str "name", name), (.str "fields", fields),
      (.str "virtual", discriminator), (.str "extends", parent), (.str "discriminator_values", values)]) =
      MappingConfig.mk <$> (checkModel model).under "model" <*> (Check.nonEmptyText name).under "name"
        <*> (Check.elements Checked.ok fields).under "fields"
        <*> (Check.nullable Check.nonEmptyText discriminator).under "virtual"
        <*> (checkParent parent).under "extends"
        <*> (checkDiscriminators values).under "discriminator_values" := by
  cbv

end MappingConfig

theorem Checked.elements_ok (i : Nat) (vs : List Value) : Checked.elements Checked.ok i vs = Checked.ok vs := by
  induction vs generalizing i with
  | nil => rfl
  | cons v vs ih =>
    rw [elements, ih]
    rfl

/-- The stored field of a discriminator, with its physical type and converter. -/
def textField (raw : String) (c : Converter) (name : String) : MappingField where
  name
  ref := name
  type := .string
  rawType := some raw
  converter := some c

namespace Converter

/-- Whether a converter leaves text as it is. -/
def keepsText : Converter → Bool
  | .identity | .string => true
  | _ => false

variable {c : Converter}

theorem toRaw_str (keeps : c.keepsText = true) (s : String) : c.toRaw (.str s) = .ok (.str s) := by
  cases c <;> first | rfl | cases keeps

theorem ofRaw_str (keeps : c.keepsText = true) (s : String) : c.ofRaw (.str s) = .ok (.str s) := by
  cases c <;> first | rfl | cases keeps

end Converter

namespace Declaration

theorem config_nodup {d : Declaration} {config : MappingConfig} (done : d.config = .ok config) :
    config.discriminatorValues.keys.Nodup := by
  rcases Outcome.of_bind done with ⟨fields, -, done⟩
  rcases Outcome.of_bind done with ⟨values, -, done⟩
  exact MappingConfig.check_nodup (Checked.of_orInvalid done)

/-- The mapping of a layout that a declaration extends. -/
def parentIn (d : Declaration) (l : Layout) : Option Mapping :=
  match d.parent with
  | .object (.mapping _ id _) => l.mappings[id]?
  | _ => none

theorem mem_of_parentIn {d : Declaration} {l : Layout} {p : Mapping} (found : d.parentIn l = some p) :
    p ∈ l.mappings := by
  unfold parentIn at found
  split at found
  · exact List.mem_of_getElem? found
  · cases found

theorem config_cases {d : Declaration} {config : MappingConfig} (done : d.config = .ok config) :
    d.fields.items = .ok config.fields ∧ Check.nullable Check.nonEmptyText d.discriminator = .ok config.virtualField ∧
      ∀ l : Layout, (config.parent.bind fun
        | .mapping _ id _ => l.mappings[id]?
        | _ => none) = d.parentIn l := by
  rcases Outcome.of_bind done with ⟨fields, items, done⟩
  rcases Outcome.of_bind done with ⟨values, -, done⟩
  have checked := Checked.of_orInvalid done
  rw [MappingConfig.check_entries] at checked
  rcases Checked.of_seq checked with ⟨_, _, first, -, rfl⟩
  rcases Checked.of_seq first with ⟨_, parent, second, linked, rfl⟩
  rcases Checked.of_seq second with ⟨_, discriminator, third, named, rfl⟩
  rcases Checked.of_seq third with ⟨_, listed, fourth, elements, rfl⟩
  rcases Checked.of_seq fourth with ⟨_, _, fifth, -, rfl⟩
  rcases Checked.of_map fifth with ⟨_, -, rfl⟩
  have same : listed = fields := by
    have all := (Checked.elements_ok 0 fields).symm.trans (Checked.of_under elements)
    cases all
    rfl
  subst same
  refine ⟨Outcome.of_fault items, Checked.of_under named, fun l => ?_⟩
  have checked := Checked.of_under linked
  unfold MappingConfig.checkParent at checked
  unfold parentIn
  split at checked
  · rename_i none
    cases checked
    rw [none]
    rfl
  · rename_i given
    cases checked
    rw [given]
    rfl
  · cases checked

theorem check_text (name : String) :
    MappingField.check (.dict [(.str "name", .str name), (.str "type", .fieldType .string)]) =
      MappingField.mk <$> (Check.nonEmptyText (.str name)).under "name"
        <*> (Check.nonEmptyText (.str name)).under "ref" <*> Checked.ok .string <*> Checked.ok none
        <*> Checked.ok none <*> Checked.ok false <*> Checked.ok .absent := by
  cbv

theorem nonEmptyText_str (name : String) :
    Check.nonEmptyText (.str name) =
      if name.isEmpty then Checked.fail "String should have at least 1 character"
      else Checked.ok name := rfl

theorem keepsText_of_supplied {driver : Driver} {raw : String} {c : Converter}
    (physical : driver.coerceType (.str FieldType.string.value) = .ok raw)
    (supplied : driver.createConverter (.str raw) = .ok c) : c.keepsText = true := by
  cases driver with
  | memory s evaluator =>
    have known : Driver.coerceType (.memory s evaluator) (.str FieldType.string.value) =
        .ok "VARCHAR" := by cbv
    cases known.symm.trans physical
    have text : Driver.createConverter (.memory s evaluator) (.str "VARCHAR") = .ok .string := by cbv
    cases text.symm.trans supplied
    rfl
  | recording s refused calls =>
    have known : Driver.coerceType (.recording s refused calls) (.str FieldType.string.value) =
        .ok "VARCHAR" := by cbv
    cases known.symm.trans physical
    have text : Driver.createConverter (.recording s refused calls) (.str "VARCHAR") =
        .ok .string := by cbv
    cases text.symm.trans supplied
    rfl
  | minimal =>
    cases supplied
    rfl

theorem discriminatorColumn_cases {driver : Driver} {name : String} {f : MappingField}
    (done : discriminatorColumn driver name = .ok f) :
    name.isEmpty = false ∧ ∃ raw c, c.keepsText = true ∧ f = textField raw c name := by
  unfold discriminatorColumn augmented at done
  rcases Outcome.of_bind done with ⟨g, checked, done⟩
  have checked := Checked.of_orInvalid checked
  rw [check_text, nonEmptyText_str] at checked
  split at checked
  · cases checked
  · rename_i name
    cases checked
    rcases Outcome.of_bind done with ⟨raw, physical, done⟩
    rcases Outcome.of_bind done with ⟨c, supplied, done⟩
    cases done
    exact ⟨Bool.eq_false_iff.mpr name, raw, c, keepsText_of_supplied physical supplied, rfl⟩

/-- The indexes that are given; the arguments of a hierarchy are checked before anything else is. -/
def listed (d : Declaration) : Except Error (List Value) :=
  if d.kind == .hierarchy then do
    d.checkHierarchy
    Error.ofFault d.indexes.items
  else pure []

theorem listed_cases {d : Declaration} {indexes : List Value} (done : d.listed = .ok indexes)
    (kind : d.kind = .hierarchy) :
    d.checkHierarchy = .ok () ∧ d.indexes.items = .ok indexes := by
  rw [listed, kind] at done
  rcases Outcome.of_bind done with ⟨⟨⟩, checked, items⟩
  exact ⟨checked, Outcome.of_fault items⟩

theorem bind_listed {β : Type} {d : Declaration} (f : List Value → Except Error β) :
    (if (d.kind == .hierarchy) = true then do
      d.checkHierarchy
      let indexes ← Error.ofFault d.indexes.items
      f indexes
    else do
      let indexes ← pure []
      f indexes) = d.listed >>= f := by
  rw [listed]
  split
  · rw [bind_assoc]
  · rfl

end Declaration

/-- The collection with the planned columns and indexes. -/
def Plan.extended (p : Plan) : Collection :=
  { p.collection with
    fields := p.collection.fields ++ p.columns
    indexes := p.collection.indexes ++ p.indexes }

namespace Layout

open Declaration

/-- The layout with a mapping and the collection that it stores in. -/
def attach (l : Layout) (m : Mapping) (ref : CollectionRef) (c : Collection) :
    Except Error Layout := do
  let mappings := l.mappings ++ [m]
  if m.ancestors.isEmpty then
    let schema ← (l.schema m.schema).insert ref
    return { collections := l.collections ++ [c], schemas := l.schemas.set m.schema schema, mappings }
  return { l with collections := l.collections.set ref.id c, mappings }

/-- A declaration at once: what it makes of a layout, with the mapping that it declares. -/
def declare (l : Layout) (models : List Model) (drivers : List Driver) (d : Declaration) :
    Except Error (Layout × Mapping) :=
  match d.kind with
  | .plain => do
    let (m, _, _) ← l.describe models drivers d
    return ({ l with mappings := l.mappings ++ [m] }, m)
  | .hierarchy => do
    let p ← l.plan models drivers d
    return (← l.attach p.mapping p.ref p.extended, p.mapping)

/-- Layouts with hierarchies that are declared on one driver and one schema. -/
inductive Declared (driver schema : Nat) : Layout → Prop where
  | start {l : Layout} (mappings : l.mappings = []) (empty : l.schemas[schema]? = some {}) :
      Declared driver schema l
  | declare {l l' : Layout} {models : List Model} {drivers : List Driver} {d : Declaration}
      {m : Mapping} (before : Declared driver schema l) (kind : d.kind = .hierarchy)
      (done : l.declare models drivers d = .ok (l', m)) (driver_eq : m.driver = driver)
      (schema_eq : m.schema = schema) : Declared driver schema l'

/-- The layout after a declaration, which stays as it is if that fails. -/
def after (l : Layout) (models : List Model) (drivers : List Driver) (d : Declaration) : Layout :=
  match l.declare models drivers d with
  | .ok (l', _) => l'
  | .error _ => l

theorem Declared.after {driver schema : Nat} {l : Layout} {models : List Model} {drivers : List Driver}
    {d : Declaration} (before : Declared driver schema l) (kind : d.kind = .hierarchy)
    (made : (l.declare models drivers d).toOption.any
      (fun r => r.2.driver == driver && r.2.schema == schema) = true) :
    Declared driver schema (l.after models drivers d) := by
  unfold Layout.after
  cases done : l.declare models drivers d with
  | error e => exact before
  | ok r =>
    rw [done] at made
    obtain ⟨own, own'⟩ := Bool.and_eq_true_iff.mp made
    exact .declare before kind done (beq_iff_eq.mp own) (beq_iff_eq.mp own')

/-- What the checks of a declaration say of its mapping and the one that it extends. -/
structure Linked (m : Mapping) (parent : Option Mapping) : Prop where
  ancestors : m.ancestors = (parent.map Mapping.chain).getD []
  values : m.values.keys.Nodup
  inheritance : checkInheritance m.name m.values parent = .ok ()
  names : checkNames m.toLevel m.ancestors = .ok ()

/-- What they say in a hierarchy. -/
structure Follows (m : Mapping) (parent : Option Mapping) : Prop extends Linked m parent where
  hierarchy : m.kind = .hierarchy
  named : ∀ k, m.discriminator = some k → k.isEmpty = false
  column : ∃ raw c, c.keepsText = true ∧ m.column = m.discriminator.map (textField raw c)

/-- What a declaration adds to a layout: a mapping, and its columns in a collection. -/
structure Step (l l' : Layout) (m : Mapping) (parent : Option Mapping) (ref : CollectionRef)
    (old new : Collection) : Prop extends Follows m parent where
  number : m.id = l.mappings.length
  known : ∀ p, parent = some p → p ∈ l.mappings
  collection : m.collection = some ref
  place : ∃ d, l.place d m.schema m.name parent = .ok (ref, old)
  fresh : checkColumns old [] (m.columns.map (·.toCollectionField)) = .ok ()
  extended : ∃ indexes, new = { old with
    fields := old.fields ++ m.columns.map (·.toCollectionField), indexes := old.indexes ++ indexes }
  attached : l.attach m ref new = .ok l'

variable {l l' : Layout} {models : List Model} {drivers : List Driver} {d : Declaration} {m : Mapping}

/-- The mapping of a declaration, as the arguments say. -/
structure Described (l : Layout) (drivers : List Driver) (d : Declaration) (m : Mapping)
    (parent : Option Mapping) (indexes : List Value) : Prop extends Linked m parent where
  number : m.id = l.mappings.length
  kind : m.kind = d.kind
  driver : driverNumber d.driver = .ok m.driver
  schema : schemaNumber d.schema = .ok m.schema
  parent_eq : parent = d.parentIn l
  discriminator : Check.nullable Check.nonEmptyText d.discriminator = .ok m.discriminator
  fields : ∃ fs, d.fields.items = .ok fs ∧
    fs.mapM (augmented ((drivers[m.driver]?).getD .minimal)) = .ok m.fields
  indexes : d.kind = .hierarchy → d.indexes.items = .ok indexes
  extends_ : d.kind = .hierarchy →
    d.parent = .none ∨ ∃ id name, d.parent = .object (.mapping .hierarchy id name)

theorem checkHierarchy_parent (done : d.checkHierarchy = .ok ()) :
    d.parent = .none ∨ ∃ id name, d.parent = .object (.mapping .hierarchy id name) := by
  unfold checkHierarchy at done
  dsimp only at done
  split at done
  · split at done
    · rename_i none
      exact .inl none
    · rename_i id name given
      exact .inr ⟨id, name, given⟩
    · cases done
  · cases done

theorem describe_cases {parent : Option Mapping} {indexes : List Value}
    (done : l.describe models drivers d = .ok (m, parent, indexes)) :
    Described l drivers d m parent indexes := by
  rw [describe, bind_listed] at done
  rcases Outcome.of_bind done with ⟨given, listed, done⟩
  rcases Outcome.of_bind done with ⟨driverId, driver, done⟩
  rcases Outcome.of_bind done with ⟨schemaId, schema, done⟩
  rcases Outcome.of_bind done with ⟨config, configured, done⟩
  rcases Outcome.of_bind done with ⟨fields, augmented, done⟩
  dsimp only at done
  cases known : models.find? fun m => m.toValue == config.model with
  | none =>
    rw [known] at done
    cases done
  | some model =>
    rw [known] at done
    rcases Outcome.of_bind done with ⟨_, same, done⟩
    cases same
    rcases Outcome.of_bind done with ⟨⟨⟩, inheritance, done⟩
    rcases Outcome.of_bind done with ⟨⟨⟩, names, done⟩
    cases done
    obtain ⟨items, discriminator, parent⟩ := config_cases configured
    exact ⟨⟨rfl, config_nodup configured, inheritance, names⟩, rfl, rfl, driver, schema, parent l, discriminator,
      ⟨_, items, augmented⟩, fun kind => (listed_cases listed kind).2,
      fun kind => checkHierarchy_parent (listed_cases listed kind).1⟩

/-- A plan extends what is described by the place and the column of the discriminator. -/
structure Planned (l : Layout) (models : List Model) (drivers : List Driver) (d : Declaration) (p : Plan)
    (m : Mapping) (parent : Option Mapping) (indexes : List Value) : Prop where
  described : l.describe models drivers d = .ok (m, parent, indexes)
  place : l.place d m.schema m.name parent = .ok (p.ref, p.collection)
  mapping : p.mapping = { m with column := p.mapping.column, collection := some p.ref }
  named : ∀ k, m.discriminator = some k → k.isEmpty = false
  column : ∃ raw c, c.keepsText = true ∧ p.mapping.column = m.discriminator.map (textField raw c)
  indexes : indexes.mapM (storedIndex p.mapping p.collection) = .ok p.indexes
  columns_new : checkColumns p.collection [] p.columns = .ok ()
  indexes_new : checkIndexes p.collection [] p.indexes = .ok ()

theorem plan_cases {p : Plan} (done : l.plan models drivers d = .ok p) :
    ∃ m parent indexes, Planned l models drivers d p m parent indexes := by
  rcases Outcome.of_bind done with ⟨⟨m, parent, indexes⟩, described, done⟩
  rcases Outcome.of_bind done with ⟨⟨ref, collection⟩, place, done⟩
  rcases Outcome.of_bind done with ⟨column, named, done⟩
  rcases Outcome.of_bind done with ⟨stored, translated, done⟩
  rcases Outcome.of_bind done with ⟨⟨⟩, columns, done⟩
  rcases Outcome.of_bind done with ⟨⟨⟩, fresh, done⟩
  cases done
  have columned : (∀ k, m.discriminator = some k → k.isEmpty = false) ∧
      ∃ raw c, c.keepsText = true ∧ column = m.discriminator.map (textField raw c) := by
    cases given : m.discriminator with
    | none =>
      rw [given] at named
      cases named
      exact ⟨fun _ none => (nomatch none), "", .identity, rfl, rfl⟩
    | some name =>
      rw [given] at named
      rcases Outcome.of_map named with ⟨f, made, rfl⟩
      rcases discriminatorColumn_cases made with ⟨text, raw, c, keeps, rfl⟩
      exact ⟨fun k same => Option.some.inj same ▸ text, raw, c, keeps, rfl⟩
  exact ⟨m, parent, indexes, described, place, rfl, columned.1, columned.2, translated, columns, fresh⟩

theorem declare_cases (kind : d.kind = .hierarchy) (done : l.declare models drivers d = .ok (l', m)) :
    ∃ p, l.plan models drivers d = .ok p ∧ m = p.mapping ∧ l.attach m p.ref p.extended = .ok l' := by
  unfold declare at done
  rw [kind] at done
  rcases Outcome.of_bind done with ⟨p, planned, done⟩
  rcases Outcome.of_bind done with ⟨l₁, attached, done⟩
  cases done
  exact ⟨p, planned, rfl, attached⟩

theorem follows_of_plan {p : Plan} {described : Mapping} {parent : Option Mapping} {indexes : List Value}
    (kind : d.kind = .hierarchy) (planned : Planned l models drivers d p described parent indexes) :
    Follows p.mapping parent := by
  have facts := describe_cases planned.described
  have column := planned.column
  have same := planned.mapping
  rw [same] at column ⊢
  exact ⟨⟨facts.ancestors, facts.values, facts.inheritance, facts.names⟩, facts.kind.trans kind, planned.named,
    column⟩

theorem step_of_plan {p : Plan} {described : Mapping} {parent : Option Mapping} {indexes : List Value}
    (kind : d.kind = .hierarchy) (planned : Planned l models drivers d p described parent indexes)
    (attached : l.attach p.mapping p.ref p.extended = .ok l') :
    Step l l' p.mapping parent p.ref p.collection p.extended := by
  have facts := describe_cases planned.described
  have follows := follows_of_plan kind planned
  obtain ⟨mapping, ref, collection, stored⟩ := p
  have same := planned.mapping
  dsimp only at same follows
  rw [same] at follows attached ⊢
  exact ⟨follows, facts.number, fun q linked => mem_of_parentIn (facts.parent_eq.symm.trans linked), rfl,
    ⟨_, planned.place⟩, same ▸ planned.columns_new, ⟨stored, by rw [Plan.extended, Plan.columns, ← same]⟩,
    attached⟩

theorem step_of_declare (kind : d.kind = .hierarchy) (done : l.declare models drivers d = .ok (l', m)) :
    ∃ parent ref old new, Step l l' m parent ref old new := by
  obtain ⟨p, planned, rfl, attached⟩ := declare_cases kind done
  obtain ⟨described, parent, indexes, facts⟩ := plan_cases planned
  exact ⟨parent, p.ref, p.collection, p.extended, step_of_plan kind facts attached⟩

end Layout

end ModelStore
