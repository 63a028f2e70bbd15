import ModelStore.Proofs.Mapping.Keys
import ModelStore.Proofs.Workspace.Calls
import ModelStore.Proofs.Workspace.Origins

/-!
Keys of the rows of a hierarchy. The collection is kept unique by the key fields of all mappings together, so
that a mapping of which the chain declares all of them has one row at most for each key; where a further key
field is declared elsewhere, rows that share the key of a chain may both be kept.
-/

namespace ModelStore

open Store (Distinct rowsOf)

variable {l : Layout} {driver schema : Nat} {ref : CollectionRef} {c : Collection} {s s' : Store} {m : Mapping}
  {evaluator : Option Nat} {a b : Row}

/-- A store that knows a collection and keeps its rows, and the committed ones, apart by the primary key. -/
structure Store.Separates (s : Store) (l : Layout) (ref : CollectionRef) : Prop where
  provisioned : s.shapes.get? ref.name = some ref
  working : l.keyColumns ref ≠ [] → Distinct (l.keyColumns ref) (s.rows ref.name)
  committed : l.keyColumns ref ≠ [] → Distinct (l.keyColumns ref) (rowsOf s.committed ref.name)

theorem Store.Separates.step (separates : s.Separates l ref) (stores : l.Stores schema ref c) (x : Store.Step) :
    (x.run s l.collections).2.Separates l ref := by
  cases x with
  | commit => exact ⟨separates.provisioned, separates.working, separates.working⟩
  | rollback => exact ⟨separates.provisioned, separates.committed, separates.committed⟩
  | write x =>
    have done : x.run s l.collections = ((x.run s l.collections).1, (x.run s l.collections).2) := rfl
    obtain ⟨same, committed, -⟩ := Store.Write.alike done
    refine ⟨?_, fun keyed => ?_, fun keyed => ?_⟩
    · change (x.run s l.collections).2.shapes.get? ref.name = some ref
      rw [same.shapes, separates.provisioned]
    · have constrained : ⟨"primary key", l.keyColumns ref⟩ ∈ s.constraints (l.collections.get ref) ref.name := by
        rw [stores.get_eq, ← stores.map_primaryKey] at *
        refine List.mem_append_left _ ?_
        rw [Store.primaryKeyConstraint, if_neg, List.mem_singleton]
        simpa using keyed
      exact Store.Write.distinct_run separates.provisioned constrained done (separates.working keyed)
    · change Distinct _ (rowsOf (x.run s l.collections).2.committed ref.name)
      rw [committed]
      exact separates.committed keyed

namespace Workspace

open Run

variable {w w' : Workspace} {v : Value} {outcome : Except Error Unit}

/-- Whether an operation leaves a workspace as it is, or makes a step of the store in a driver. -/
def Stepped (w w' : Workspace) (driver : Nat) (s : Store) (evaluator : Option Nat) : Prop :=
  w' = w ∨ ∃ x : Store.Step, w'.layout = w.layout ∧
    w'.drivers = w.drivers.set driver (.memory (x.run s w.layout.collections).2 evaluator)

theorem Stepped.layout (stepped : w.Stepped w' driver s evaluator) : w'.layout = w.layout := by
  rcases stepped with rfl | ⟨x, layout, -⟩
  · rfl
  · exact layout

section Operations

variable (declared : w.layout.Declared driver schema) (member : m ∈ w.layout.family ref)
  (driven : w.drivers[driver]? = some (.memory s evaluator))

include declared member driven

theorem stepped_create (done : (createEntity m v).exec w = (outcome, w')) :
    w.Stepped w' driver s evaluator := by
  have known := (Layout.mem_family.mp member).1
  have own_driver := declared.driver_eq m known
  have hierarchy := declared.sound.isHierarchy known
  rcases createEntity_value hierarchy done with rfl | ⟨id, name, x, rfl, given⟩
  · exact .inl rfl
  · rcases createEntity_cases hierarchy given (own_driver.symm ▸ driven) done with
      ⟨rfl, -⟩ | ⟨own, ref', row, answer, d, entities, journal, -, -, -, made, rfl, -⟩
    · exact .inl rfl
    · obtain ⟨outcome, s', created, -, rfl⟩ := Driver.create_cases made
      refine .inr ⟨.write (.create (.str (w.layout.collections.get ref').name) row.toEntries), rfl, ?_⟩
      rw [own_driver, Store.Step.run, Store.Write.run, created]
      rfl

theorem stepped_save (done : (saveEntity m v).exec w = (outcome, w')) : w.Stepped w' driver s evaluator := by
  have known := (Layout.mem_family.mp member).1
  have own_driver := declared.driver_eq m known
  rcases saveEntity_cases (declared.sound.isHierarchy known) (own_driver.symm ▸ driven) done with
    ⟨rfl, -⟩ | ⟨id, x, own, ref', row, key, d, -, -, -, -, -, made, rfl⟩
  · exact .inl rfl
  · obtain ⟨s', saved, rfl⟩ := Driver.save_cases made
    refine .inr ⟨.write (.save (.str (w.layout.collections.get ref').name) key.toEntries
      (Mapping.changes row key).toEntries), rfl, ?_⟩
    rw [own_driver, Store.Step.run, Store.Write.run, saved]
    rfl

theorem stepped_remove (done : (removeEntity m v).exec w = (outcome, w')) : w.Stepped w' driver s evaluator := by
  have known := (Layout.mem_family.mp member).1
  have own_driver := declared.driver_eq m known
  rcases removeEntity_cases (declared.sound.isHierarchy known) (own_driver.symm ▸ driven) done with
    ⟨rfl, -⟩ | ⟨id, x, own, ref', row, key, d, -, -, -, -, -, made, rfl⟩
  · exact .inl rfl
  · obtain ⟨s', removed, rfl⟩ := Driver.remove_cases made
    refine .inr ⟨.write (.remove (.str (w.layout.collections.get ref').name) (Row.toEntries key)), rfl, ?_⟩
    rw [own_driver, Store.Step.run, Store.Write.run, removed]
    rfl

end Operations

theorem stepped_update {g : Catalog → Driver → Except Error Driver} {x : Store.Step}
    (driven : w.drivers[driver]? = some (.memory s evaluator))
    (same : g w.layout.collections (.memory s evaluator) =
      .ok (.memory (x.run s w.layout.collections).2 evaluator))
    (done : (Run.update driver g).exec w = (outcome, w')) : w.Stepped w' driver s evaluator := by
  rcases update_cases driven done with ⟨rfl, -⟩ | ⟨d, made, rfl⟩
  · exact .inl rfl
  · cases same.symm.trans made
    exact .inr ⟨x, rfl, rfl⟩

/-- Workspaces that are reached from an empty table by working through the mappings of its hierarchy, whatever
    is written and however each operation ends. -/
inductive Worked (driver schema : Nat) (ref : CollectionRef) : Workspace → Prop where
  | start {w : Workspace} {s : Store} {evaluator : Option Nat} {r : Mapping}
      (declared : w.layout.Declared driver schema) (inhabited : r ∈ w.layout.family ref)
      (driven : w.drivers[driver]? = some (.memory s evaluator))
      (provisioned : s.shapes.get? ref.name = some ref) (working : s.rows ref.name = [])
      (committed : rowsOf s.committed ref.name = []) : Worked driver schema ref w
  | create {w w' : Workspace} {m : Mapping} {v : Value} {outcome : Except Error Unit}
      (before : Worked driver schema ref w) (member : m ∈ w.layout.family ref)
      (done : (createEntity m v).exec w = (outcome, w')) : Worked driver schema ref w'
  | save {w w' : Workspace} {m : Mapping} {v : Value} {outcome : Except Error Unit}
      (before : Worked driver schema ref w) (member : m ∈ w.layout.family ref)
      (done : (saveEntity m v).exec w = (outcome, w')) : Worked driver schema ref w'
  | remove {w w' : Workspace} {m : Mapping} {v : Value} {outcome : Except Error Unit}
      (before : Worked driver schema ref w) (member : m ∈ w.layout.family ref)
      (done : (removeEntity m v).exec w = (outcome, w')) : Worked driver schema ref w'
  | commit {w w' : Workspace} {outcome : Except Error Unit} (before : Worked driver schema ref w)
      (done : (Run.commit driver).exec w = (outcome, w')) : Worked driver schema ref w'
  | rollback {w w' : Workspace} {outcome : Except Error Unit} (before : Worked driver schema ref w)
      (done : (Run.rollback driver).exec w = (outcome, w')) : Worked driver schema ref w'
  | other {w w' : Workspace} (before : Worked driver schema ref w) (layout : w'.layout = w.layout)
      (same : SameTable w w' driver ref.name) : Worked driver schema ref w'

/-- What these workspaces have in common. -/
structure Separates (w : Workspace) (driver schema : Nat) (ref : CollectionRef) : Prop where
  declared : w.layout.Declared driver schema
  inhabited : ∃ r, r ∈ w.layout.family ref
  separates : ∃ s evaluator, w.drivers[driver]? = some (.memory s evaluator) ∧ s.Separates w.layout ref

namespace Separates

theorem stores (kept : w.Separates driver schema ref) : ∃ c, w.layout.Stores schema ref c := by
  rcases kept.inhabited with ⟨r, member⟩
  exact kept.declared.sound.exists_stores member

theorem stepped (kept : w.Separates driver schema ref)
    (next : ∀ s evaluator, w.drivers[driver]? = some (.memory s evaluator) → w.Stepped w' driver s evaluator) :
    w'.Separates driver schema ref := by
  obtain ⟨s, evaluator, driven, separates⟩ := kept.separates
  obtain ⟨c, stores⟩ := kept.stores
  rcases next s evaluator driven with rfl | ⟨x, layout, drivers⟩
  · exact kept
  · exact ⟨layout ▸ kept.declared, layout ▸ kept.inhabited, _, evaluator, driven_of_set driven drivers,
      layout ▸ separates.step stores x⟩

theorem other (kept : w.Separates driver schema ref) (layout : w'.layout = w.layout)
    (same : SameTable w w' driver ref.name) : w'.Separates driver schema ref := by
  obtain ⟨s, evaluator, driven, separates⟩ := kept.separates
  obtain ⟨s', evaluator', driven', shapes, working, committed⟩ := same s evaluator driven
  refine ⟨layout ▸ kept.declared, layout ▸ kept.inhabited, s', evaluator', driven', ?_, ?_, ?_⟩
  · rw [shapes, separates.provisioned]
  · rw [layout, working]
    exact separates.working
  · rw [layout, committed]
    exact separates.committed

end Separates

/-- Whatever was done, the rows are apart by the primary key. -/
theorem Worked.separates (worked : w.Worked driver schema ref) : w.Separates driver schema ref := by
  induction worked with
  | start declared inhabited driven provisioned working committed =>
    exact ⟨declared, ⟨_, inhabited⟩, _, _, driven, provisioned, fun _ => working ▸ .nil,
      fun _ => committed ▸ .nil⟩
  | create _ member done kept => exact kept.stepped fun _ _ driven => stepped_create kept.declared member driven done
  | save _ member done kept => exact kept.stepped fun _ _ driven => stepped_save kept.declared member driven done
  | remove _ member done kept => exact kept.stepped fun _ _ driven => stepped_remove kept.declared member driven done
  | commit _ done kept => exact kept.stepped fun _ _ driven => stepped_update (x := .commit) driven rfl done
  | rollback _ done kept => exact kept.stepped fun _ _ driven => stepped_update (x := .rollback) driven rfl done
  | other _ layout same kept => exact kept.other layout same

/-- Creating instances leaves the mappings as they are. -/
theorem Worked.after_creating (worked : w.Worked driver schema ref) (member : m ∈ w.layout.family ref)
    (vs : List Value) : (Run.after (vs.map (createEntity m)) w).layout = w.layout ∧
      (Run.after (vs.map (createEntity m)) w).Worked driver schema ref := by
  induction vs generalizing w with
  | nil => exact ⟨rfl, worked⟩
  | cons v vs ih =>
    have kept := worked.separates
    obtain ⟨s, evaluator, driven, -⟩ := kept.separates
    have layout := (stepped_create (v := v) kept.declared member driven rfl).layout
    obtain ⟨rest, worked⟩ := ih (.create worked member rfl) (layout ▸ member)
    exact ⟨rest.trans layout, worked⟩

/-- Two rows that share the key of a chain, of which no part is missing, are one row, unless they differ in a key
    field that is declared elsewhere in the hierarchy, or one of them has no value there. -/
theorem Worked.same_key_same_row (worked : w.Worked driver schema ref) (member : m ∈ w.layout.family ref)
    (keyed : m.keyFields ≠ []) {i j : Nat} (first : (w.table driver ref.name)[i]? = some a)
    (second : (w.table driver ref.name)[j]? = some b)
    (same : ∀ f ∈ m.keyFields, (a.column f.name == b.column f.name) = true)
    (present : ∀ f ∈ m.keyFields, (a.column f.name).isNone = false ∧ (b.column f.name).isNone = false) :
    i = j ∨ ∃ p ∈ w.layout.family ref, ∃ f ∈ p.fields, f.primaryKey = true ∧ f ∉ m.keyFields ∧
      ((a.column f.name == b.column f.name) = false ∨ a.column f.name = .none ∨ b.column f.name = .none) := by
  have kept := worked.separates
  have sound := kept.declared.sound
  obtain ⟨s, evaluator, driven, separates⟩ := kept.separates
  rw [table_eq driven] at first second
  obtain ⟨hi, rfl⟩ := List.getElem?_eq_some_iff.mp first
  obtain ⟨hj, rfl⟩ := List.getElem?_eq_some_iff.mp second
  have nonempty : w.layout.keyColumns ref ≠ [] := by
    rcases List.exists_mem_of_ne_nil _ keyed with ⟨f, field⟩
    exact List.ne_nil_of_mem (sound.keyColumn_of_keyField member field)
  by_cases equal : i = j
  · exact .inl equal
  refine .inr ?_
  have apart := separates.working nonempty i j hi hj equal
  -- the column that tells the rows apart is none of the chain, where they agree and miss nothing
  by_cases all : ∀ k ∈ w.layout.keyColumns ref,
      ((s.rows ref.name)[i].column k == (s.rows ref.name)[j].column k) = true
  · obtain ⟨k, key, missing⟩ := apart all
    rcases sound.mem_keyColumns key with ⟨p, inside, f, field, primary, rfl⟩
    refine ⟨p, inside, f, field, primary, fun own => ?_, .inr missing⟩
    obtain ⟨left, right⟩ := present f own
    rcases missing with missing | missing
    · rw [missing] at left
      cases left
    · rw [missing] at right
      cases right
  · rcases not_forall₂.mp all with ⟨k, key, differs⟩
    rcases sound.mem_keyColumns key with ⟨p, inside, f, field, primary, rfl⟩
    exact ⟨p, inside, f, field, primary, fun own => differs (same f own), .inl (Bool.eq_false_iff.mpr differs)⟩

end Workspace

namespace Zoo

/-- A zoo where the tags of the dogs are part of the key, with two cats of the same number. -/
def litter : Workspace :=
  Run.after (([0, 1] : List Nat).map fun id => Run.createEntity (top true true) (.object (.entity id "Cat")))
    (opened true true none [whiskers 1 "Tom", whiskers 1 "Tim"])

theorem litter_worked : litter.Worked 0 0 collection ∧ litter.layout = layout true true := by
  let w₀ := opened true true none [whiskers 1 "Tom", whiskers 1 "Tim"]
  have member : top true true ∈ w₀.layout.family collection := top_mem true true
  have empty : w₀.Worked 0 0 collection := .start (declared true true) member rfl rfl rfl rfl
  exact (empty.after_creating member [.object (.entity 0 "Cat"), .object (.entity 1 "Cat")]).symm

/-- The mapping of the cats. -/
def side (key nullable : Bool) : Mapping :=
  ((layout key nullable).family collection).get ⟨1, Nat.lt_of_succ_lt (length_family key nullable)⟩

theorem side_mem (key nullable : Bool) : side key nullable ∈ (layout key nullable).family collection :=
  List.get_mem ..

theorem litter_rows : ∃ a b, litter.table 0 collection.name = [a, b] ∧
    (side true true).covers a = true ∧ (side true true).covers b = true ∧
    (∀ f ∈ (side true true).keyFields, (a.column f.name == b.column f.name) = true) ∧
    ∀ f ∈ (side true true).keyFields, (a.column f.name).isNone = false ∧ (b.column f.name).isNone = false := by
  have two : (litter.table 0 collection.name).length = 2 := by decide +kernel
  have alike : ∀ a ∈ litter.table 0 collection.name, (side true true).covers a = true ∧
      ∀ f ∈ (side true true).keyFields, (a.column f.name).isNone = false ∧
        ∀ b ∈ litter.table 0 collection.name, (a.column f.name == b.column f.name) = true := by
    decide +kernel
  obtain ⟨a, b, rows⟩ := List.length_eq_two.mp two
  have here : a ∈ litter.table 0 collection.name := rows ▸ List.mem_cons_self
  have there : b ∈ litter.table 0 collection.name := rows ▸ List.mem_cons_of_mem a List.mem_cons_self
  exact ⟨a, b, rows, (alike a here).1, (alike b there).1, fun f field => ((alike a here).2 f field).2 b there,
    fun f field => ⟨((alike a here).2 f field).1, ((alike b there).2 f field).1⟩⟩

end Zoo

/-- The two cats lack the tag, which is a part of the key of the collection and not of theirs. -/
theorem Workspace.Worked.same_key_same_row_cats : ∃ a b, Zoo.litter.table 0 Zoo.collection.name = [a, b] ∧
    ∃ p ∈ Zoo.litter.layout.family Zoo.collection, ∃ f ∈ p.fields, f.primaryKey = true ∧
      f ∉ (Zoo.side true true).keyFields ∧ ((a.column f.name == b.column f.name) = false ∨
        a.column f.name = .none ∨ b.column f.name = .none) := by
  obtain ⟨worked, layout⟩ := Zoo.litter_worked
  obtain ⟨a, b, rows, -, -, same, present⟩ := Zoo.litter_rows
  have member : Zoo.side true true ∈ Zoo.litter.layout.family Zoo.collection := layout ▸ Zoo.side_mem true true
  have keyed : (Zoo.side true true).keyFields ≠ [] := by decide +kernel
  have apart := same_key_same_row worked member keyed (i := 0) (j := 1) (by rw [rows]; rfl) (by rw [rows]; rfl) same
    present
  exact ⟨a, b, rows, apart.resolve_left (by decide)⟩

/-- Two cats have been created with one and the same key, and both are there. -/
theorem Workspace.not_same_key_same_row : Zoo.litter.Worked 0 0 Zoo.collection ∧
    ∃ m ∈ Zoo.litter.layout.family Zoo.collection, m.model.name = "Cat" ∧ m.keyFields ≠ [] ∧
      ∃ a b, Zoo.litter.table 0 Zoo.collection.name = [a, b] ∧ m.covers a = true ∧ m.covers b = true ∧
        (∀ f ∈ m.keyFields, (a.column f.name == b.column f.name) = true) ∧
        ∀ f ∈ m.keyFields, (a.column f.name).isNone = false ∧ (b.column f.name).isNone = false := by
  obtain ⟨worked, layout⟩ := Zoo.litter_worked
  have cats : (Zoo.side true true).model.name = "Cat" ∧ (Zoo.side true true).keyFields ≠ [] := by decide +kernel
  exact ⟨worked, Zoo.side true true, layout ▸ Zoo.side_mem true true, cats.1, cats.2, Zoo.litter_rows⟩

end ModelStore
