import ModelStore.Proofs.Mapping.Hierarchy
import ModelStore.Proofs.Workspace.Runs

/-!
Declaring mappings step by step. A declaration writes its collection column by column and index by index,
after all of its checks; that comes to the layout that it describes, or leaves the workspace as it was.
-/

namespace ModelStore

open Declaration

variable {w w' : Workspace} {d : Declaration} {m : Mapping} {ref : CollectionRef} {c c' : Collection}

/-- The workspace with another content of a collection. -/
def Workspace.withCollection (w : Workspace) (ref : CollectionRef) (c : Collection) : Workspace :=
  { w with layout := { w.layout with collections := w.layout.collections.set ref.id c } }

theorem Workspace.withCollection_self (found : w.layout.collections[ref.id]? = some c) :
    w.withCollection ref c = w := by
  obtain ⟨inside, there⟩ := List.getElem?_eq_some_iff.mp found
  rw [withCollection, ← there, List.set_getElem_self]

theorem Workspace.found_withCollection (found : w.layout.collections[ref.id]? = some c) (c' : Collection) :
    (w.withCollection ref c').layout.collections[ref.id]? = some c' := by
  obtain ⟨inside, -⟩ := List.getElem?_eq_some_iff.mp found
  rw [withCollection, List.getElem?_set_self inside]

theorem Catalog.get_of_found {cs : Catalog} (found : cs[ref.id]? = some c) : cs.get ref = c := by
  rw [get, found, Option.getD_some]

theorem Catalog.get_outside {cs : Catalog} (outside : cs.length ≤ ref.id) : cs.get ref = { name := ref.name } := by
  rw [get, List.getElem?_eq_none outside, Option.getD_none]

/-- The collections of all mappings exist. -/
def Layout.Contained (l : Layout) : Prop :=
  ∀ p ∈ l.mappings, ∀ ref, p.collection = some ref → ref.id < l.collections.length

theorem Layout.Sound.contained {l : Layout} {schema : Nat} (sound : l.Sound schema) : l.Contained := by
  intro p known ref stored
  obtain ⟨r, c, stored', stores⟩ := sound.stored p known
  cases stored.symm.trans stored'
  exact (List.getElem?_eq_some_iff.mp stores.found).1

namespace Run

/-! The writes of a declaration, one by one. -/

theorem exec_addField {f : CollectionField} (found : w.layout.collections[ref.id]? = some c)
    (fresh : f.name ∉ c.fieldNames) :
    (addField ref f).exec w = (.ok (), w.withCollection ref { c with fields := c.fields ++ [f] }) := by
  have absent : c.hasField f.name = false := by
    rw [Collection.hasField, List.any_eq_false]
    intro g member same
    exact fresh (List.mem_map.mpr ⟨g, member, beq_iff_eq.mp same⟩)
  have inserted : c.insertField f = .ok { c with fields := c.fields ++ [f] } := by
    rw [Collection.insertField, absent]
    rfl
  rw [addField, exec_bind_ok (exec_get w), Catalog.get_of_found found, inserted,
    exec_bind_ok (exec_ofExcept _ w)]
  rfl

/-- Columns with new and distinct names are added without an error. -/
theorem exec_addFields {fs : List CollectionField} (found : w.layout.collections[ref.id]? = some c)
    (distinct : (fs.map (·.name)).Nodup) (fresh : ∀ f ∈ fs, f.name ∉ c.fieldNames) :
    (fs.forM (addField ref)).exec w = (.ok (), w.withCollection ref { c with fields := c.fields ++ fs }) := by
  induction fs generalizing w c with
  | nil =>
    rw [List.append_nil, Workspace.withCollection_self found]
    rfl
  | cons f fs ih =>
    rw [List.map_cons, List.nodup_cons] at distinct
    obtain ⟨own, later⟩ := List.forall_mem_cons.mp fresh
    have next := Workspace.found_withCollection found { c with fields := c.fields ++ [f] }
    have rest : ∀ g ∈ fs, g.name ∉ ({ c with fields := c.fields ++ [f] } : Collection).fieldNames := by
      intro g member known
      rw [Collection.fieldNames, List.map_append, List.mem_append, List.map_singleton, List.mem_singleton] at known
      rcases known with before | same
      · exact later g member before
      · exact distinct.1 (List.mem_map.mpr ⟨g, member, same⟩)
    change exec (addField ref f >>= fun _ => fs.forM (addField ref)) w = _
    rw [exec_bind_ok (exec_addField found own), ih next distinct.2 rest]
    simp only [Workspace.withCollection, List.set_set, List.append_assoc, List.singleton_append]

theorem exec_addIndex {i : CollectionIndex} {name : String} (found : w.layout.collections[ref.id]? = some c)
    (named : i.name = some name) (fresh : c.hasIndex name = false) :
    (addIndex ref i).exec w = (.ok (), w.withCollection ref { c with indexes := c.indexes ++ [i] }) := by
  have unchanged : { i with name := some name } = i := by rw [← named]
  have inserted : c.insertIndex i = .ok ({ c with indexes := c.indexes ++ [i] }, i) := by
    simp only [Collection.insertIndex, named, Option.getD_some, fresh, unchanged]
    rfl
  rw [addIndex, exec_bind_ok (exec_get w), Catalog.get_of_found found, inserted,
    exec_bind_ok (exec_ofExcept _ w)]
  rfl

theorem exec_addIndexes {is : List CollectionIndex} (found : w.layout.collections[ref.id]? = some c)
    (distinct : (is.map (·.name)).Nodup)
    (fresh : ∀ i ∈ is, ∃ name, i.name = some name ∧ c.hasIndex name = false) :
    (is.forM (addIndex ref)).exec w =
      (.ok (), w.withCollection ref { c with indexes := c.indexes ++ is }) := by
  induction is generalizing w c with
  | nil =>
    rw [List.append_nil, Workspace.withCollection_self found]
    rfl
  | cons i is ih =>
    rw [List.map_cons, List.nodup_cons] at distinct
    obtain ⟨⟨name, named, own⟩, later⟩ := List.forall_mem_cons.mp fresh
    have next := Workspace.found_withCollection found { c with indexes := c.indexes ++ [i] }
    have rest : ∀ j ∈ is, ∃ name, j.name = some name ∧
        ({ c with indexes := c.indexes ++ [i] } : Collection).hasIndex name = false := by
      intro j member
      obtain ⟨other, called, absent⟩ := later j member
      have apart : (i.name == some other) = false := by
        rw [beq_eq_false_iff_ne, ← called]
        intro same
        exact distinct.1 (List.mem_map.mpr ⟨j, member, same.symm⟩)
      refine ⟨other, called, ?_⟩
      rw [Collection.hasIndex] at absent ⊢
      rw [List.any_append, absent, List.any_cons, List.any_nil, apart]
      rfl
    change exec (addIndex ref i >>= fun _ => is.forM (addIndex ref)) w = _
    rw [exec_bind_ok (exec_addIndex found named own), ih next distinct.2 rest]
    simp only [Workspace.withCollection, List.set_set, List.append_assoc, List.singleton_append]

theorem exec_addCollection (schema : Nat) (absent : (w.layout.schema schema).has c.name = false) :
    (addCollection schema c).exec w = (.ok (), { w with layout := { w.layout with
      collections := w.layout.collections ++ [c],
      schemas := w.layout.schemas.set schema
        { members := (w.layout.schema schema).members ++ [w.layout.collections.fresh c.name] } } }) := by
  have created : (newCollection c).exec w = (.ok (w.layout.collections.fresh c.name),
      { w with layout := { w.layout with collections := w.layout.collections ++ [c] } }) := rfl
  have inserted : (w.layout.schema schema).insert (w.layout.collections.fresh c.name) =
      .ok { members := (w.layout.schema schema).members ++ [w.layout.collections.fresh c.name] } := by
    have fresh : (w.layout.schema schema).has (w.layout.collections.fresh c.name).name = false := absent
    rw [Schema.insert, fresh]
    rfl
  rw [addCollection, exec_bind_ok created, exec_bind_ok (exec_get _)]
  exact exec_bind_ok ((exec_ofExcept _ _).trans (congrArg (·, _) inserted))

/-- Columns, indexes and mapping of a plan whose names are new. -/
theorem exec_writes {p : Plan} (found : w.layout.collections[p.ref.id]? = some p.collection)
    (columns : checkColumns p.collection [] p.columns = .ok ())
    (indexes : checkIndexes p.collection [] p.indexes = .ok ()) :
    exec (do p.columns.forM (addField p.ref); p.indexes.forM (addIndex p.ref); addMapping p.mapping) w =
      (.ok (), { w with layout := { w.layout with
        collections := w.layout.collections.set p.ref.id p.extended
        mappings := w.layout.mappings ++ [p.mapping] } }) := by
  obtain ⟨distinct, fresh⟩ := checkColumns_iff.mp columns
  obtain ⟨distinct', fresh'⟩ := checkIndexes_cases indexes
  have widened := exec_addFields found distinct fun f member => (fresh f member).2
  have next := Workspace.found_withCollection found { p.collection with fields := p.collection.fields ++ p.columns }
  have indexed := exec_addIndexes next distinct' fun i member => by
    obtain ⟨name, named, -, absent⟩ := fresh' i member
    exact ⟨name, named, absent⟩
  rw [exec_bind_ok widened, exec_bind_ok indexed]
  simp only [Workspace.withCollection, List.set_set]
  rfl

/-- Nothing that is planned is refused. -/
theorem exec_carryOut {p : Plan} {described : Mapping} {parent : Option Mapping} {indexes : List Value}
    (inside : parent.isSome = true → p.ref.id < w.layout.collections.length)
    (planned : Layout.Planned w.layout w.models w.drivers d p described parent indexes) :
    ∃ l, w.layout.attach p.mapping p.ref p.extended = .ok l ∧
      (carryOut p).exec w = (.ok (), { w with layout := l }) := by
  have facts := Layout.describe_cases planned.described
  have ancestors : p.mapping.ancestors = (parent.map Mapping.chain).getD [] := by
    rw [planned.mapping, facts.ancestors]
  have schema : described.schema = p.mapping.schema := by rw [planned.mapping]
  have place := planned.place
  unfold carryOut Layout.attach
  cases parent with
  | none =>
    obtain ⟨absent, fresh, -, -⟩ := Layout.place_root place
    rw [schema] at absent
    rw [ancestors, Option.map_none, Option.getD_none, if_pos List.isEmpty_nil, if_pos List.isEmpty_nil,
      Schema.insert, fresh, if_neg (by rw [Catalog.fresh, absent]; exact Bool.false_ne_true), ← fresh]
    refine ⟨_, rfl, ?_⟩
    have added := exec_addCollection p.mapping.schema absent
    have found : (w.layout.collections ++ [p.collection])[p.ref.id]? = some p.collection := by
      rw [fresh]
      exact List.getElem?_concat_length
    -- the new collection is extended where it was added
    have whole : (w.layout.collections ++ [p.collection]).set p.ref.id p.extended =
        w.layout.collections ++ [p.extended] := by
      rw [fresh]
      change (w.layout.collections ++ [p.collection]).set w.layout.collections.length p.extended = _
      rw [List.set_append_right _ _ (Nat.le_refl _), Nat.sub_self]
      rfl
    rw [← fresh] at added
    rw [exec_bind_ok added, exec_writes found planned.columns_new planned.indexes_new]
    dsimp only
    rw [whole]
  | some q =>
    obtain ⟨-, current⟩ := Layout.place_child place
    have found : w.layout.collections[p.ref.id]? = some p.collection := by
      rw [current, Catalog.get, List.getElem?_eq_getElem (inside rfl), Option.getD_some]
    have extends_ : p.mapping.ancestors.isEmpty = false := by
      rw [ancestors, Option.map_some, Option.getD_some, Mapping.chain]
      cases q.ancestors <;> rfl
    rw [extends_]
    exact ⟨_, rfl, exec_writes found planned.columns_new planned.indexes_new⟩

/-! A collection that does not exist takes all columns and indexes, and none of them is kept. -/

theorem exec_setCollection_outside (outside : w.layout.collections.length ≤ ref.id) (c : Collection) :
    (setCollection ref c).exec w = (.ok (), w) := by
  have same := List.set_eq_of_length_le (a := c) outside
  rw [setCollection, exec_modify, same]

theorem exec_addField_outside (outside : w.layout.collections.length ≤ ref.id) (f : CollectionField) :
    (addField ref f).exec w = (.ok (), w) := by
  rw [addField, exec_bind_ok (exec_get w), Catalog.get_outside outside]
  exact (exec_bind_ok (exec_ofExcept (.ok _) w)).trans (exec_setCollection_outside outside _)

theorem exec_addIndex_outside (outside : w.layout.collections.length ≤ ref.id) (i : CollectionIndex) :
    (addIndex ref i).exec w = (.ok (), w) := by
  rw [addIndex, exec_bind_ok (exec_get w), Catalog.get_outside outside]
  exact (exec_bind_ok (exec_ofExcept (.ok _) w)).trans (exec_setCollection_outside outside _)

theorem exec_forM_idle {α : Type} {a : α → Run PUnit} (idle : ∀ x, (a x).exec w = (.ok ⟨⟩, w)) (xs : List α) :
    (xs.forM a).exec w = (.ok ⟨⟩, w) := by
  induction xs with
  | nil => rfl
  | cons x xs ih =>
    change exec (a x >>= fun _ => xs.forM a) w = _
    rw [exec_bind_ok (idle x), ih]

/-- No plan is refused, wherever it is carried out. -/
theorem carryOut_accepts {p : Plan} {described : Mapping} {parent : Option Mapping} {indexes : List Value}
    (planned : Layout.Planned w.layout w.models w.drivers d p described parent indexes) :
    ∃ w', (carryOut p).exec w = (.ok (), w') := by
  by_cases inside : parent.isSome = true → p.ref.id < w.layout.collections.length
  · obtain ⟨l, -, done⟩ := exec_carryOut inside planned
    exact ⟨_, done⟩
  · obtain ⟨linked, outside⟩ := Classical.not_imp.mp inside
    obtain ⟨q, rfl⟩ := Option.isSome_iff_exists.mp linked
    have extends_ : p.mapping.ancestors.isEmpty = false := by
      rw [planned.mapping, (Layout.describe_cases planned.described).ancestors, Option.map_some, Option.getD_some,
        Mapping.chain]
      cases q.ancestors <;> rfl
    have columns := exec_forM_idle (exec_addField_outside (Nat.le_of_not_lt outside)) p.columns
    have indexes := exec_forM_idle (exec_addIndex_outside (Nat.le_of_not_lt outside)) p.indexes
    unfold carryOut
    rw [extends_]
    exact ⟨_, (exec_bind_ok columns).trans (exec_bind_ok indexes)⟩

/-- A declaration step by step is the declaration at once. -/
theorem exec_declare (kind : d.kind = .hierarchy) (contained : w.layout.Contained) :
    (declare d).exec w = match w.layout.declare w.models w.drivers d with
      | .ok (l, m) => (.ok m.handle, { w with
          layout := l, journal := w.journal ++ [.mappingReady m.name m.fields.length (m.parent?.map (·.name))] })
      | .error e => (.error e, w) := by
  rw [declare, exec_bind_ok (exec_get w), kind, Layout.declare, kind]
  cases made : w.layout.plan w.models w.drivers d with
  | error e =>
    dsimp only
    rw [exec_bind_error (exec_ofExcept _ w)]
    rfl
  | ok p =>
    obtain ⟨m, parent, indexes, planned⟩ := Layout.plan_cases made
    have inside : parent.isSome = true → p.ref.id < w.layout.collections.length := fun extends_ => by
      obtain ⟨q, rfl⟩ := Option.isSome_iff_exists.mp extends_
      have known := mem_of_parentIn (Layout.describe_cases planned.described).parent_eq.symm
      exact contained q known p.ref (Layout.place_child planned.place).1
    obtain ⟨l, attached, written⟩ := exec_carryOut inside planned
    dsimp only
    rw [exec_bind_ok (exec_ofExcept _ w), exec_bind_ok written]
    simp only [Bind.bind, Except.bind, attached]
    rfl

/-- A declaration changes nothing, or it adds what was planned to the layout. -/
theorem declare_cases {outcome : Except Error Handle} (kind : d.kind = .hierarchy)
    (contained : w.layout.Contained) (done : (declare d).exec w = (outcome, w')) :
    (w' = w ∧ ∃ e, outcome = .error e) ∨
      ∃ l m journal, w.layout.declare w.models w.drivers d = .ok (l, m) ∧ outcome = .ok m.handle ∧
        w' = { w with layout := l, journal } := by
  rw [exec_declare kind contained] at done
  cases made : w.layout.declare w.models w.drivers d with
  | error e =>
    rw [made] at done
    cases done
    exact .inl ⟨rfl, e, rfl⟩
  | ok r =>
    rw [made] at done
    cases done
    exact .inr ⟨r.1, r.2, _, rfl, rfl, rfl⟩

end Run

end ModelStore
