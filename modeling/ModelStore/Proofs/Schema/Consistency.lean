import ModelStore.Proofs.Schema.Requests

/-!
Schemas that are built up of their collections, and when all that they ask for can be provided: the requests of such
a schema have places of their own.
-/

namespace ModelStore

/-! What a collection and a schema are built of. -/

/-- Collections as they come to be, by adding fields, indexes and foreign keys. -/
inductive Collection.Built : Collection → Prop where
  | empty (name : String) : Built { name }
  | field {c c' : Collection} {f : CollectionField} (built : Built c) (added : c.insertField f = .ok c') : Built c'
  | index {c c' : Collection} {i i' : CollectionIndex} (built : Built c)
      (added : c.insertIndex i = .ok (c', i')) : Built c'
  | foreignKey {c c' : Collection} {k k' : CollectionForeignKey} (built : Built c)
      (added : c.insertForeignKey k = .ok (c', k')) : Built c'

/-- Schemas as they come to be, by adding collections. -/
inductive Schema.Built : Schema → Prop where
  | empty : Built {}
  | insert {s s' : Schema} {c : CollectionRef} (built : Built s) (added : s.insert c = .ok s') : Built s'

/-- Names that are all there, and no two of them the same. -/
structure Labelled (names : List (Option String)) : Prop where
  named : ∀ name ∈ names, name.isSome = true
  distinct : names.Nodup

theorem Labelled.nil : Labelled [] := ⟨List.forall_mem_nil _, List.nodup_nil⟩

theorem Labelled.append {names : List (Option String)} {name : String} (labelled : Labelled names)
    (fresh : some name ∉ names) : Labelled (names ++ [some name]) := by
  refine ⟨List.forall_mem_append.mpr ⟨labelled.named, List.forall_mem_singleton.mpr rfl⟩, ?_⟩
  refine List.nodup_append.mpr ⟨labelled.distinct, List.nodup_singleton _, fun other inside last there same => ?_⟩
  rw [List.mem_singleton] at there
  exact fresh (there ▸ same ▸ inside)

theorem Collection.Built.labelled {c : Collection} (built : c.Built) :
    Labelled (c.indexes.map (·.name)) ∧ Labelled (c.foreignKeys.map (·.name)) := by
  induction built with
  | empty name => exact ⟨.nil, .nil⟩
  | field built added ih =>
    unfold insertField at added
    split at added
    · cases added
    · cases added
      exact ih
  | @index c c' i i' built added ih =>
    unfold insertIndex at added
    dsimp only at added
    split at added
    · cases added
    · rename_i absent
      cases added
      rw [List.map_append]
      refine ⟨ih.1.append fun inside => absent ?_, ih.2⟩
      obtain ⟨j, member, same⟩ := List.mem_map.mp inside
      exact List.any_eq_true.mpr ⟨j, member, beq_iff_eq.mpr same⟩
  | @foreignKey c c' k k' built added ih =>
    unfold insertForeignKey at added
    dsimp only at added
    split at added
    · cases added
    · rename_i absent
      cases added
      rw [List.map_append]
      refine ⟨ih.1, ih.2.append fun inside => absent ?_⟩
      obtain ⟨j, member, same⟩ := List.mem_map.mp inside
      exact List.any_eq_true.mpr ⟨j, member, beq_iff_eq.mpr same⟩

namespace Schema

variable {s : Schema} {cs : Catalog} {r : Request}

theorem Built.nodup (built : s.Built) : s.names.Nodup := by
  induction built with
  | empty => exact List.nodup_nil
  | @insert s s' c built added ih =>
    unfold Schema.insert at added
    split at added
    · cases added
    · rename_i absent
      cases added
      rw [names, List.map_append]
      refine List.nodup_append.mpr ⟨ih, List.nodup_singleton _, fun name inside last there same => absent ?_⟩
      obtain ⟨d, member, own⟩ := List.mem_map.mp inside
      rw [List.map_singleton, List.mem_singleton] at there
      exact List.any_eq_true.mpr ⟨d, member, beq_iff_eq.mpr (own.trans (same.trans there))⟩

/-! Requests. -/

/-- A schema is refused for a foreign key to a collection that is not its member of that name. -/
theorem foreignTarget?_eq_some {e : Error} (refused : s.foreignTarget? cs = some e) :
    ∃ c ∈ s.members, ∃ k ∈ (cs.get c).foreignKeys,
      s.find? k.target.collection.name ≠ some k.target.collection ∧ e = foreignTarget c k := by
  obtain ⟨r, member, own⟩ := List.exists_of_findSome?_eq_some refused
  obtain ⟨c, inside, listed⟩ := List.mem_flatMap.mp member
  obtain ⟨k, key, rfl⟩ := List.mem_map.mp listed
  dsimp only at own
  split at own
  · cases own
  · rename_i other
    cases own
    exact ⟨c, inside, k, key, fun same => other (beq_iff_eq.mpr same), rfl⟩

/-- Whether all that is referred to is there: targets within the schema, and fields within the collections. -/
structure Consistent (s : Schema) (cs : Catalog) : Prop where
  closed : s.Closed cs
  indexes : ∀ c ∈ s.members, ∀ i ∈ (cs.get c).indexes, ∀ name ∈ i.fields, (cs.get c).hasField name = true
  foreignKeys : ∀ c ∈ s.members, ∀ k ∈ (cs.get c).foreignKeys, (cs.get c).hasField k.field = true ∧
    (cs.get k.target.collection).hasField k.target.field = true

/-- What is wrong with the requests of a phase, in their order. -/
def faults (cs : Catalog) (s : Schema) (phase : Phase) : List Error := (s.requests cs phase).filterMap (·.fault? cs)

/-- The requests of all phases. -/
def demands (cs : Catalog) (s : Schema) : List Request :=
  s.requests cs .collections ++ (s.requests cs .indexes ++ s.requests cs .foreignKeys)

theorem mem_indexes : r ∈ s.requests cs .indexes ↔ ∃ c ∈ s.members, ∃ i ∈ (cs.get c).indexes, .index c i = r := by
  simp only [requests, List.mem_flatMap, List.mem_map]

theorem mem_foreignKeys :
    r ∈ s.requests cs .foreignKeys ↔ ∃ c ∈ s.members, ∃ k ∈ (cs.get c).foreignKeys, .foreignKey c k = r := by
  simp only [requests, List.mem_flatMap, List.mem_map]

theorem phase_of_mem (phase : Phase) (member : r ∈ s.requests cs phase) : r.phase = phase := by
  cases phase with
  | collections =>
    obtain ⟨c, -, rfl⟩ := List.mem_map.mp member
    rfl
  | indexes =>
    obtain ⟨c, -, i, -, rfl⟩ := mem_indexes.mp member
    rfl
  | foreignKeys =>
    obtain ⟨c, -, k, -, rfl⟩ := mem_foreignKeys.mp member
    rfl

theorem faults_collections (cs : Catalog) (s : Schema) : s.faults cs .collections = [] := by
  refine List.filterMap_eq_nil_iff.mpr fun r member => ?_
  obtain ⟨c, -, rfl⟩ := List.mem_map.mp member
  rfl

theorem faults_indexes : s.faults cs .indexes = [] ↔
    ∀ c ∈ s.members, ∀ i ∈ (cs.get c).indexes, ∀ name ∈ i.fields, (cs.get c).hasField name = true := by
  have each : ∀ c i, (Request.index c i).fault? cs = none ↔ ∀ name ∈ i.fields, (cs.get c).hasField name = true := by
    intro c i
    simp only [Request.fault?, Option.map_eq_none_iff, List.find?_eq_none, Bool.not_eq_true', Bool.not_eq_false]
  simp only [faults, List.filterMap_eq_nil_iff, mem_indexes, ← each]
  constructor
  · exact fun all c inside i own => all _ ⟨c, inside, i, own, rfl⟩
  · rintro all r ⟨c, inside, i, own, rfl⟩
    exact all c inside i own

theorem faults_foreignKeys : s.faults cs .foreignKeys = [] ↔
    ∀ c ∈ s.members, ∀ k ∈ (cs.get c).foreignKeys, (cs.get c).hasField k.field = true ∧
      (cs.get k.target.collection).hasField k.target.field = true := by
  have each : ∀ c k, (Request.foreignKey c k).fault? cs = none ↔ (cs.get c).hasField k.field = true ∧
      (cs.get k.target.collection).hasField k.target.field = true := by
    intro c k
    rw [Request.fault?]
    cases (cs.get c).hasField k.field <;> cases (cs.get k.target.collection).hasField k.target.field <;> simp
  simp only [faults, List.filterMap_eq_nil_iff, mem_foreignKeys, ← each]
  constructor
  · exact fun all c inside k own => all _ ⟨c, inside, k, own, rfl⟩
  · rintro all r ⟨c, inside, k, own, rfl⟩
    exact all c inside k own

theorem consistent_iff :
    s.Consistent cs ↔ s.Closed cs ∧ s.faults cs .indexes = [] ∧ s.faults cs .foreignKeys = [] := by
  rw [faults_indexes, faults_foreignKeys]
  exact ⟨fun h => ⟨h.closed, h.indexes, h.foreignKeys⟩, fun h => ⟨h.1, h.2.1, h.2.2⟩⟩

/-- The parts of all members of a schema have places of their own if they have names of their own. -/
theorem nodup_parts {α : Type} {members : List CollectionRef} {parts : CollectionRef → List α}
    {name : α → Option String} (phase : Phase) (distinct : (members.map (·.name)).Nodup)
    (labelled : ∀ c ∈ members, Labelled ((parts c).map name)) :
    (members.flatMap fun c => (parts c).map fun a => (phase, c.name, (name a).getD "")).Nodup := by
  refine List.nodup_flatMap.mpr ⟨fun c member => ?_, ?_⟩
  · have own := labelled c member
    refine List.pairwise_map.mpr ((List.pairwise_map.mp own.distinct).imp_of_mem ?_)
    intro a b inside inside' apart same
    obtain ⟨m, here⟩ := Option.isSome_iff_exists.mp (own.named _ (List.mem_map_of_mem inside))
    obtain ⟨n, there⟩ := Option.isSome_iff_exists.mp (own.named _ (List.mem_map_of_mem inside'))
    rw [here, there] at same apart
    cases same
    exact apart rfl
  · refine (List.pairwise_map.mp distinct).imp fun {c d} apart p here there => ?_
    obtain ⟨a, -, rfl⟩ := List.mem_map.mp here
    obtain ⟨b, -, same⟩ := List.mem_map.mp there
    exact apart (congrArg (·.2.1) same).symm

/-- No two requests of a schema are for the same place. -/
theorem nodup_places (built : s.Built) (parts : ∀ c ∈ s.members, (cs.get c).Built) :
    ((s.demands cs).map Request.place).Nodup := by
  have distinct := built.nodup
  have phase : ∀ {phase p}, p ∈ (s.requests cs phase).map Request.place → p.1 = phase := by
    intro phase p member
    obtain ⟨r, inside, rfl⟩ := List.mem_map.mp member
    rw [Request.fst_place, phase_of_mem _ inside]
  have collections : ((s.requests cs .collections).map Request.place).Nodup := by
    rw [requests, List.map_map]
    refine List.Nodup.of_map (fun p : Phase × String × String => p.2.1) ?_
    rw [List.map_map]
    exact distinct
  have indexes : ((s.requests cs .indexes).map Request.place).Nodup := by
    have own := nodup_parts .indexes distinct fun c member => (parts c member).labelled.1
    rw [requests, List.map_flatMap]
    simp only [List.map_map]
    exact own
  have foreignKeys : ((s.requests cs .foreignKeys).map Request.place).Nodup := by
    have own := nodup_parts .foreignKeys distinct fun c member => (parts c member).labelled.2
    rw [requests, List.map_flatMap]
    simp only [List.map_map]
    exact own
  rw [demands, List.map_append, List.map_append]
  refine List.nodup_append.mpr ⟨collections, List.nodup_append.mpr ⟨indexes, foreignKeys, ?_⟩, ?_⟩
  · intro p here q there same
    cases (phase here).symm.trans ((congrArg Prod.fst same).trans (phase there))
  · intro p here q there same
    rcases List.mem_append.mp there with there | there
    · cases (phase here).symm.trans ((congrArg Prod.fst same).trans (phase there))
    · cases (phase here).symm.trans ((congrArg Prod.fst same).trans (phase there))

end Schema

end ModelStore
