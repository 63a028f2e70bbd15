import ModelStore.Proofs.Mapping.Identity
import ModelStore.Proofs.Workspace.Uniqueness

/-!
Rows as they were created. Beside the table of a hierarchy it is recorded for each row which mapping created it,
and with which values. Whatever is done through the mappings, the rows keep the keys that they were created with.
-/

namespace ModelStore

open Store (rowsOf)

variable {l : Layout} {driver schema : Nat} {ref : CollectionRef} {c : Collection} {s : Store} {own : Mapping}
  {x : Entity} {row old new made : Row} {rows : List Row}

/-- Where a row comes from: the mapping that created it, and the row as it was created. -/
structure Origin where
  own : Mapping
  made : Row

namespace Origin

variable {o : Origin} {os cs : List Origin}

theorem map_own (os : List Origin) (own : Mapping) (rows : List Row) :
    (os ++ rows.map (mk own)).map Origin.own = os.map Origin.own ++ List.replicate rows.length own := by
  rw [List.map_append, List.map_map, show Origin.own ∘ mk own = fun _ => own from rfl, List.map_const']

/-- Whether a row has the key still that it was created with, and which was stored of values of the types of the
    attributes. -/
structure Keeps (o : Origin) (row : Row) : Prop where
  same : ∀ f ∈ o.own.keyFields, row.get? f.name = o.made.get? f.name
  value : ∀ f ∈ o.own.keyFields, ∀ a ∈ o.own.model.attributes, f.ref = a.name →
    ∃ v raw, a.includes v = true ∧ f.conversion.toRaw v = .ok raw ∧ o.made.get? f.name = some raw

theorem keeps_created (agrees : own.Agrees) (includes : own.Includes x true) (creates : own.Creates c x made) :
    (Origin.mk own made).Keeps made where
  same := fun _ _ => rfl
  value := by
    intro f field a declared same
    have mapped := (List.mem_filter.mp field).1
    cases left : f.unset x with
    | true =>
      rcases creates.generated f mapped left with ⟨n, number⟩
      have generated := (Bool.and_eq_true_iff.mp left).1
      refine ⟨.int n, .int n, ?_, ?_, number⟩
      · rw [Attribute.includes, agrees.type_of_sequence mapped declared same generated]
        rfl
      · rw [agrees.converter f mapped, agrees.sequence f mapped generated]
        rfl
    | false =>
      rcases creates.field f mapped left with ⟨raw, stored, present⟩
      have typed := (includes f mapped a declared same).resolve_right (by simp [left])
      exact ⟨_, raw, typed, stored, present⟩

/-- Saving leaves the key of the row as it is. -/
theorem Keeps.saved (keeps : o.Keeps old)
    (column : ∀ k, new.get? k = (if k ∈ o.own.keyNames then none else row.get? k).or (old.get? k)) :
    o.Keeps new where
  same := by
    intro f field
    have key : f.name ∈ o.own.keyNames := List.mem_map_of_mem field
    rw [column, if_pos key, Option.none_or, keeps.same f field]
  value := keeps.value

end Origin

namespace Workspace

open Run

/-- Whether all rows with the key of an instance were created by a mapping. -/
def CreatesKey (w : Workspace) (driver : Nat) (ref : CollectionRef) (os : List Origin) (own : Mapping) (x : Entity) :
    Prop :=
  ∀ (i : Nat) (o : Origin) (row : Row), os[i]? = some o → (w.table driver ref.name)[i]? = some row →
    own.HasKey x row → o.own = own

/-- Workspaces that are reached from an empty table by creating, saving and removing instances through the mappings
    of its hierarchy, each with the origins of its rows and of the committed ones. All values that are written are
    of the types of their attributes, and what is saved is of the class whose mapping created the row with its key. -/
inductive Recorded (driver schema : Nat) (ref : CollectionRef) :
    Workspace → List Origin → List Origin → Prop where
  | start {w : Workspace} {s : Store} {evaluator : Option Nat} {r : Mapping}
      (hierarchy : w.layout.Hierarchy driver schema ref) (inhabited : r ∈ w.layout.family ref)
      (driven : w.drivers[driver]? = some (.memory s evaluator))
      (provisioned : s.shapes.get? ref.name = some ref) (working : s.rows ref.name = [])
      (committed : rowsOf s.committed ref.name = []) : Recorded driver schema ref w [] []
  | create {w w' : Workspace} {os cs : List Origin} {m own : Mapping} {id : Nat} {name : String} {x : Entity}
      {outcome : Except Error Unit} (before : Recorded driver schema ref w os cs)
      (member : m ∈ w.layout.family ref) (given : w.entities[id]? = some x)
      (mapped : w.layout.mappingFor m x = .ok own) (includes : own.Includes x true)
      (done : (createEntity m (.object (.entity id name))).exec w = (outcome, w')) :
      Recorded driver schema ref w'
        (os ++ ((w'.table driver ref.name).drop (w.table driver ref.name).length).map (.mk own)) cs
  | save {w w' : Workspace} {os cs : List Origin} {m own : Mapping} {id : Nat} {name : String} {x : Entity}
      {outcome : Except Error Unit} (before : Recorded driver schema ref w os cs)
      (member : m ∈ w.layout.family ref) (given : w.entities[id]? = some x)
      (mapped : w.layout.mappingFor m x = .ok own) (includes : own.Includes x false)
      (mine : w.CreatesKey driver ref os own x)
      (done : (saveEntity m (.object (.entity id name))).exec w = (outcome, w')) :
      Recorded driver schema ref w' os cs
  | remove {w w' : Workspace} {os cs : List Origin} {m : Mapping} {v : Value} {i : Nat}
      {outcome : Except Error Unit} (before : Recorded driver schema ref w os cs)
      (member : m ∈ w.layout.family ref) (done : (removeEntity m v).exec w = (outcome, w'))
      (removed : w'.table driver ref.name = (w.table driver ref.name).eraseIdx i) :
      Recorded driver schema ref w' (os.eraseIdx i) cs
  | commit {w w' : Workspace} {os cs : List Origin} (before : Recorded driver schema ref w os cs)
      (done : (Run.commit driver).exec w = (.ok (), w')) : Recorded driver schema ref w' os os
  | rollback {w w' : Workspace} {os cs : List Origin} (before : Recorded driver schema ref w os cs)
      (done : (Run.rollback driver).exec w = (.ok (), w')) : Recorded driver schema ref w' cs cs
  | other {w w' : Workspace} {os cs : List Origin} (before : Recorded driver schema ref w os cs)
      (layout : w'.layout = w.layout) (same : SameTable w w' driver ref.name) : Recorded driver schema ref w' os cs

/-- What the workspaces on the way have in common. -/
structure Records (w : Workspace) (driver schema : Nat) (ref : CollectionRef) (os cs : List Origin) : Prop where
  hierarchy : w.layout.Hierarchy driver schema ref
  traced : w.Traced driver schema ref (os.map Origin.own) (cs.map Origin.own)
  worked : w.Worked driver schema ref
  kept : ∃ s evaluator, w.drivers[driver]? = some (.memory s evaluator) ∧
    List.Forall₂ Origin.Keeps os (s.rows ref.name) ∧ List.Forall₂ Origin.Keeps cs (rowsOf s.committed ref.name)

namespace Records

variable {w w' : Workspace} {m : Mapping} {os cs : List Origin} {id : Nat} {name : String}
  {outcome : Except Error Unit}

theorem declared (records : w.Records driver schema ref os cs) : w.layout.Declared driver schema :=
  records.hierarchy.declared

theorem sound (records : w.Records driver schema ref os cs) : w.layout.Sound schema := records.declared.sound

/-- The store with the rows, each of which belongs to the mapping that created it and has its key still, and which
    are kept apart. -/
theorem exists_store (records : w.Records driver schema ref os cs) :
    ∃ s evaluator c, w.drivers[driver]? = some (.memory s evaluator) ∧ w.layout.Stores schema ref c ∧
      s.Tracks w.layout ref (os.map Origin.own) (cs.map Origin.own) ∧ s.Separates w.layout ref ∧
      List.Forall₂ Origin.Keeps os (s.rows ref.name) ∧
      List.Forall₂ Origin.Keeps cs (rowsOf s.committed ref.name) := by
  obtain ⟨s, evaluator, driven, working, committed⟩ := records.kept
  obtain ⟨s₁, evaluator₁, driven₁, tracks⟩ := records.traced.traces.tracks
  obtain ⟨s₂, evaluator₂, driven₂, separates⟩ := records.worked.separates.separates
  obtain ⟨c, stores⟩ := records.traced.traces.stores
  cases driven.symm.trans driven₁
  cases driven.symm.trans driven₂
  exact ⟨s, evaluator, c, driven, stores, tracks, separates, working, committed⟩

theorem start {evaluator : Option Nat} {r : Mapping} (hierarchy : w.layout.Hierarchy driver schema ref)
    (inhabited : r ∈ w.layout.family ref) (driven : w.drivers[driver]? = some (.memory s evaluator))
    (provisioned : s.shapes.get? ref.name = some ref) (working : s.rows ref.name = [])
    (committed : rowsOf s.committed ref.name = []) : w.Records driver schema ref [] [] where
  hierarchy := hierarchy
  traced := .start hierarchy.declared hierarchy.differ (fun m inside => (hierarchy.fits m inside).agrees) inhabited
    driven provisioned working committed
  worked := .start hierarchy.declared inhabited driven provisioned working committed
  kept := ⟨s, evaluator, driven, working ▸ .nil, committed ▸ .nil⟩

theorem create (records : w.Records driver schema ref os cs) (member : m ∈ w.layout.family ref)
    (given : w.entities[id]? = some x) (mapped : w.layout.mappingFor m x = .ok own)
    (includes : own.Includes x true)
    (done : (createEntity m (.object (.entity id name))).exec w = (outcome, w')) :
    w'.Records driver schema ref
      (os ++ ((w'.table driver ref.name).drop (w.table driver ref.name).length).map (.mk own)) cs := by
  obtain ⟨s, evaluator, c, driven, stores, tracks, -, working, committed⟩ := records.exists_store
  have traced := Traced.create records.traced member given mapped includes done
  rw [← List.length_drop, ← Origin.map_own] at traced
  rcases create_cases records.declared member driven given done with
    rfl | ⟨own', row, answer, s', mapped', inside, written, created, layout, drivers⟩
  · rwa [List.drop_length, List.map_nil, List.append_nil]
  · cases mapped.symm.trans mapped'
    have driven' := driven_of_set driven drivers
    refine ⟨layout ▸ records.hierarchy, traced, .create records.worked member done, s', evaluator, driven', ?_⟩
    rw [table_eq driven, table_eq driven']
    cases answer with
    | error e =>
      obtain ⟨sequences, rfl⟩ := Store.create_error created
      have none : (({ s with sequences } : Store).rows ref.name).drop (s.rows ref.name).length = [] :=
        List.drop_length
      rw [none, List.map_nil, List.append_nil]
      exact ⟨working, committed⟩
    | ok made =>
      obtain ⟨creates, -, sequences, rfl⟩ :=
        records.sound.creates_of_create inside stores tracks.provisioned written created
      have keeps := Origin.keeps_created (records.hierarchy.fits own inside).agrees includes creates
      rw [Store.rows_setRows, if_pos (beq_self_eq_true _), List.drop_left]
      exact ⟨List.rel_append working (.cons keeps .nil), committed⟩

theorem save (records : w.Records driver schema ref os cs) (member : m ∈ w.layout.family ref)
    (given : w.entities[id]? = some x) (mapped : w.layout.mappingFor m x = .ok own)
    (includes : own.Includes x false) (mine : w.CreatesKey driver ref os own x)
    (done : (saveEntity m (.object (.entity id name))).exec w = (outcome, w')) :
    w'.Records driver schema ref os cs := by
  obtain ⟨s, evaluator, c, driven, stores, tracks, -, working, committed⟩ := records.exists_store
  rcases save_cases records.declared member driven given done with
    ⟨rfl, -⟩ | ⟨own', row, key, s', mapped', inside, written, keyed, saved, rfl⟩
  · exact records
  · cases mapped.symm.trans mapped'
    obtain ⟨before, old, after, new, ⟨rows, has, -⟩, column, rfl⟩ :=
      records.sound.save_hits stores inside tracks.provisioned written keyed saved
    rw [CreatesKey, table_eq driven, rows] at mine
    rw [rows] at working
    have owns : ∀ o, os[before.length]? = some o → o.own = own := fun o there =>
      mine _ o old there (getElem?_middle before after old) has
    have driven' : ({ w with drivers := w.drivers.set driver (.memory (s.setRows ref.name (before ++ new :: after))
        evaluator) } : Workspace).drivers[driver]? = _ := driven_of_set driven rfl
    have changed : ∀ i : Nat, (before ++ new :: after)[i]? ≠ (before ++ old :: after)[i]? →
        (os.map Origin.own)[i]? = some own := by
      intro i differs
      have here : i = before.length := by
        by_contra apart
        exact differs (getElem?_replace before after old new apart)
      obtain ⟨o, there, -⟩ := forall₂_getElem? working.flip (getElem?_middle before after old)
      rw [here, List.getElem?_map, there, Option.map_some, owns o there]
    refine ⟨records.hierarchy, ?_, .save records.worked member done, _, evaluator, driven', ?_, committed⟩
    · refine .save records.traced member given mapped includes done ?_
      rw [table_eq driven, table_eq driven', Store.rows_setRows, if_pos (beq_self_eq_true _), rows]
      exact changed
    · rw [Store.rows_setRows, if_pos (beq_self_eq_true _)]
      refine forall₂_replace working fun o there keeps => ?_
      cases owns o there
      exact keeps.saved column

theorem remove {v : Value} {i : Nat} (records : w.Records driver schema ref os cs) (member : m ∈ w.layout.family ref)
    (done : (removeEntity m v).exec w = (outcome, w'))
    (removed : w'.table driver ref.name = (w.table driver ref.name).eraseIdx i) :
    w'.Records driver schema ref (os.eraseIdx i) cs := by
  obtain ⟨s, evaluator, c, driven, -, -, -, working, committed⟩ := records.exists_store
  have rest := forall₂_eraseIdx working i
  have traced := Traced.remove records.traced member done removed
  rw [List.eraseIdx_map] at traced
  have worked := Worked.remove records.worked member done
  rcases remove_cases records.declared member driven done with
    ⟨rfl, -⟩ | ⟨id, x, own, row, key, s', -, -, -, -, -, made, rfl⟩
  · rw [table_eq driven] at removed
    exact ⟨records.hierarchy, traced, worked, s, evaluator, driven, removed ▸ rest, committed⟩
  · have driven' : ({ w with drivers := w.drivers.set driver (.memory s' evaluator) } : Workspace).drivers[driver]? =
        some (.memory s' evaluator) := driven_of_set driven rfl
    rw [table_eq driven, table_eq driven'] at removed
    obtain ⟨before, old, after, -, same⟩ := Store.remove_cases made
    refine ⟨records.hierarchy, traced, worked, s', evaluator, driven', removed ▸ rest, ?_⟩
    rw [same]
    exact committed

theorem commit (records : w.Records driver schema ref os cs) (done : (Run.commit driver).exec w = (.ok (), w')) :
    w'.Records driver schema ref os os := by
  obtain ⟨s, evaluator, driven, working, committed⟩ := records.kept
  rcases update_cases driven done with ⟨-, e, failed⟩ | ⟨d, made, rfl⟩
  · cases failed
  · cases made
    exact ⟨records.hierarchy, .commit records.traced done, .commit records.worked done, _, _,
      driven_of_set driven rfl, working, working⟩

theorem rollback (records : w.Records driver schema ref os cs) (done : (Run.rollback driver).exec w = (.ok (), w')) :
    w'.Records driver schema ref cs cs := by
  obtain ⟨s, evaluator, driven, working, committed⟩ := records.kept
  rcases update_cases driven done with ⟨-, e, failed⟩ | ⟨d, made, rfl⟩
  · cases failed
  · cases made
    exact ⟨records.hierarchy, .rollback records.traced done, .rollback records.worked done, _, _,
      driven_of_set driven rfl, committed, committed⟩

theorem other (records : w.Records driver schema ref os cs) (layout : w'.layout = w.layout)
    (same : SameTable w w' driver ref.name) : w'.Records driver schema ref os cs := by
  obtain ⟨s, evaluator, driven, working, committed⟩ := records.kept
  obtain ⟨s', evaluator', driven', -, rows, rows'⟩ := same s evaluator driven
  exact ⟨layout ▸ records.hierarchy, .other records.traced layout same, .other records.worked layout same, s',
    evaluator', driven', rows ▸ working, rows' ▸ committed⟩

end Records

/-- Whatever was done, each row has the key that it was created with. -/
theorem Recorded.records {w : Workspace} {os cs : List Origin} (recorded : w.Recorded driver schema ref os cs) :
    w.Records driver schema ref os cs := by
  induction recorded with
  | start hierarchy inhabited driven provisioned working committed =>
    exact .start hierarchy inhabited driven provisioned working committed
  | create _ member given mapped includes done records => exact records.create member given mapped includes done
  | save _ member given mapped includes mine done records =>
    exact records.save member given mapped includes mine done
  | remove _ member done removed records => exact records.remove member done removed
  | commit _ done records => exact records.commit done
  | rollback _ done records => exact records.rollback done
  | other _ layout same records => exact records.other layout same

end Workspace

end ModelStore
