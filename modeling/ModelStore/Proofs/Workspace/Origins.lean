import Mathlib.Data.List.Forall2
import ModelStore.Proofs.Mapping.Owned
import ModelStore.Proofs.Workspace.Filtering

/-!
Which mapping created each row. It is told along all operations that work through a hierarchy, and decides
what the mappings find: the instances of a mapping are those of the rows that it or a mapping below it created.
-/

namespace ModelStore

variable {l : Layout} {driver schema : Nat} {ref : CollectionRef} {c : Collection} {s s' : Store}
  {m own t : Mapping} {os cs : List Mapping} {xs : List Entity} {x : Entity} {row key : Row} {rows : List Row}

/-! Lists that belong together. -/

section Lists

variable {α β : Type} {R : α → β → Prop} {as : List α}

theorem forall₂_replace {before after : List β} {old new : β}
    (each : List.Forall₂ R as (before ++ old :: after))
    (next : ∀ a, as[before.length]? = some a → R a old → R a new) :
    List.Forall₂ R as (before ++ new :: after) := by
  induction before generalizing as with
  | nil =>
    cases each with
    | cons first rest => exact .cons (next _ rfl first) rest
  | cons b before ih =>
    cases each with
    | cons first rest => exact .cons first (ih rest next)

/-- What stands at a place of one list belongs to what stands there in the other. -/
theorem forall₂_getElem? {bs : List β} {i : Nat} {a : α} (each : List.Forall₂ R as bs) (found : as[i]? = some a) :
    ∃ b, bs[i]? = some b ∧ R a b := by
  induction each generalizing i with
  | nil => cases found
  | cons first rest ih =>
    cases i with
    | zero =>
      cases found
      exact ⟨_, rfl, first⟩
    | succ i => exact ih found

theorem forall₂_eraseIdx {bs : List β} (each : List.Forall₂ R as bs) (i : Nat) :
    List.Forall₂ R (as.eraseIdx i) (bs.eraseIdx i) := by
  induction each generalizing i with
  | nil => exact .nil
  | cons first rest ih =>
    cases i with
    | zero => exact rest
    | succ i => exact .cons first (ih i)

end Lists

/-! The mappings at or above another one. -/

/-- Whether a mapping is the other one or extends it, directly or not. -/
def Mapping.descends (m t : Mapping) : Bool := m.chain.any (·.id == t.id)

/-- The instances of which the mapping or one below it created the rows. The first list names for each
    instance the mapping that did. -/
def Mapping.instances (t : Mapping) (os : List Mapping) (xs : List Entity) : List Entity :=
  ((os.zip xs).filter fun e => e.1.descends t).map Prod.snd

theorem Layout.Sound.descends_iff (sound : l.Sound schema) (known : t ∈ l.mappings) (inside : m ∈ l.mappings) :
    m.descends t = true ↔ Below l t m := by
  rw [Mapping.descends, List.any_eq_true]
  constructor
  · rintro ⟨a, link, same⟩
    rcases sound.exists_of_mem_chain inside a link with ⟨p, known', rfl, below⟩
    rwa [sound.eq_of_id known known' (beq_iff_eq.mp same).symm]
  · intro below
    exact ⟨t.toLevel, (below.chain_prefix sound known).subset t.self_mem_chain, beq_self_eq_true _⟩

namespace Mapping

theorem instances_cons (t own : Mapping) (os : List Mapping) (x : Entity) (xs : List Entity) :
    t.instances (own :: os) (x :: xs) =
      if own.descends t then x :: t.instances os xs else t.instances os xs := by
  rw [instances, List.zip_cons_cons, List.filter_cons]
  split <;> rfl

theorem instances_eq_self (many : xs.length ≤ os.length) (all : ∀ o ∈ os, o.descends t = true) :
    t.instances os xs = xs := by
  rw [instances, List.filter_eq_self.mpr fun e inside => all e.1 (List.of_mem_zip inside).1, List.map_snd_zip many]

theorem instances_sublist (xs : List Entity) (all : ∀ o ∈ os, o.descends m = true → o.descends t = true) :
    (m.instances os xs).Sublist (t.instances os xs) := by
  refine List.Sublist.map _ ?_
  have narrower : (os.zip xs).filter (fun e => e.1.descends m) =
      ((os.zip xs).filter fun e => e.1.descends t).filter fun e => e.1.descends m := by
    rw [List.filter_filter]
    refine List.filter_congr fun e inside => ?_
    have implied := all e.1 (List.of_mem_zip inside).1
    cases here : e.1.descends m with
    | false => rfl
    | true => rw [implied here]; rfl
  rw [narrower]
  exact List.filter_sublist

end Mapping

/-! The rows of a store and the mappings that created them. -/

/-- A store that knows a collection, each row of which belongs to the mapping that is listed for it. -/
structure Store.Tracks (s : Store) (l : Layout) (ref : CollectionRef) (os cs : List Mapping) : Prop where
  provisioned : s.shapes.get? ref.name = some ref
  working : List.Forall₂ (l.Owned ref) os (s.rows ref.name)
  committed : List.Forall₂ (l.Owned ref) cs (Store.rowsOf s.committed ref.name)

theorem Layout.mem_family_of_owned (each : List.Forall₂ (l.Owned ref) os rows) : ∀ o ∈ os, o ∈ l.family ref := by
  induction each with
  | nil => exact List.forall_mem_nil _
  | cons owned _ ih => exact List.forall_mem_cons.mpr ⟨owned.member, ih⟩

namespace Store.Tracks

theorem setRows (tracks : s.Tracks l ref os cs) {os' : List Mapping} (each : List.Forall₂ (l.Owned ref) os' rows) :
    (s.setRows ref.name rows).Tracks l ref os' cs where
  provisioned := tracks.provisioned
  working := by
    rw [rows_setRows, if_pos (beq_self_eq_true _)]
    exact each
  committed := tracks.committed

theorem commit (tracks : s.Tracks l ref os cs) : s.commit.Tracks l ref os os :=
  ⟨tracks.provisioned, tracks.working, tracks.working⟩

theorem rollback (tracks : s.Tracks l ref os cs) : s.rollback.Tracks l ref cs cs :=
  ⟨tracks.provisioned, tracks.committed, tracks.committed⟩

/-- A row is created last, or not at all. -/
theorem create {outcome : Except Error Row} (tracks : s.Tracks l ref os cs) (sound : l.Sound schema)
    (stores : l.Stores schema ref c) (agrees : own.Agrees) (member : own ∈ l.family ref)
    (includes : own.Includes x true) (written : own.rowOf l ref.name x true = .ok row)
    (made : s.create l.collections (.str ref.name) row.toEntries = (outcome, s')) :
    s'.Tracks l ref (os ++ List.replicate ((s'.rows ref.name).length - (s.rows ref.name).length) own) cs := by
  cases outcome with
  | error e =>
    obtain ⟨sequences, rfl⟩ := create_error made
    have same : ({ s with sequences } : Store).rows ref.name = s.rows ref.name := rfl
    rw [same, Nat.sub_self, List.replicate_zero, List.append_nil]
    exact ⟨tracks.provisioned, tracks.working, tracks.committed⟩
  | ok created =>
    obtain ⟨creates, -, sequences, rfl⟩ :=
      sound.creates_of_create member stores tracks.provisioned written made
    have one : (({ s with sequences } : Store).setRows ref.name (s.rows ref.name ++ [created])).rows ref.name =
        s.rows ref.name ++ [created] := by
      rw [rows_setRows, if_pos (beq_self_eq_true _)]
    rw [one, List.length_append, Nat.add_sub_cancel_left]
    have before : ({ s with sequences } : Store).Tracks l ref os cs :=
      ⟨tracks.provisioned, tracks.working, tracks.committed⟩
    exact before.setRows
      (List.rel_append tracks.working (.cons (stores.owned_of_creates agrees member includes creates) .nil))

/-- A row is saved in its place, and stays with the mapping that saves it if that created it. -/
theorem save (tracks : s.Tracks l ref os cs) (sound : l.Sound schema) (stores : l.Stores schema ref c)
    (agrees : own.Agrees) (member : own ∈ l.family ref) (includes : own.Includes x false)
    (written : own.rowOf l ref.name x false = .ok row) (keyed : own.keyOf row = .ok key)
    (made : s.save l.collections (.str ref.name) key.toEntries (Mapping.changes row key).toEntries = .ok s')
    (mine : ∀ i : Nat, (s'.rows ref.name)[i]? ≠ (s.rows ref.name)[i]? → os[i]? = some own) :
    s'.Tracks l ref os cs := by
  obtain ⟨d, before, old, after, new, shaped, rows, -, overlay, rfl⟩ := save_cases made
  cases (shape_of_get? tracks.provisioned).symm.trans shaped
  rw [stores.get_eq] at overlay
  have writes := sound.writes_of_rowOf member stores written
  have each := tracks.working
  rw [rows] at each
  refine tracks.setRows (forall₂_replace each fun o there owned => ?_)
  -- what is written as it was may be of any mapping, only a change tells whose row it is
  by_cases same : new = old
  · rwa [same]
  · have changed := mine before.length (by
      rw [rows_setRows, if_pos (beq_self_eq_true _), rows, getElem?_middle, getElem?_middle]
      exact fun equal => same (Option.some.inj equal))
    cases there.symm.trans changed
    exact owned.saved sound agrees includes writes keyed overlay

end Store.Tracks

namespace Workspace

open Run

/-- The rows under a name in a driver. -/
def table (w : Workspace) (driver : Nat) (name : String) : List Row :=
  (w.drivers[driver]?.bind Driver.store?).elim [] (·.rows name)

theorem table_eq {w : Workspace} {evaluator : Option Nat} {name : String}
    (driven : w.drivers[driver]? = some (.memory s evaluator)) : w.table driver name = s.rows name := by
  rw [table, driven]
  rfl

/-- Workspaces that are reached from an empty table by working through the mappings of its hierarchy, each
    with the mappings that created its rows and the committed ones. All values that are written are of the
    types of their attributes, and a row is written over only by the mapping that created it. -/
inductive Traced (driver schema : Nat) (ref : CollectionRef) :
    Workspace → List Mapping → List Mapping → Prop where
  | start {w : Workspace} {s : Store} {evaluator : Option Nat} {r : Mapping}
      (declared : w.layout.Declared driver schema) (differ : w.layout.SiblingsDiffer ref)
      (agree : ∀ m ∈ w.layout.family ref, m.Agrees) (inhabited : r ∈ w.layout.family ref)
      (driven : w.drivers[driver]? = some (.memory s evaluator))
      (provisioned : s.shapes.get? ref.name = some ref) (working : s.rows ref.name = [])
      (committed : Store.rowsOf s.committed ref.name = []) : Traced driver schema ref w [] []
  | create {w w' : Workspace} {os cs : List Mapping} {m own : Mapping} {id : Nat} {name : String} {x : Entity}
      {outcome : Except Error Unit} (before : Traced driver schema ref w os cs)
      (member : m ∈ w.layout.family ref) (given : w.entities[id]? = some x)
      (mapped : w.layout.mappingFor m x = .ok own) (includes : own.Includes x true)
      (done : (createEntity m (.object (.entity id name))).exec w = (outcome, w')) :
      Traced driver schema ref w' (os ++ List.replicate
        ((w'.table driver ref.name).length - (w.table driver ref.name).length) own) cs
  | save {w w' : Workspace} {os cs : List Mapping} {m own : Mapping} {id : Nat} {name : String} {x : Entity}
      {outcome : Except Error Unit} (before : Traced driver schema ref w os cs)
      (member : m ∈ w.layout.family ref) (given : w.entities[id]? = some x)
      (mapped : w.layout.mappingFor m x = .ok own) (includes : own.Includes x false)
      (done : (saveEntity m (.object (.entity id name))).exec w = (outcome, w'))
      (mine : ∀ i : Nat, (w'.table driver ref.name)[i]? ≠ (w.table driver ref.name)[i]? → os[i]? = some own) :
      Traced driver schema ref w' os cs
  | remove {w w' : Workspace} {os cs : List Mapping} {m : Mapping} {v : Value} {i : Nat}
      {outcome : Except Error Unit} (before : Traced driver schema ref w os cs)
      (member : m ∈ w.layout.family ref) (done : (removeEntity m v).exec w = (outcome, w'))
      (removed : w'.table driver ref.name = (w.table driver ref.name).eraseIdx i) :
      Traced driver schema ref w' (os.eraseIdx i) cs
  | commit {w w' : Workspace} {os cs : List Mapping} (before : Traced driver schema ref w os cs)
      (done : (Run.commit driver).exec w = (.ok (), w')) : Traced driver schema ref w' os os
  | rollback {w w' : Workspace} {os cs : List Mapping} (before : Traced driver schema ref w os cs)
      (done : (Run.rollback driver).exec w = (.ok (), w')) : Traced driver schema ref w' cs cs
  | declare {w w' : Workspace} {os cs : List Mapping} {d : Declaration} {outcome : Except Error Handle}
      (before : Traced driver schema ref w os cs) (kind : d.kind = .hierarchy)
      (done : (Run.declare d).exec w = (outcome, w')) (declared : w'.layout.Declared driver schema)
      (differ : w'.layout.SiblingsDiffer ref) (agree : ∀ m ∈ w'.layout.family ref, m.Agrees) :
      Traced driver schema ref w' os cs
  | other {w w' : Workspace} {os cs : List Mapping} (before : Traced driver schema ref w os cs)
      (layout : w'.layout = w.layout) (same : SameTable w w' driver ref.name) :
      Traced driver schema ref w' os cs

/-- What the workspaces on the way have in common. -/
structure Traces (w : Workspace) (driver schema : Nat) (ref : CollectionRef) (os cs : List Mapping) : Prop where
  declared : w.layout.Declared driver schema
  differ : w.layout.SiblingsDiffer ref
  agree : ∀ m ∈ w.layout.family ref, m.Agrees
  inhabited : ∃ r, r ∈ w.layout.family ref
  tracks : ∃ s evaluator, w.drivers[driver]? = some (.memory s evaluator) ∧ s.Tracks w.layout ref os cs

namespace Traces

variable {w w' : Workspace} {evaluator : Option Nat} {os' cs' : List Mapping}

theorem stores (traces : w.Traces driver schema ref os cs) : ∃ c, w.layout.Stores schema ref c := by
  rcases traces.inhabited with ⟨r, member⟩
  exact traces.declared.sound.exists_stores member

theorem set (traces : w.Traces driver schema ref os cs)
    (driven : w'.drivers[driver]? = some (.memory s' evaluator)) (tracks : s'.Tracks w.layout ref os' cs')
    (layout : w'.layout = w.layout) : w'.Traces driver schema ref os' cs' where
  declared := layout ▸ traces.declared
  differ := layout ▸ traces.differ
  agree := layout ▸ traces.agree
  inhabited := layout ▸ traces.inhabited
  tracks := ⟨s', evaluator, driven, layout ▸ tracks⟩

theorem create {id : Nat} {name : String} {outcome : Except Error Unit}
    (traces : w.Traces driver schema ref os cs) (member : m ∈ w.layout.family ref)
    (given : w.entities[id]? = some x) (mapped : w.layout.mappingFor m x = .ok own)
    (includes : own.Includes x true)
    (done : (createEntity m (.object (.entity id name))).exec w = (outcome, w')) :
    w'.Traces driver schema ref (os ++ List.replicate
      ((w'.table driver ref.name).length - (w.table driver ref.name).length) own) cs := by
  obtain ⟨s, evaluator, driven, tracks⟩ := traces.tracks
  obtain ⟨c, stores⟩ := traces.stores
  rcases create_cases traces.declared member driven given done with
    rfl | ⟨own', row, answer, s', mapped', inside, written, created, layout, drivers⟩
  · rwa [Nat.sub_self, List.replicate_zero, List.append_nil]
  · cases mapped.symm.trans mapped'
    have driven' := driven_of_set driven drivers
    rw [table_eq driven, table_eq driven']
    have next :=
      tracks.create traces.declared.sound stores (traces.agree own inside) inside includes written created
    exact traces.set driven' next layout

theorem save {id : Nat} {name : String} {outcome : Except Error Unit}
    (traces : w.Traces driver schema ref os cs) (member : m ∈ w.layout.family ref)
    (given : w.entities[id]? = some x) (mapped : w.layout.mappingFor m x = .ok own)
    (includes : own.Includes x false)
    (done : (saveEntity m (.object (.entity id name))).exec w = (outcome, w'))
    (mine : ∀ i : Nat, (w'.table driver ref.name)[i]? ≠ (w.table driver ref.name)[i]? → os[i]? = some own) :
    w'.Traces driver schema ref os cs := by
  obtain ⟨s, evaluator, driven, tracks⟩ := traces.tracks
  obtain ⟨c, stores⟩ := traces.stores
  rcases save_cases traces.declared member driven given done with
    ⟨rfl, -⟩ | ⟨own', row, key, s', mapped', inside, written, keyed, saved, rfl⟩
  · exact traces
  · cases mapped.symm.trans mapped'
    have driven' : ({ w with drivers := w.drivers.set driver (.memory s' evaluator) } : Workspace).drivers[driver]? =
        some (.memory s' evaluator) := driven_of_set driven rfl
    rw [table_eq driven, table_eq driven'] at mine
    have next :=
      tracks.save traces.declared.sound stores (traces.agree own inside) inside includes written keyed saved mine
    exact traces.set driven' next rfl

theorem remove {v : Value} {i : Nat} {outcome : Except Error Unit} (traces : w.Traces driver schema ref os cs)
    (member : m ∈ w.layout.family ref) (done : (removeEntity m v).exec w = (outcome, w'))
    (removed : w'.table driver ref.name = (w.table driver ref.name).eraseIdx i) :
    w'.Traces driver schema ref (os.eraseIdx i) cs := by
  obtain ⟨s, evaluator, driven, tracks⟩ := traces.tracks
  have rest := forall₂_eraseIdx tracks.working i
  rcases remove_cases traces.declared member driven done with
    ⟨rfl, -⟩ | ⟨id, x, own, row, key, s', -, -, -, -, -, made, rfl⟩
  · -- nothing was removed, so the position is past the end or the list is not changed by it
    rw [table_eq driven] at removed
    rw [← removed] at rest
    exact traces.set driven ⟨tracks.provisioned, rest, tracks.committed⟩ rfl
  · have driven' : ({ w with drivers := w.drivers.set driver (.memory s' evaluator) } : Workspace).drivers[driver]? =
        some (.memory s' evaluator) := driven_of_set driven rfl
    rw [table_eq driven, table_eq driven'] at removed
    obtain ⟨before, old, after, -, same⟩ := Store.remove_cases made
    rw [← removed, same, Store.rows_setRows, if_pos (beq_self_eq_true _)] at rest
    exact traces.set driven' (same ▸ tracks.setRows rest) rfl

theorem update {g : Catalog → Driver → Except Error Driver} (traces : w.Traces driver schema ref os cs)
    (keeps : ∀ s evaluator, s.Tracks w.layout ref os cs →
      ∃ s', g w.layout.collections (.memory s evaluator) = .ok (.memory s' evaluator) ∧
        s'.Tracks w.layout ref os' cs')
    (done : (Run.update driver g).exec w = (.ok (), w')) : w'.Traces driver schema ref os' cs' := by
  obtain ⟨s, evaluator, driven, tracks⟩ := traces.tracks
  obtain ⟨s', made, next⟩ := keeps s evaluator tracks
  rw [Run.update, exec_bind_ok (exec_get w), exec_bind_ok (exec_driver driven), made,
    exec_bind_ok (exec_ofExcept _ w)] at done
  cases done
  exact traces.set (driven_of_set driven rfl) next rfl

theorem declare {d : Declaration} {outcome : Except Error Handle} (traces : w.Traces driver schema ref os cs)
    (kind : d.kind = .hierarchy) (done : (Run.declare d).exec w = (outcome, w'))
    (declared : w'.layout.Declared driver schema) (differ : w'.layout.SiblingsDiffer ref)
    (agree : ∀ m ∈ w'.layout.family ref, m.Agrees) : w'.Traces driver schema ref os cs := by
  rcases declare_cases kind traces.declared.sound.contained done with
    ⟨rfl, -⟩ | ⟨l, n, journal, made, -, rfl⟩
  · exact traces
  · obtain ⟨parent, ref', old, new, step⟩ := Layout.step_of_declare kind made
    have mappings := Layout.mappings_of_attach step.attached
    obtain ⟨s, evaluator, driven, tracks⟩ := traces.tracks
    obtain ⟨r, member⟩ := traces.inhabited
    have each : ∀ own row, w.layout.Owned ref own row → l.Owned ref own row :=
      fun _ _ owned => owned.append mappings
    exact ⟨declared, differ, agree, ⟨r, Layout.mem_family_of_append mappings member⟩, s, evaluator, driven,
      tracks.provisioned, tracks.working.imp each, tracks.committed.imp each⟩

theorem other (traces : w.Traces driver schema ref os cs) (layout : w'.layout = w.layout)
    (same : SameTable w w' driver ref.name) : w'.Traces driver schema ref os cs := by
  obtain ⟨s, evaluator, driven, tracks⟩ := traces.tracks
  obtain ⟨s', evaluator', driven', shapes, working, committed⟩ := same s evaluator driven
  exact traces.set driven' ⟨shapes ▸ tracks.provisioned, working ▸ tracks.working, committed ▸ tracks.committed⟩
    layout

end Traces

/-- Whatever was done, each row belongs to the mapping that created it. -/
theorem Traced.traces {w : Workspace} (traced : Traced driver schema ref w os cs) :
    w.Traces driver schema ref os cs := by
  induction traced with
  | start declared differ agree inhabited driven provisioned working committed =>
    refine ⟨declared, differ, agree, ⟨_, inhabited⟩, _, _, driven, provisioned, ?_, ?_⟩
    · rw [working]
      exact .nil
    · rw [committed]
      exact .nil
  | create _ member given mapped includes done traces => exact traces.create member given mapped includes done
  | save _ member given mapped includes done mine traces =>
    exact traces.save member given mapped includes done mine
  | remove _ member done removed traces => exact traces.remove member done removed
  | commit _ done traces => exact traces.update (fun _ _ tracks => ⟨_, rfl, tracks.commit⟩) done
  | rollback _ done traces => exact traces.update (fun _ _ tracks => ⟨_, rfl, tracks.rollback⟩) done
  | declare _ kind done declared differ agree traces => exact traces.declare kind done declared differ agree
  | other _ layout same traces => exact traces.other layout same

end Workspace

/-! What the mappings find. -/

namespace Layout

/-- A mapping covers the rows that it or one below it created, and restores them as the instances that all
    other mappings above restore them as. -/
theorem Sound.exists_instances (sound : l.Sound schema) (differ : l.SiblingsDiffer ref)
    (agree : ∀ m ∈ l.family ref, m.Agrees) (stores : l.Stores schema ref c)
    (each : List.Forall₂ (l.Owned ref) os rows) :
    ∃ xs, List.Forall₂ (fun o (x : Entity) => x.model = o.model) os xs ∧
      ∀ t ∈ l.family ref,
        Run.Restored l t ref ((rows.filter t.covers).map (·.document ref.name)) (t.instances os xs) := by
  induction each with
  | nil => exact ⟨[], .nil, fun t _ => .nil⟩
  | @cons own row os rows owned _ ih =>
    obtain ⟨xs, classes, restored⟩ := ih
    obtain ⟨y, class_, same⟩ := owned.exists_restored sound differ agree stores
    refine ⟨y :: xs, .cons class_ classes, fun t target => ?_⟩
    have known := (mem_family.mp target).1
    have covers := owned.covers_iff sound differ stores target
    have descends := sound.descends_iff known (mem_family.mp owned.member).1
    -- the store selects by columns, the specification by creators
    have alike : t.covers row = own.descends t := Bool.eq_iff_iff.mpr (covers.trans descends.symm)
    rw [Mapping.instances_cons, List.filter_cons, alike]
    split
    · rename_i below
      exact .cons ⟨rfl, same t target (descends.mp below)⟩ (restored t target)
    · exact restored t target

end Layout

namespace Zoo

def lion : Model where
  name := "Lion"
  lineage := ["Lion", "Animal"]
  validated := true
  attributes := animal.attributes
  frozen := false

/-- The kind differs from that of the cats by nothing but case. -/
def lions : Declaration where
  kind := .hierarchy
  model := lion.toValue
  driver := .object (.driver .memory 0)
  schema := .object (.schema 0)
  parent := .object (.mapping .hierarchy 0 "Animal")
  values := .dict [(.str "kind", .str "CAT")]

def den : Layout :=
  let drivers := [Driver.ofEvaluator none]
  let ms := [animal, cat, lion]
  ((({ schemas := [{}] } : Layout).after ms drivers animals).after ms drivers cats).after ms drivers lions

theorem den_declared : den.Declared 0 0 :=
  .after (.after (.after (.start rfl rfl) rfl (by decide +kernel)) rfl (by decide +kernel)) rfl (by decide +kernel)

theorem den_differ : den.SiblingsDiffer collection :=
  Layout.siblingsDiffer_of_nodup (by decide +kernel)

theorem den_fits : ∀ m ∈ den.family collection, m.Fits := by decide +kernel

theorem length_den : (den.family collection).length = 3 := by decide +kernel

/-- The mapping of the animals, the one of the cats, and the one of the lions. -/
def denMapping (i : Fin 3) : Mapping := (den.family collection).get (i.cast length_den.symm)

theorem denMapping_mem (i : Fin 3) : denMapping i ∈ den.family collection := List.get_mem ..

/-- A new den beside a cat and a lion, where texts are compared without regard to case. -/
def shared : Workspace where
  layout := den
  models := [animal, cat, lion]
  drivers := [.memory (({ label := "InMemoryDriver" } : Store).ensureCollection collection) (some 0)]
  evaluators := [Evaluator.default.register .eq Comparator.equalIgnoringCase]
  entities := [whiskers 1 "Tom", ⟨lion, [("id", .int 2), ("name", .str "Leo")]⟩]

end Zoo

namespace Run

open Workspace

variable {w : Workspace}

theorem exists_listed (traces : w.Traces driver schema ref os cs)
    (equates : ∀ d, w.drivers[driver]? = some d → (w.evaluatorOf d).Equates) :
    ∃ xs, List.Forall₂ (fun o (x : Entity) => x.model = o.model) os xs ∧ ∀ t ∈ w.layout.family ref,
      entitiesOf ((listEntities t .none).exec w) = some (t.instances os xs) := by
  have sound := traces.declared.sound
  obtain ⟨s, evaluator, driven, tracks⟩ := traces.tracks
  obtain ⟨c, stores⟩ := traces.stores
  obtain ⟨xs, classes, restored⟩ :=
    sound.exists_instances traces.differ traces.agree stores tracks.working
  refine ⟨xs, classes, fun t target => ?_⟩
  rcases Layout.mem_family.mp target with ⟨known, stored⟩
  -- nothing is asked of the rows beyond the values that the mapping fixes
  obtain ⟨q, parsed, selected⟩ := Mapping.find_all (l := w.layout) evaluator (sound.each t known) (equates _ driven)
    tracks.provisioned
  exact exec_listEntities (sound.isHierarchy known) stored (sound.getElem?_id known) parsed
    (traces.declared.driver_eq t known ▸ driven) selected (restored t target)

/-- A step of a trace whose hypotheses can be computed. -/
theorem traced_create {w' : Workspace} {id : Nat} {name : String} {outcome : Except Error Unit}
    (traced : w.Traced driver schema ref os cs)
    (member : m ∈ w.layout.family ref) (inside : own ∈ w.layout.family ref)
    (checked : (w.entities[id]?.any fun x => match w.layout.mappingFor m x with
      | .ok p => p.id == own.id && decide (own.Includes x true)
      | .error _ => false) = true)
    (done : (createEntity m (.object (.entity id name))).exec w = (outcome, w'))
    (grown : (w'.table driver ref.name).length - (w.table driver ref.name).length = 1) :
    w'.layout = w.layout ∧ w'.Traced driver schema ref (os ++ [own]) cs := by
  have traces := traced.traces
  have sound := traces.declared.sound
  obtain ⟨s, evaluator, driven, -⟩ := traces.tracks
  rcases (Option.any_eq_true ..).mp checked with ⟨x, given, checked⟩
  split at checked
  · rename_i p mapped
    obtain ⟨same, includes⟩ := Bool.and_eq_true_iff.mp checked
    have below := sound.family_below member (sound.mappingFor_cases mapped)
    cases sound.eq_of_id (Layout.mem_family.mp below).1 (Layout.mem_family.mp inside).1 (beq_iff_eq.mp same)
    have next := Traced.create traced member given mapped (of_decide_eq_true includes) done
    rw [grown] at next
    refine ⟨?_, next⟩
    rcases create_cases traces.declared member driven given done with rfl | ⟨_, _, _, _, -, -, -, -, layout, -⟩
    · rfl
    · exact layout
  · cases checked

/-- What a mapping finds are the instances among all whose rows it or a mapping below it created, in the order
    of all: it misses none that a mapping below it finds, and no two that extend it directly share one. -/
theorem list_by_class {r : Mapping} (traced : w.Traced driver schema ref os cs)
    (equates : ∀ d, w.drivers[driver]? = some d → (w.evaluatorOf d).Equates)
    (top : r ∈ w.layout.family ref) (root : r.ancestors = []) (member : m ∈ w.layout.family ref) :
    ∃ xs, entitiesOf ((listEntities r .none).exec w) = some xs ∧
      List.Forall₂ (fun o (x : Entity) => x.model = o.model) os xs ∧
      entitiesOf ((listEntities m .none).exec w) = some (m.instances os xs) ∧
      (∀ t, Layout.Below w.layout m t → (t.instances os xs).Sublist (m.instances os xs)) ∧
      (w.layout.children m).Pairwise fun a b => ∀ o ∈ os, ¬(o.descends a = true ∧ o.descends b = true) := by
  have traces := traced.traces
  have sound := traces.declared.sound
  have known := (Layout.mem_family.mp member).1
  obtain ⟨s, evaluator, -, tracks⟩ := traces.tracks
  have creators := Layout.mem_family_of_owned tracks.working
  have descends : ∀ t ∈ w.layout.mappings, ∀ o ∈ os, o.descends t = true ↔ Layout.Below w.layout t o :=
    fun t inside o creator => sound.descends_iff inside (Layout.mem_family.mp (creators o creator)).1
  obtain ⟨xs, classes, listed⟩ := exists_listed traces equates
  -- there is only one root, so all creators are below it
  have all : r.instances os xs = xs := by
    refine Mapping.instances_eq_self classes.length_eq.ge fun o creator => ?_
    rcases sound.exists_top (creators o creator) with ⟨r', rooted, first, below⟩
    cases sound.top_unique top rooted root first
    exact (descends r (Layout.mem_family.mp top).1 o creator).mpr below
  refine ⟨xs, all ▸ listed r top, classes, listed m member, fun t below => ?_, ?_⟩
  · refine Mapping.instances_sublist xs fun o creator down => ?_
    exact (descends m known o creator).mpr (below.trans ((descends t (below.mem known) o creator).mp down))
  · refine List.Pairwise.imp_of_mem ?_ (sound.apart_children known)
    rintro a b first second apart o creator ⟨down, down'⟩
    exact apart o ((descends a (Layout.mem_of_mem_children first) o creator).mp down)
      ((descends b (Layout.mem_of_mem_children second) o creator).mp down')

/-- A cat, a dog and a puppy: two of them are found among the dogs. -/
theorem list_by_class_dogs : ∃ w os cs xs, w.Traced 0 0 Zoo.collection os cs ∧
    entitiesOf ((listEntities (Zoo.top false true) .none).exec w) = some xs ∧ xs.length = 3 ∧
    entitiesOf ((listEntities (Zoo.middle false true) .none).exec w) =
      some ((Zoo.middle false true).instances os xs) ∧
    ((Zoo.middle false true).instances os xs).length = 2 := by
  let top := Zoo.top false true
  let own (i : Fin 4) := ((Zoo.layout false true).family Zoo.collection).get (i.cast (by decide +kernel))
  let w₀ := Zoo.opened false true none
    [Zoo.whiskers 1 "Tom", Zoo.rex Zoo.dog 2 .none, Zoo.rex (Zoo.puppy true) 3 (.int 7)]
  let w₁ := ((createEntity top (.object (.entity 0 "Cat"))).exec w₀).2
  let w₂ := ((createEntity top (.object (.entity 1 "Dog"))).exec w₁).2
  let w₃ := ((createEntity top (.object (.entity 2 "Puppy"))).exec w₂).2
  have member : top ∈ w₀.layout.family Zoo.collection := Zoo.top_mem false true
  have inside : ∀ i, own i ∈ w₀.layout.family Zoo.collection := fun i => List.get_mem ..
  have agree : ∀ m ∈ w₀.layout.family Zoo.collection, m.Agrees := fun m own => (Zoo.fits false true m own).agrees
  have traced₀ : w₀.Traced 0 0 Zoo.collection [] [] :=
    .start (Zoo.declared false true) (Zoo.differ false true) agree member rfl rfl rfl rfl
  obtain ⟨layout₁, traced₁⟩ := traced_create traced₀ member (inside 1) (by decide +kernel)
    (rfl : _ = (_, w₁)) (by decide +kernel)
  rw [← layout₁] at member inside
  obtain ⟨layout₂, traced₂⟩ := traced_create traced₁ member (inside 2) (by decide +kernel)
    (rfl : _ = (_, w₂)) (by decide +kernel)
  rw [← layout₂] at member inside
  obtain ⟨layout₃, traced₃⟩ := traced_create traced₂ member (inside 3) (by decide +kernel)
    (rfl : _ = (_, w₃)) (by decide +kernel)
  rw [← layout₃] at member inside
  have middle : Zoo.middle false true ∈ w₃.layout.family Zoo.collection := inside 2
  have equates : ∀ d, w₃.drivers[0]? = some d → (w₃.evaluatorOf d).Equates := fun d driven =>
    (standard_of_default (by decide +kernel) d driven).equates
  have root : top.ancestors = [] := by decide +kernel
  obtain ⟨xs, all, -, some_, -⟩ := list_by_class traced₃ equates member root middle
  have three : (entitiesOf ((listEntities top .none).exec w₃)).map (·.length) = some 3 := by decide +kernel
  have two : (entitiesOf ((listEntities (Zoo.middle false true) .none).exec w₃)).map (·.length) = some 2 := by
    decide +kernel
  rw [all] at three
  rw [some_] at two
  exact ⟨w₃, [own 1, own 2, own 3], [], xs, traced₃, all, Option.some.inj three, some_, Option.some.inj two⟩

/-- What compares texts without regard to case finds the lions among the cats. -/
theorem not_list_by_class : ∃ w os cs xs, w.Traced 0 0 Zoo.collection os cs ∧
    Zoo.denMapping 0 ∈ w.layout.family Zoo.collection ∧ (Zoo.denMapping 0).ancestors = [] ∧
    Zoo.denMapping 1 ∈ w.layout.family Zoo.collection ∧
    entitiesOf ((listEntities (Zoo.denMapping 0) .none).exec w) = some xs ∧
    entitiesOf ((listEntities (Zoo.denMapping 1) .none).exec w) ≠ some ((Zoo.denMapping 1).instances os xs) := by
  let top := Zoo.denMapping 0
  let w₁ := ((createEntity top (.object (.entity 0 "Cat"))).exec Zoo.shared).2
  let w₂ := ((createEntity top (.object (.entity 1 "Lion"))).exec w₁).2
  have inside : ∀ i, Zoo.denMapping i ∈ Zoo.shared.layout.family Zoo.collection := Zoo.denMapping_mem
  have traced₀ : Zoo.shared.Traced 0 0 Zoo.collection [] [] :=
    .start Zoo.den_declared Zoo.den_differ (fun m own => (Zoo.den_fits m own).agrees) (inside 0) rfl rfl rfl rfl
  obtain ⟨layout₁, traced₁⟩ := traced_create traced₀ (inside 0) (inside 1) (by decide +kernel)
    (rfl : _ = (_, w₁)) (by decide +kernel)
  rw [← layout₁] at inside
  obtain ⟨layout₂, traced₂⟩ := traced_create traced₁ (inside 0) (inside 2) (by decide +kernel)
    (rfl : _ = (_, w₂)) (by decide +kernel)
  rw [← layout₂] at inside
  have one : (entitiesOf ((listEntities top .none).exec w₂)).map
      (fun xs => ((Zoo.denMapping 1).instances [Zoo.denMapping 1, Zoo.denMapping 2] xs).length) = some 1 := by
    decide +kernel
  have two : (entitiesOf ((listEntities (Zoo.denMapping 1) .none).exec w₂)).map (·.length) = some 2 := by
    decide +kernel
  obtain ⟨xs, listed, single⟩ := Option.map_eq_some_iff.mp one
  refine ⟨w₂, _, [], xs, traced₂, inside 0, by decide +kernel, inside 1, listed, fun same => ?_⟩
  rw [same] at two
  cases single.symm.trans (Option.some.inj two)

end Run

end ModelStore
