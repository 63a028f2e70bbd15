import ModelStore.Proofs.Mapping.Reproducing
import ModelStore.Proofs.Store.Numbering
import ModelStore.Proofs.Workspace.Origins
import ModelStore.Proofs.Workspace.RoundTrip

/-!
The columns of rows, and the sequences that go on for them. A created row has the columns of its class, but also
those of the sequences that other classes of the hierarchy declare, which go on with it.
-/

namespace ModelStore

open Store (rowsOf)

variable {l : Layout} {driver schema : Nat} {ref : CollectionRef} {c : Collection} {s s' : Store}
  {m own : Mapping} {x : Entity} {given row key old new : Row} {rows : List Row} {k : String}

namespace Store

variable {fs : List CollectionField}

theorem Generated.exists_get? {f : CollectionField} (generated : Generated fs given row) (field : f ∈ fs)
    (sequence : f.sequence.isPresent = true) : ∃ v, row.get? f.name = some v := by
  by_cases missing : (given.column f.name).isNone = true
  · obtain ⟨n, number⟩ := generated.fresh f field sequence missing
    exact ⟨_, number⟩
  · rw [generated.kept f.name (by simpa using missing)]
    cases found : given.get? f.name with
    | none => exact absurd (Row.isNone_column_of_get?_eq_none found) missing
    | some v => exact ⟨v, rfl⟩

end Store

/-- The columns of the chain of a mapping, and the discriminators of its ancestors. -/
def Mapping.Spans (m : Mapping) (k : String) : Prop :=
  (∃ f ∈ m.allFields, f.name = k) ∨ ∃ a ∈ m.ancestors, a.discriminator = some k

/-- Whether an instance of a mapping has no value for a column, or the column is none of the mapping. -/
def Mapping.lacks (m : Mapping) (x : Entity) (f : MappingField) : Bool :=
  m.allFields.all fun g => g.name != f.name || (x.get g.ref).isNone

namespace Layout

/-- Whether a column is generated for each row of a collection. -/
def Numbers (l : Layout) (ref : CollectionRef) (k : String) : Prop :=
  ∃ f ∈ l.columns ref, f.name = k ∧ f.sequence.isPresent = true

/-- How many numbers of a sequence the row of an instance draws. -/
def draws (l : Layout) (ref : CollectionRef) (m : Mapping) (x : Entity) (sequence : String) : Nat :=
  (l.columns ref).countP fun f =>
    Store.sequenceOf ref.name f.toCollectionField == some sequence && m.lacks x f

theorem Sound.spans_value (sound : l.Sound schema) (known : m ∈ l.mappings) (value : k ∈ m.values.keys) :
    m.Spans k := .inr (((sound.each m known).valued k).mp value)

theorem Sound.writes_spans (sound : l.Sound schema) (known : m ∈ l.mappings) (writes : m.Writes x false row) :
    (row.get? k).isSome = true ↔ m.Spans k := by
  constructor
  · intro some
    by_contra outside
    rw [writes.other k (fun f mapped name => outside (.inl ⟨f, mapped, name⟩))
      fun value => outside (sound.spans_value known value)] at some
    cases some
  · rintro (⟨f, mapped, rfl⟩ | above)
    · obtain ⟨raw, -, found⟩ := writes.field f mapped rfl
      rw [found, Option.isSome_some]
    · obtain ⟨v, given⟩ := Assoc.exists_of_mem_keys (((sound.each m known).valued k).mpr above)
      rw [writes.value k v given, Option.isSome_some]

/-- A created row has the columns of its class, and all that are generated. -/
theorem Sound.creates_spans (sound : l.Sound schema) (known : m ∈ l.mappings) (stores : l.Stores schema ref c)
    (creates : m.Creates c x row) (generated : Store.Generated c.fields given row) :
    (row.get? k).isSome = true ↔ m.Spans k ∨ l.Numbers ref k := by
  constructor
  · intro some
    obtain ⟨v, found⟩ := Option.isSome_iff_exists.mp some
    by_cases spans : m.Spans k
    · exact .inl spans
    · obtain ⟨d, inside, rfl, sequence, -⟩ := creates.other k v found
        (fun f mapped name => spans (.inl ⟨f, mapped, name⟩)) fun value => spans (sound.spans_value known value)
      rw [stores.fields] at inside
      obtain ⟨f, column, rfl⟩ := List.mem_map.mp inside
      exact .inr ⟨f, column, rfl, sequence⟩
  · rintro ((⟨f, mapped, rfl⟩ | above) | ⟨f, column, rfl, sequence⟩)
    · obtain ⟨v, found⟩ := creates.exists_get? mapped
      rw [found, Option.isSome_some]
    · obtain ⟨v, value⟩ := Assoc.exists_of_mem_keys (((sound.each m known).valued k).mpr above)
      rw [creates.value k v value, Option.isSome_some]
    · have inside : f.toCollectionField ∈ c.fields := stores.fields ▸ List.mem_map_of_mem column
      obtain ⟨v, found⟩ := generated.exists_get? inside sequence
      rw [show row.get? f.name = some v from found, Option.isSome_some]

/-- A field of a sequence has no value to be stored just if the instance lacks it. -/
theorem Sound.isNone_written {f : MappingField} (sound : l.Sound schema) (member : m ∈ l.family ref)
    (stores : l.Stores schema ref c) (writes : m.Writes x true row) (column : f ∈ l.columns ref)
    (sequence : f.sequence.isPresent = true) : (row.column f.name).isNone = m.lacks x f := by
  by_cases mapped : f ∈ m.allFields
  · have lacks : m.lacks x f = (x.get f.ref).isNone := by
      rw [Mapping.lacks, Bool.eq_iff_iff, List.all_eq_true]
      constructor
      · intro all
        simpa using all f mapped
      · intro missing g mapped'
        by_cases same : g.name = f.name
        · have column' := sound.field_mem_columns member mapped'
          rw [stores.eq_of_name column' column same, missing, Bool.or_true]
        · simp [same]
    rw [lacks]
    cases left : f.unset x with
    | true =>
      rw [Row.isNone_column_of_get?_eq_none (writes.unset f mapped (by rw [left, Bool.and_true])),
        (Bool.and_eq_true_iff.mp left).2]
    | false =>
      obtain ⟨raw, stored, found⟩ := writes.field f mapped (by rw [left, Bool.and_false])
      rw [Row.column_of_get? found, Converter.isNone_of_toRaw stored]
  · -- neither a field nor a discriminator of the mapping has this name
    have fields : ∀ g ∈ m.allFields, g.name ≠ f.name := fun g mapped' same =>
      mapped (stores.eq_of_name (sound.field_mem_columns member mapped') column same ▸ mapped')
    have values : f.name ∉ m.values.keys := fun value => by
      obtain ⟨g, column', name, -, absent⟩ := sound.exists_value_column member value
      rw [← stores.eq_of_name column' column name, absent] at sequence
      cases sequence
    have lacks : m.lacks x f = true := List.all_eq_true.mpr fun g mapped' => by simp [fields g mapped']
    rw [Row.isNone_column_of_get?_eq_none (writes.other f.name fields values), lacks]

/-- What creating an instance makes of the store: nothing; or the sequences go on, and a row is added or refused. -/
theorem Sound.create_spans {outcome : Except Error Row} (sound : l.Sound schema) (member : own ∈ l.family ref)
    (stores : l.Stores schema ref c) (provisioned : s.shapes.get? ref.name = some ref)
    (written : own.rowOf l ref.name x true = .ok row)
    (made : s.create l.collections (.str ref.name) row.toEntries = (outcome, s')) :
    s' = s ∨ (∀ sequence, s'.counter sequence = s.counter sequence + l.draws ref own x sequence) ∧
      (s'.rows ref.name = s.rows ref.name ∨ ∃ row, s'.rows ref.name = s.rows ref.name ++ [row] ∧
        ∀ k, (row.get? k).isSome = true ↔ own.Spans k ∨ l.Numbers ref k) := by
  rcases Store.create_draws made with ⟨rfl, -⟩ | ⟨_, given, drawn, shaped, overlay, -, drew, -, kept⟩
  · exact .inl rfl
  cases (Store.shape_of_get? provisioned).symm.trans shaped
  rw [stores.get_eq] at overlay drew
  have writes := sound.writes_of_rowOf member stores written
  have generated := Store.generate_cases ref.name c.fields given s.sequences
  rw [show Store.generate ref.name c.fields given s.sequences = (drawn, s'.sequences) from drew] at generated
  have creates := sound.creates_of_generated member stores writes overlay generated
  have rows : s'.rows ref.name = s.rows ref.name ∨ s'.rows ref.name = s.rows ref.name ++ [drawn] :=
    kept.elim (fun added => .inr added.2) fun refused => .inl refused.2
  refine .inr ⟨fun sequence => ?_, rows.imp id fun rows => ⟨_, rows, fun k => ?_⟩⟩
  · have same : ∀ k, Row.column given k = row.column k := fun k => by
      rw [Row.column, Row.column, Store.get?_overlaid overlay writes.distinct, Assoc.get?_nil, Option.or_none]
    have counted := Store.generate_counter ref.name sequence stores.distinct given s.sequences
    rw [show Store.generate ref.name c.fields given s.sequences = (drawn, s'.sequences) from drew, stores.fields,
      List.countP_map] at counted
    refine counted.trans ?_
    rw [draws]
    refine congrArg (_ + ·) (List.countP_congr fun f column => ?_)
    cases present : f.sequence.isPresent with
    | false =>
      have none : Store.sequenceOf ref.name f.toCollectionField = none := by
        rw [← Option.not_isSome_iff_eq_none, Store.sequenceOf_isSome, Bool.not_eq_true]
        exact present
      rw [Function.comp_apply, Store.draws, none]
      rfl
    | true =>
      rw [Function.comp_apply, Store.draws, show f.toCollectionField.name = f.name from rfl, same,
        sound.isNone_written member stores writes column present]
  · exact sound.creates_spans (mem_family.mp member).1 stores creates generated

end Layout

/-! The rows of a store and the mappings that wrote them. -/

/-- The mapping that created a row, and those that have saved another one over it. -/
structure Authors where
  creator : Mapping
  savers : List Mapping := []

def Authors.add (o : Authors) (m : Mapping) : Authors := { o with savers := o.savers ++ [m] }

/-- Whether a row has the columns of its creator, of the sequences, and of what was saved over it; and no others. -/
structure Layout.Authored (l : Layout) (ref : CollectionRef) (o : Authors) (row : Row) : Prop where
  member : o.creator ∈ l.family ref
  column : ∀ k, (row.get? k).isSome = true ↔
    o.creator.Spans k ∨ l.Numbers ref k ∨ ∃ m ∈ o.savers, m.Spans k ∧ k ∉ m.keyNames

variable {os os' cs : List Authors}

theorem forall₂_modify {α β : Type} {R : α → β → Prop} {as : List α} {f : α → α} {before after : List β} {old new : β}
    (each : List.Forall₂ R as (before ++ old :: after)) (next : ∀ a, R a old → R (f a) new) :
    List.Forall₂ R (as.modify before.length f) (before ++ new :: after) := by
  induction before generalizing as with
  | nil =>
    cases each with
    | cons first rest => exact .cons (next _ first) rest
  | cons b before ih =>
    cases each with
    | cons first rest => exact .cons first (ih rest)

theorem Layout.Authored.saved {o : Authors} (authored : l.Authored ref o old) (sound : l.Sound schema)
    (known : own ∈ l.mappings) (writes : own.Writes x false row)
    (column : ∀ k, new.get? k = (if k ∈ own.keyNames then none else row.get? k).or (old.get? k)) :
    l.Authored ref (o.add own) new where
  member := authored.member
  column := by
    intro k
    rw [column, Option.isSome_or, Bool.or_eq_true, authored.column k, Authors.add]
    simp only [List.mem_append, List.mem_singleton, or_and_right, exists_or, exists_eq_left]
    by_cases key : k ∈ own.keyNames
    · simp [key]
    · rw [if_neg key, sound.writes_spans known writes]
      simp only [key, not_false_eq_true, and_true]
      rw [or_comm, or_assoc, or_assoc]

/-- A store that knows a collection, each row of which has the columns that its authors wrote. -/
structure Store.Authored (s : Store) (l : Layout) (ref : CollectionRef) (os cs : List Authors) : Prop where
  provisioned : s.shapes.get? ref.name = some ref
  working : List.Forall₂ (l.Authored ref) os (s.rows ref.name)
  committed : List.Forall₂ (l.Authored ref) cs (rowsOf s.committed ref.name)

namespace Store.Authored

theorem setRows (authored : s.Authored l ref os cs) (each : List.Forall₂ (l.Authored ref) os' rows) :
    (s.setRows ref.name rows).Authored l ref os' cs where
  provisioned := authored.provisioned
  working := by
    rw [rows_setRows, if_pos (beq_self_eq_true _)]
    exact each
  committed := authored.committed

theorem commit (authored : s.Authored l ref os cs) : s.commit.Authored l ref os os :=
  ⟨authored.provisioned, authored.working, authored.working⟩

theorem rollback (authored : s.Authored l ref os cs) : s.rollback.Authored l ref cs cs :=
  ⟨authored.provisioned, authored.committed, authored.committed⟩

theorem create {outcome : Except Error Row} (authored : s.Authored l ref os cs) (sound : l.Sound schema)
    (stores : l.Stores schema ref c) (member : own ∈ l.family ref) (written : own.rowOf l ref.name x true = .ok row)
    (made : s.create l.collections (.str ref.name) row.toEntries = (outcome, s')) :
    s'.Authored l ref (os ++ List.replicate ((s'.rows ref.name).length - (s.rows ref.name).length) ⟨own, []⟩) cs := by
  have rest : s'.shapes = s.shapes ∧ s'.committed = s.committed := by
    cases outcome with
    | error e =>
      obtain ⟨sequences, rfl⟩ := create_error made
      exact ⟨rfl, rfl⟩
    | ok row =>
      obtain ⟨-, -, sequences, -, -, -, -, rfl⟩ := create_parts made
      exact ⟨rfl, rfl⟩
  refine ⟨rest.1 ▸ authored.provisioned, ?_, rest.2 ▸ authored.committed⟩
  have unchanged : s'.rows ref.name = s.rows ref.name →
      List.Forall₂ (l.Authored ref)
        (os ++ List.replicate ((s'.rows ref.name).length - (s.rows ref.name).length) ⟨own, []⟩) (s'.rows ref.name) := by
    intro same
    rw [same, Nat.sub_self, List.replicate_zero, List.append_nil]
    exact authored.working
  rcases sound.create_spans member stores authored.provisioned written made with
    rfl | ⟨-, same | ⟨created, rows, column⟩⟩
  · exact unchanged rfl
  · exact unchanged same
  · rw [rows, List.length_append, Nat.add_sub_cancel_left]
    exact List.rel_append authored.working (.cons ⟨member, fun k => by simp [column k]⟩ .nil)

theorem save (authored : s.Authored l ref os cs) (sound : l.Sound schema) (stores : l.Stores schema ref c)
    (member : own ∈ l.family ref) (written : own.rowOf l ref.name x false = .ok row) (keyed : own.keyOf row = .ok key)
    (made : s.save l.collections (.str ref.name) key.toEntries (Mapping.changes row key).toEntries = .ok s')
    (same : ∀ i : Nat, (s'.rows ref.name)[i]? = (s.rows ref.name)[i]? → os'[i]? = os[i]?)
    (changed : ∀ i : Nat, (s'.rows ref.name)[i]? ≠ (s.rows ref.name)[i]? → os'[i]? = os[i]?.map (·.add own)) :
    s'.Authored l ref os' cs := by
  obtain ⟨d, before, old, after, new, shaped, rows, -, overlay, rfl⟩ := save_cases made
  cases (shape_of_get? authored.provisioned).symm.trans shaped
  rw [stores.get_eq] at overlay
  have writes := sound.writes_of_rowOf member stores written
  have known := (Layout.mem_family.mp member).1
  have next : (s.setRows ref.name (before ++ new :: after)).rows ref.name = before ++ new :: after :=
    (rows_setRows ..).trans (if_pos (beq_self_eq_true _))
  have each := authored.working
  rw [rows] at each
  rw [next, rows] at same changed
  refine authored.setRows ?_
  by_cases differs : new = old
  · subst differs
    rwa [List.ext_getElem? fun i => same i rfl]
  · have touched : os' = os.modify before.length (·.add own) := by
      refine List.ext_getElem? fun i => ?_
      rw [List.getElem?_modify]
      by_cases here : before.length = i
      · subst here
        simp [changed before.length (by simpa using differs)]
      · simp [same i (getElem?_replace before after old new (Ne.symm here)), here]
    rw [touched]
    exact forall₂_modify each fun o fits =>
      fits.saved sound known writes (sound.get?_saved member writes keyed overlay)

end Store.Authored

namespace Workspace

open Run

variable {w w' : Workspace} {evaluator : Option Nat} {id : Nat} {name : String} {v : Value}
  {outcome : Except Error Unit}

/-- Workspaces that are reached from an empty table by working through the mappings of its hierarchy, however each
    operation ends, with the authors of its rows and of the committed ones. -/
inductive Authored (driver schema : Nat) (ref : CollectionRef) :
    Workspace → List Authors → List Authors → Prop where
  | start {w : Workspace} {s : Store} {evaluator : Option Nat} {r : Mapping}
      (declared : w.layout.Declared driver schema) (inhabited : r ∈ w.layout.family ref)
      (driven : w.drivers[driver]? = some (.memory s evaluator))
      (provisioned : s.shapes.get? ref.name = some ref) (working : s.rows ref.name = [])
      (committed : rowsOf s.committed ref.name = []) : Authored driver schema ref w [] []
  | create {w w' : Workspace} {os cs : List Authors} {m own : Mapping} {id : Nat} {name : String} {x : Entity}
      {outcome : Except Error Unit} (before : Authored driver schema ref w os cs)
      (member : m ∈ w.layout.family ref) (given : w.entities[id]? = some x)
      (mapped : w.layout.mappingFor m x = .ok own)
      (done : (createEntity m (.object (.entity id name))).exec w = (outcome, w')) :
      Authored driver schema ref w' (os ++ List.replicate
        ((w'.table driver ref.name).length - (w.table driver ref.name).length) ⟨own, []⟩) cs
  | save {w w' : Workspace} {os os' cs : List Authors} {m own : Mapping} {id : Nat} {name : String} {x : Entity}
      {outcome : Except Error Unit} (before : Authored driver schema ref w os cs)
      (member : m ∈ w.layout.family ref) (given : w.entities[id]? = some x)
      (mapped : w.layout.mappingFor m x = .ok own)
      (done : (saveEntity m (.object (.entity id name))).exec w = (outcome, w'))
      (same : ∀ i : Nat, (w'.table driver ref.name)[i]? = (w.table driver ref.name)[i]? → os'[i]? = os[i]?)
      (changed : ∀ i : Nat, (w'.table driver ref.name)[i]? ≠ (w.table driver ref.name)[i]? →
        os'[i]? = os[i]?.map (·.add own)) : Authored driver schema ref w' os' cs
  | remove {w w' : Workspace} {os cs : List Authors} {m : Mapping} {v : Value} {i : Nat}
      {outcome : Except Error Unit} (before : Authored driver schema ref w os cs)
      (member : m ∈ w.layout.family ref) (done : (removeEntity m v).exec w = (outcome, w'))
      (removed : w'.table driver ref.name = (w.table driver ref.name).eraseIdx i) :
      Authored driver schema ref w' (os.eraseIdx i) cs
  | commit {w w' : Workspace} {os cs : List Authors} (before : Authored driver schema ref w os cs)
      (done : (Run.commit driver).exec w = (.ok (), w')) : Authored driver schema ref w' os os
  | rollback {w w' : Workspace} {os cs : List Authors} (before : Authored driver schema ref w os cs)
      (done : (Run.rollback driver).exec w = (.ok (), w')) : Authored driver schema ref w' cs cs
  | other {w w' : Workspace} {os cs : List Authors} (before : Authored driver schema ref w os cs)
      (layout : w'.layout = w.layout) (same : SameTable w w' driver ref.name) : Authored driver schema ref w' os cs

/-- What these workspaces have in common. -/
abbrev Signed (w : Workspace) (driver schema : Nat) (ref : CollectionRef) (os cs : List Authors) : Prop :=
  w.Serves driver schema ref fun l s => s.Authored l ref os cs

namespace Signed

theorem create (signed : w.Signed driver schema ref os cs) (member : m ∈ w.layout.family ref)
    (given : w.entities[id]? = some x) (mapped : w.layout.mappingFor m x = .ok own)
    (done : (createEntity m (.object (.entity id name))).exec w = (outcome, w')) :
    w'.Signed driver schema ref (os ++ List.replicate
      ((w'.table driver ref.name).length - (w.table driver ref.name).length) ⟨own, []⟩) cs := by
  obtain ⟨s, evaluator, driven, authored⟩ := signed.held
  obtain ⟨c, stores⟩ := signed.stores
  rcases create_cases signed.declared member driven given done with
    rfl | ⟨own', row, answer, s', mapped', inside, written, created, layout, drivers⟩
  · rwa [Nat.sub_self, List.replicate_zero, List.append_nil]
  · cases mapped.symm.trans mapped'
    have driven' := driven_of_set driven drivers
    rw [table_eq driven, table_eq driven']
    exact signed.set driven' (authored.create signed.declared.sound stores inside written created) layout

theorem save (signed : w.Signed driver schema ref os cs) (member : m ∈ w.layout.family ref)
    (given : w.entities[id]? = some x) (mapped : w.layout.mappingFor m x = .ok own)
    (done : (saveEntity m (.object (.entity id name))).exec w = (outcome, w'))
    (same : ∀ i : Nat, (w'.table driver ref.name)[i]? = (w.table driver ref.name)[i]? → os'[i]? = os[i]?)
    (changed : ∀ i : Nat, (w'.table driver ref.name)[i]? ≠ (w.table driver ref.name)[i]? →
      os'[i]? = os[i]?.map (·.add own)) : w'.Signed driver schema ref os' cs := by
  obtain ⟨s, evaluator, driven, authored⟩ := signed.held
  obtain ⟨c, stores⟩ := signed.stores
  rcases save_cases signed.declared member driven given done with
    ⟨rfl, -⟩ | ⟨own', row, key, s', mapped', inside, written, keyed, saved, rfl⟩
  · rwa [List.ext_getElem? fun i => same i rfl]
  · cases mapped.symm.trans mapped'
    have driven' : ({ w with drivers := w.drivers.set driver (.memory s' evaluator) } : Workspace).drivers[driver]? =
        some (.memory s' evaluator) := driven_of_set driven rfl
    rw [table_eq driven, table_eq driven'] at same changed
    exact signed.set driven' (authored.save signed.declared.sound stores inside written keyed saved same changed) rfl

theorem remove {i : Nat} (signed : w.Signed driver schema ref os cs) (member : m ∈ w.layout.family ref)
    (done : (removeEntity m v).exec w = (outcome, w'))
    (removed : w'.table driver ref.name = (w.table driver ref.name).eraseIdx i) :
    w'.Signed driver schema ref (os.eraseIdx i) cs := by
  obtain ⟨s, evaluator, driven, authored⟩ := signed.held
  have rest := forall₂_eraseIdx authored.working i
  rcases remove_cases signed.declared member driven done with
    ⟨rfl, -⟩ | ⟨id, x, own, row, key, s', -, -, -, -, -, made, rfl⟩
  · rw [table_eq driven] at removed
    exact signed.set driven ⟨authored.provisioned, removed ▸ rest, authored.committed⟩ rfl
  · have driven' : ({ w with drivers := w.drivers.set driver (.memory s' evaluator) } : Workspace).drivers[driver]? =
        some (.memory s' evaluator) := driven_of_set driven rfl
    rw [table_eq driven, table_eq driven'] at removed
    obtain ⟨before, old, after, -, same⟩ := Store.remove_cases made
    rw [← removed, same, Store.rows_setRows, if_pos (beq_self_eq_true _)] at rest
    exact signed.set driven' (same ▸ authored.setRows rest) rfl

end Signed

theorem Authored.signed (authored : Authored driver schema ref w os cs) : w.Signed driver schema ref os cs := by
  induction authored with
  | start declared inhabited driven provisioned working committed =>
    refine ⟨declared, ⟨_, inhabited⟩, _, _, driven, provisioned, ?_, ?_⟩
    · rw [working]
      exact .nil
    · rw [committed]
      exact .nil
  | create _ member given mapped done signed => exact signed.create member given mapped done
  | save _ member given mapped done same changed signed => exact signed.save member given mapped done same changed
  | remove _ member done removed signed => exact signed.remove member done removed
  | commit _ done signed =>
    exact (signed.update (fun _ _ authored => ⟨_, rfl, authored.commit⟩) done).resolve_left (by simp)
  | rollback _ done signed =>
    exact (signed.update (fun _ _ authored => ⟨_, rfl, authored.rollback⟩) done).resolve_left (by simp)
  | other _ layout same signed =>
    exact signed.other layout same fun s s' shapes working committed authored =>
      ⟨shapes ▸ authored.provisioned, working ▸ authored.working, committed ▸ authored.committed⟩

end Workspace

/-! An entry of a log, and an alarm that takes its place. -/

namespace Log

open Run

def noted : Entity := { model := entry, attributes := plain.attributes.take 2 }

def written : Workspace :=
  ((createEntity (top true) (.object (.entity 0 "Entry"))).exec (opened true none [noted, plain])).2

def replaced : Workspace := ((saveEntity (top true) (.object (.entity 1 "Alarm"))).exec written).2

/-- The columns of the rows, and how far the sequence of the alarms has got. -/
def extent (w : Workspace) : List (List String) × Option Nat :=
  ((w.table 0 collection.name).map Assoc.keys, (w.drivers[0]?.bind Driver.store?).map (·.counter "log.number"))

end Log

namespace Run

variable {w : Workspace} {os cs : List Authors}

/-- Each row has the columns of its creator, those that are generated for every row of the hierarchy, and what was
    saved over it. Creating an instance adds such a row, if none, and each sequence goes on by the fields of it, of
    whatever class, for which the instance has no value. -/
theorem columns_of_authors (authored : w.Authored driver schema ref os cs) :
    (∀ s evaluator, w.drivers[driver]? = some (.memory s evaluator) →
      List.Forall₂ (w.layout.Authored ref) os (s.rows ref.name) ∧
        List.Forall₂ (w.layout.Authored ref) cs (rowsOf s.committed ref.name)) ∧
    ∀ m ∈ w.layout.family ref, ∀ id name x own w' outcome, w.entities[id]? = some x →
      w.layout.mappingFor m x = .ok own → (createEntity m (.object (.entity id name))).exec w = (outcome, w') →
      ∃ s s' evaluator, w.drivers[driver]? = some (.memory s evaluator) ∧
        w'.drivers[driver]? = some (.memory s' evaluator) ∧
        (outcome = .ok () → (s'.rows ref.name).length = (s.rows ref.name).length + 1) ∧
        (s' = s ∨ (∀ sequence, s'.counter sequence = s.counter sequence + w.layout.draws ref own x sequence) ∧
          (s'.rows ref.name = s.rows ref.name ∨ ∃ row, s'.rows ref.name = s.rows ref.name ++ [row] ∧
            ∀ k, (row.get? k).isSome = true ↔ own.Spans k ∨ w.layout.Numbers ref k)) := by
  have signed := authored.signed
  have sound := signed.declared.sound
  obtain ⟨c, stores⟩ := signed.stores
  obtain ⟨s, evaluator, driven, each⟩ := signed.held
  refine ⟨fun s' evaluator' driven' => ?_, fun m member id name x own w' outcome given mapped done => ?_⟩
  · cases driven.symm.trans driven'
    exact ⟨each.working, each.committed⟩
  · have grows : ∀ s', w'.drivers[driver]? = some (.memory s' evaluator) → outcome = .ok () →
        (s'.rows ref.name).length = (s.rows ref.name).length + 1 := by
      intro s' driven' ok
      obtain ⟨_, row, _, _, s₁, _, -, -, -, -, -, -, rows, -, rfl⟩ :=
        Workspace.created_cases signed.declared member stores driven each.provisioned given (ok ▸ done)
      cases (Workspace.driven_of_set driven rfl).symm.trans driven'
      rw [rows, List.length_append, List.length_singleton]
    rcases Workspace.create_cases signed.declared member driven given done with
      rfl | ⟨own', row, answer, s', mapped', inside, written, made, layout, drivers⟩
    · exact ⟨s, s, evaluator, driven, driven, grows s driven, .inl rfl⟩
    · cases mapped.symm.trans mapped'
      have driven' := Workspace.driven_of_set driven drivers
      exact ⟨s, s', evaluator, driven, driven', grows s' driven',
        sound.create_spans inside stores each.provisioned written made⟩

theorem columns_of_authors_alarm : ∃ w s, (Log.create true 0).exec (Log.opened true none [Log.early]) = (.ok (), w) ∧
    w.drivers[0]? = some (.memory s none) ∧ s.counter "log.number" = 1 ∧
    ∃ row, s.rows "log" = [row] ∧ ∀ k, (row.get? k).isSome = true ↔
      (Log.bottom true).Spans k ∨ (Log.layout true).Numbers Log.collection k := by
  have ready : Creation (Log.opened true none [Log.early]) _ Log.collection (Log.top true)
    (Log.bottom true) 0 Log.early := Log.creation rfl rfl
  have authored : (Log.opened true none [Log.early]).Authored 0 0 Log.collection [] [] :=
    .start (Log.declared true) ready.member rfl (by decide +kernel) rfl rfl
  have done := Log.exec_create true 0 (Log.opened true none [Log.early]) (by decide +kernel)
  have drawn : (Log.layout true).draws Log.collection (Log.bottom true) Log.early "log.number" = 1 := by
    decide +kernel
  obtain ⟨s, s', evaluator, driven, driven', grows, told⟩ := (columns_of_authors authored).2 (Log.top true) ready.member
    0 "Alarm" Log.early (Log.bottom true) _ _ rfl ready.mapped done
  cases driven
  rcases told with rfl | ⟨counters, same | ⟨row, rows, columns⟩⟩
  · simp at grows
  · rw [same] at grows
    simp at grows
  · refine ⟨_, s', done, driven', ?_, row, rows, columns⟩
    rw [counters]
    exact congrArg (0 + ·) drawn

/-- An entry draws a number of the sequence that only the alarms have, and an alarm that is saved over it adds the
    discriminator. -/
theorem not_columns_of_authors :
    (Log.opened true none [Log.noted, Log.plain]).Authored 0 0 Log.collection [] [] ∧
    (Log.layout true).mappingFor (Log.top true) Log.noted = .ok (Log.top true) ∧
    (createEntity (Log.top true) (.object (.entity 0 "Entry"))).exec (Log.opened true none [Log.noted, Log.plain]) =
      (.ok (), Log.written) ∧
    ¬(Log.top true).Spans "number" ∧ (∀ f ∈ (Log.top true).allFields, f.sequence.isPresent = false) ∧
    Log.extent (Log.opened true none [Log.noted, Log.plain]) = ([], some 0) ∧
    Log.extent Log.written = ([["code", "at", "number"]], some 1) ∧
    Log.extent Log.replaced = ([["code", "at", "number", "kind"]], some 1) := by
  have ready : Creation (Log.opened true none [Log.early]) _ Log.collection (Log.top true)
    (Log.bottom true) 0 Log.early := Log.creation rfl rfl
  have known := (Layout.mem_family.mp ready.member).1
  have mapped : (Log.layout true).mappingFor (Log.top true) Log.noted = .ok (Log.top true) := by
    refine (Log.declared true).sound.mappingFor_eq known .self (by decide +kernel) fun b inside _ same => ?_
    have all : ∀ b ∈ (Log.layout true).mappings,
        b.model.name = (Log.top true).model.name → b.id = (Log.top true).id := by decide +kernel
    exact (Log.declared true).sound.eq_of_id inside known (all b inside same)
  refine ⟨.start (Log.declared true) ready.member rfl (by decide +kernel) rfl rfl, mapped,
    exec_ok (by decide +kernel), ?_, by decide +kernel, by decide +kernel, by decide +kernel, by decide +kernel⟩
  rintro (⟨f, mapped, name⟩ | ⟨a, above, -⟩)
  · have others : ∀ f ∈ (Log.top true).allFields, f.name ≠ "number" := by decide +kernel
    exact others f mapped name
  · have none : (Log.top true).ancestors.length = 0 := by decide +kernel
    rw [List.length_eq_zero_iff.mp none] at above
    cases above

end Run

end ModelStore
