import ModelStore.Proofs.Mapping.Owned
import ModelStore.Proofs.Workspace.Reached

/-!
Where the values in the rows of a hierarchy come from. Whatever is written through its mappings, a column holds
what its own converter stored of a value, the text of a discriminator, or a number of its own sequence.
-/

namespace ModelStore

open Store (rowsOf)

variable {l l' : Layout} {driver schema : Nat} {ref : CollectionRef} {c : Collection} {s s' : Store}
  {m own n : Mapping} {x : Entity} {row key old new : Row} {rows : List Row} {P : Row → Prop}
  {p : MappingField → Value → Prop}

/-- What a column holds, if all values that are stored in it satisfy a condition. -/
inductive MappingField.Holds (f : MappingField) (p : Value → Prop) : Value → Prop where
  | stored {v raw : Value} (given : p v) (stored : f.conversion.toRaw v = .ok raw) : Holds f p raw
  | marked {s : String} (keeps : f.conversion.keepsText = true) : Holds f p (.str s)
  | numbered {n : Nat} (sequence : f.sequence.isPresent = true) : Holds f p (.int n)

namespace Layout

/-- Whether each value of a row is in a column that holds it. -/
def Held (l : Layout) (ref : CollectionRef) (p : MappingField → Value → Prop) (row : Row) : Prop :=
  ∀ k raw, row.get? k = some raw → ∃ f ∈ l.columns ref, f.name = k ∧ f.Holds (p f) raw

theorem Sound.holds_value (sound : l.Sound schema) (member : m ∈ l.family ref) {k v : String}
    (given : m.values.get? k = some v) : ∃ f ∈ l.columns ref, f.name = k ∧ f.Holds (p f) (.str v) := by
  obtain ⟨f, column, name, keeps, -⟩ := sound.exists_value_column member (Assoc.mem_keys_of_get? given)
  exact ⟨f, column, name, .marked keeps⟩

theorem Sound.held_of_creates (sound : l.Sound schema) (stores : l.Stores schema ref c)
    (member : m ∈ l.family ref) (creates : m.Creates c x row) (supplied : ∀ f ∈ m.allFields, p f (x.get f.ref)) :
    l.Held ref p row := by
  intro k raw found
  by_cases field : ∃ f ∈ m.allFields, f.name = k
  · obtain ⟨f, mapped, rfl⟩ := field
    refine ⟨f, sound.field_mem_columns member mapped, rfl, ?_⟩
    cases left : f.unset x with
    | true =>
      obtain ⟨n, number⟩ := creates.generated f mapped left
      cases number.symm.trans found
      exact .numbered (Bool.and_eq_true_iff.mp left).1
    | false =>
      obtain ⟨raw', stored, present⟩ := creates.field f mapped left
      cases present.symm.trans found
      exact .stored (supplied f mapped) stored
  · by_cases value : k ∈ m.values.keys
    · obtain ⟨v, given⟩ := Assoc.exists_of_mem_keys value
      cases (creates.value k v given).symm.trans found
      exact sound.holds_value member given
    · -- what is left was generated for a field of another branch
      obtain ⟨d, inside, rfl, sequence, n, rfl⟩ :=
        creates.other k raw found (fun f mapped name => field ⟨f, mapped, name⟩) value
      rw [stores.fields] at inside
      obtain ⟨f, column, rfl⟩ := List.mem_map.mp inside
      exact ⟨f, column, rfl, .numbered sequence⟩

theorem Sound.held_of_writes (sound : l.Sound schema) (member : m ∈ l.family ref) (writes : m.Writes x false row)
    (supplied : ∀ f ∈ m.allFields, p f (x.get f.ref)) : l.Held ref p row := by
  intro k raw found
  by_cases field : ∃ f ∈ m.allFields, f.name = k
  · obtain ⟨f, mapped, rfl⟩ := field
    obtain ⟨raw', stored, present⟩ := writes.field f mapped rfl
    cases present.symm.trans found
    exact ⟨f, sound.field_mem_columns member mapped, rfl, .stored (supplied f mapped) stored⟩
  · by_cases value : k ∈ m.values.keys
    · obtain ⟨v, given⟩ := Assoc.exists_of_mem_keys value
      cases (writes.value k v given).symm.trans found
      exact sound.holds_value member given
    · cases (writes.other k (fun f mapped name => field ⟨f, mapped, name⟩) value).symm.trans found

/-- What is saved comes from the row that is written or from the one that is written over. -/
theorem Held.saved (written : l.Held ref p row) (before : l.Held ref p old)
    (column : ∀ k, new.get? k = (if k ∈ own.keyNames then none else row.get? k).or (old.get? k)) :
    l.Held ref p new := by
  intro k raw found
  rw [column] at found
  split at found
  · exact before k raw found
  · rcases Option.or_eq_some_iff.mp found with found | ⟨-, found⟩
    · exact written k raw found
    · exact before k raw found

theorem Held.append (held : l.Held ref p row) (mappings : l'.mappings = l.mappings ++ [n]) : l'.Held ref p row := by
  intro k raw found
  obtain ⟨f, column, rest⟩ := held k raw found
  exact ⟨f, columns_of_append mappings column, rest⟩

end Layout

/-! The rows of a store. -/

/-- A store that knows a collection, of which all rows satisfy a condition. -/
structure Store.All (s : Store) (ref : CollectionRef) (P : Row → Prop) : Prop where
  provisioned : s.shapes.get? ref.name = some ref
  working : ∀ row ∈ s.rows ref.name, P row
  committed : ∀ row ∈ rowsOf s.committed ref.name, P row

namespace Store.All

theorem setRows (all : s.All ref P) (next : ∀ row ∈ rows, P row) : (s.setRows ref.name rows).All ref P where
  provisioned := all.provisioned
  working := by
    rw [rows_setRows, if_pos (beq_self_eq_true _)]
    exact next
  committed := all.committed

theorem commit (all : s.All ref P) : s.commit.All ref P := ⟨all.provisioned, all.working, all.working⟩

theorem rollback (all : s.All ref P) : s.rollback.All ref P := ⟨all.provisioned, all.committed, all.committed⟩

theorem imp {Q : Row → Prop} (all : s.All ref P) (implies : ∀ row, P row → Q row) : s.All ref Q where
  provisioned := all.provisioned
  working := fun row inside => implies row (all.working row inside)
  committed := fun row inside => implies row (all.committed row inside)

/-- A row that is created is the last one, unless it is refused. -/
theorem create {cs : Catalog} {data : List (Value × Value)} {outcome : Except Error Row} (all : s.All ref P)
    (made : s.create cs (.str ref.name) data = (outcome, s')) (created : ∀ row, outcome = .ok row → P row) :
    s'.All ref P := by
  cases outcome with
  | error e =>
    obtain ⟨sequences, rfl⟩ := create_error made
    exact ⟨all.provisioned, all.working, all.committed⟩
  | ok row =>
    obtain ⟨-, -, sequences, -, -, -, -, rfl⟩ := create_cases made
    have same : ({ s with sequences } : Store).All ref P := ⟨all.provisioned, all.working, all.committed⟩
    refine same.setRows (List.forall_mem_append.mpr ⟨all.working, List.forall_mem_singleton.mpr ?_⟩)
    exact created row rfl

theorem save {cs : Catalog} {entries data : List (Value × Value)} (all : s.All ref P)
    (made : s.save cs (.str ref.name) entries data = .ok s')
    (saved : ∀ old new, P old → Store.overlaid (cs.get ref) old data = .ok new → P new) : s'.All ref P := by
  obtain ⟨d, before, old, after, new, shaped, rows, -, overlay, rfl⟩ := save_cases made
  cases (shape_of_get? all.provisioned).symm.trans shaped
  have there := all.working
  rw [rows] at there
  obtain ⟨first, rest⟩ := List.forall_mem_append.mp there
  obtain ⟨here, last⟩ := List.forall_mem_cons.mp rest
  exact all.setRows (List.forall_mem_append.mpr ⟨first, List.forall_mem_cons.mpr ⟨saved old new here overlay, last⟩⟩)

theorem remove {cs : Catalog} {entries : List (Value × Value)} (all : s.All ref P)
    (made : s.remove cs (.str ref.name) entries = .ok s') : s'.All ref P := by
  obtain ⟨before, old, after, rows, rfl⟩ := remove_cases made
  have there := all.working
  rw [rows] at there
  obtain ⟨first, rest⟩ := List.forall_mem_append.mp there
  exact all.setRows (List.forall_mem_append.mpr ⟨first, (List.forall_mem_cons.mp rest).2⟩)

end Store.All

namespace Workspace

open Run

variable {w w' : Workspace} {evaluator : Option Nat} {v : Value} {outcome : Except Error Unit}

/-! What one operation makes of a condition that all rows of a hierarchy satisfy. -/

namespace Serves

variable {Q : Layout → Row → Prop}

theorem createAll (serves : w.Serves driver schema ref fun l s => s.All ref (Q l)) (member : m ∈ w.layout.family ref)
    (done : (createEntity m v).exec w = (outcome, w'))
    (created : ∀ c id x own row, w.layout.Stores schema ref c → (instanceOf m v).exec w = (.ok (id, x), w) →
      w.layout.mappingFor m x = .ok own → own ∈ w.layout.family ref → own.Creates c x row → Q w.layout row) :
    w'.Serves driver schema ref fun l s => s.All ref (Q l) := by
  have sound := serves.declared.sound
  obtain ⟨s, evaluator, driven, all⟩ := serves.held
  obtain ⟨c, stores⟩ := serves.stores
  rcases createEntity_value (sound.isHierarchy (Layout.mem_family.mp member).1) done with
    rfl | ⟨id, name, x, rfl, given⟩
  · exact serves
  rcases create_cases serves.declared member driven given done with
    rfl | ⟨own, row, answer, s', mapped, inside, written, made, layout, drivers⟩
  · exact serves
  refine serves.set (driven_of_set driven drivers) (all.create made fun row same => ?_) layout
  rw [same] at made
  obtain ⟨creates, -⟩ := sound.creates_of_create inside stores all.provisioned written made
  exact created c id x own row stores (exec_instanceOf given) mapped inside creates

theorem saveAll (serves : w.Serves driver schema ref fun l s => s.All ref (Q l)) (member : m ∈ w.layout.family ref)
    (done : (saveEntity m v).exec w = (outcome, w'))
    (saved : ∀ c id x own row old new, w.layout.Stores schema ref c → (instanceOf m v).exec w = (.ok (id, x), w) →
      w.layout.mappingFor m x = .ok own → own ∈ w.layout.family ref → own.Writes x false row →
      (∀ k, new.get? k = (if k ∈ own.keyNames then none else row.get? k).or (old.get? k)) → Q w.layout old →
      Q w.layout new) :
    w'.Serves driver schema ref fun l s => s.All ref (Q l) := by
  have sound := serves.declared.sound
  obtain ⟨s, evaluator, driven, all⟩ := serves.held
  obtain ⟨c, stores⟩ := serves.stores
  rcases save_cases_value serves.declared member driven done with
    ⟨rfl, -⟩ | ⟨id, x, own, row, key, s', given, mapped, inside, written, keyed, made, rfl⟩
  · exact serves
  have writes := sound.writes_of_rowOf inside stores written
  refine serves.set (driven_of_set driven rfl) (all.save made fun old new before overlay => ?_) rfl
  rw [stores.get_eq] at overlay
  exact saved c id x own row old new stores given mapped inside writes (sound.get?_saved inside writes keyed overlay)
    before

theorem removeAll (serves : w.Serves driver schema ref fun l s => s.All ref (Q l)) (member : m ∈ w.layout.family ref)
    (done : (removeEntity m v).exec w = (outcome, w')) : w'.Serves driver schema ref fun l s => s.All ref (Q l) := by
  obtain ⟨s, evaluator, driven, all⟩ := serves.held
  rcases remove_cases serves.declared member driven done with
    ⟨rfl, -⟩ | ⟨id, x, own, row, key, s', -, -, -, -, -, removed, rfl⟩
  · exact serves
  · exact serves.set (driven_of_set driven rfl) (all.remove removed) rfl

theorem otherAll (serves : w.Serves driver schema ref fun l s => s.All ref (Q l)) (layout : w'.layout = w.layout)
    (same : SameTable w w' driver ref.name) : w'.Serves driver schema ref fun l s => s.All ref (Q l) := by
  refine serves.other layout same fun s s' shapes working committed all => ⟨shapes ▸ all.provisioned, ?_, ?_⟩
  · rw [working]
    exact all.working
  · rw [committed]
    exact all.committed

end Serves

/-- Whether the attributes of an instance that a mapping writes satisfy the conditions of their fields. -/
def Supplies (w : Workspace) (m : Mapping) (v : Value) (p : MappingField → Value → Prop) : Prop :=
  ∀ id x own, (instanceOf m v).exec w = (.ok (id, x), w) → w.layout.mappingFor m x = .ok own →
    ∀ f ∈ own.allFields, p f (x.get f.ref)

/-- Workspaces that are reached from an empty table by working through the mappings of its hierarchy, however each
    operation ends, where all values that are written satisfy a condition. -/
inductive Filled (p : MappingField → Value → Prop) (driver schema : Nat) (ref : CollectionRef) :
    Workspace → Prop where
  | start {w : Workspace} {s : Store} {evaluator : Option Nat} {r : Mapping}
      (declared : w.layout.Declared driver schema) (inhabited : r ∈ w.layout.family ref)
      (driven : w.drivers[driver]? = some (.memory s evaluator))
      (provisioned : s.shapes.get? ref.name = some ref) (working : s.rows ref.name = [])
      (committed : rowsOf s.committed ref.name = []) : Filled p driver schema ref w
  | create {w w' : Workspace} {m : Mapping} {v : Value} {outcome : Except Error Unit}
      (before : Filled p driver schema ref w) (member : m ∈ w.layout.family ref) (supplies : w.Supplies m v p)
      (done : (createEntity m v).exec w = (outcome, w')) : Filled p driver schema ref w'
  | save {w w' : Workspace} {m : Mapping} {v : Value} {outcome : Except Error Unit}
      (before : Filled p driver schema ref w) (member : m ∈ w.layout.family ref) (supplies : w.Supplies m v p)
      (done : (saveEntity m v).exec w = (outcome, w')) : Filled p driver schema ref w'
  | remove {w w' : Workspace} {m : Mapping} {v : Value} {outcome : Except Error Unit}
      (before : Filled p driver schema ref w) (member : m ∈ w.layout.family ref)
      (done : (removeEntity m v).exec w = (outcome, w')) : Filled p driver schema ref w'
  | commit {w w' : Workspace} {outcome : Except Error Unit} (before : Filled p driver schema ref w)
      (done : (Run.commit driver).exec w = (outcome, w')) : Filled p driver schema ref w'
  | rollback {w w' : Workspace} {outcome : Except Error Unit} (before : Filled p driver schema ref w)
      (done : (Run.rollback driver).exec w = (outcome, w')) : Filled p driver schema ref w'
  | declare {w w' : Workspace} {d : Declaration} {outcome : Except Error Handle}
      (before : Filled p driver schema ref w) (kind : d.kind = .hierarchy)
      (done : (Run.declare d).exec w = (outcome, w')) (declared : w'.layout.Declared driver schema) :
      Filled p driver schema ref w'
  | other {w w' : Workspace} (before : Filled p driver schema ref w) (layout : w'.layout = w.layout)
      (same : SameTable w w' driver ref.name) : Filled p driver schema ref w'

/-- What these workspaces have in common. -/
abbrev Fills (w : Workspace) (p : MappingField → Value → Prop) (driver schema : Nat) (ref : CollectionRef) : Prop :=
  w.Serves driver schema ref fun l s => s.All ref (l.Held ref p)

namespace Fills

theorem create (fills : w.Fills p driver schema ref) (member : m ∈ w.layout.family ref)
    (supplies : w.Supplies m v p) (done : (createEntity m v).exec w = (outcome, w')) :
    w'.Fills p driver schema ref :=
  fills.createAll member done fun _ id x own _ stores given mapped inside creates =>
    fills.declared.sound.held_of_creates stores inside creates (supplies id x own given mapped)

theorem save (fills : w.Fills p driver schema ref) (member : m ∈ w.layout.family ref)
    (supplies : w.Supplies m v p) (done : (saveEntity m v).exec w = (outcome, w')) :
    w'.Fills p driver schema ref := by
  refine fills.saveAll member done fun c id x own row old new stores given mapped inside writes column before => ?_
  have supplied := fills.declared.sound.held_of_writes inside writes (supplies id x own given mapped)
  exact supplied.saved before column

theorem declare {d : Declaration} {outcome : Except Error Handle} (fills : w.Fills p driver schema ref)
    (kind : d.kind = .hierarchy) (done : (Run.declare d).exec w = (outcome, w'))
    (declared : w'.layout.Declared driver schema) : w'.Fills p driver schema ref := by
  rcases declare_cases kind fills.declared.sound.contained done with ⟨rfl, -⟩ | ⟨l, n, journal, made, -, rfl⟩
  · exact fills
  · obtain ⟨parent, ref', old, new, step⟩ := Layout.step_of_declare kind made
    have mappings := Layout.mappings_of_attach step.attached
    obtain ⟨s, evaluator, driven, held⟩ := fills.held
    obtain ⟨r, member⟩ := fills.inhabited
    exact ⟨declared, ⟨r, Layout.mem_family_of_append mappings member⟩, s, evaluator, driven,
      held.imp fun row before => before.append mappings⟩

end Fills

/-- Whatever was done, the values in the rows are held by their columns. -/
theorem Filled.fills (filled : w.Filled p driver schema ref) : w.Fills p driver schema ref := by
  induction filled with
  | start declared inhabited driven provisioned working committed =>
    refine ⟨declared, ⟨_, inhabited⟩, _, _, driven, provisioned, ?_, ?_⟩
    · rw [working]
      exact List.forall_mem_nil _
    · rw [committed]
      exact List.forall_mem_nil _
  | create _ member supplies done fills => exact fills.create member supplies done
  | save _ member supplies done fills => exact fills.save member supplies done
  | remove _ member done fills => exact fills.removeAll member done
  | commit _ done fills => exact fills.keep (fun s _ held => ⟨s.commit, rfl, held.commit⟩) done
  | rollback _ done fills => exact fills.keep (fun s _ held => ⟨s.rollback, rfl, held.rollback⟩) done
  | declare _ kind done declared fills => exact fills.declare kind done declared
  | other _ layout same fills => exact fills.otherAll layout same

/-- Creating an instance leaves the mappings as they are. -/
theorem Filled.created (filled : w.Filled p driver schema ref) (member : m ∈ w.layout.family ref)
    (supplies : w.Supplies m v p) : ((createEntity m v).exec w).2.layout = w.layout ∧
      ((createEntity m v).exec w).2.Filled p driver schema ref := by
  generalize done : (createEntity m v).exec w = end_
  obtain ⟨outcome, w'⟩ := end_
  refine ⟨?_, filled.create member supplies done⟩
  obtain ⟨s, evaluator, driven, -⟩ := filled.fills.held
  have declared := filled.fills.declared
  rcases createEntity_value (declared.sound.isHierarchy (Layout.mem_family.mp member).1) done with
    rfl | ⟨id, name, x, rfl, given⟩
  · rfl
  · rcases create_cases declared member driven given done with rfl | ⟨own, row, answer, s', -, -, -, -, layout, -⟩
    · rfl
    · exact layout

end Workspace

end ModelStore
