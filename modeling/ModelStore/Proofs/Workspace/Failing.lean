import ModelStore.Proofs.Mapping.Reproducing
import ModelStore.Proofs.Workspace.Filled
import ModelStore.Proofs.Workspace.Origins

/-!
Creating instances, and what is left when that fails. An instance that is refused before its row is stored leaves all
rows as they were. But only the row in place is read back and assigned to the instance: a number that its column
cannot read, or an instance that does not take what was read, ends the creation after the row was added.
-/

namespace ModelStore

open Run

variable {w w' : Workspace} {driver schema : Nat} {ref : CollectionRef} {l : Layout} {c : Collection} {s : Store}
  {evaluator : Option Nat} {m own : Mapping} {x y : Entity} {row back : Row} {id : Nat} {name : String}
  {v raw : Value} {outcome : Except Error Unit}

/-! Values that can be read. -/

namespace Converter

/-- Whether a number of a sequence can be read. -/
def reads : Converter → Nat → Bool
  | .float, n => (Binary64.ofInt? n).isSome
  | .date, _ | .binary, _ => false
  | _, _ => true

theorem exists_ofRaw_number (c : Converter) (n : Nat) : (∃ v, c.ofRaw (.int n) = .ok v) ↔ c.reads n = true := by
  cases c with
  | identity | string | integer | boolean => exact iff_of_true ⟨_, rfl⟩ rfl
  | float =>
    have read : ofRaw .float (.int n) = (Value.doubleOfInt n).bind fun x => .ok (.float x) := rfl
    rw [read, reads, Value.doubleOfInt]
    cases Binary64.ofInt? n with
    | none =>
      refine iff_of_false ?_ Bool.false_ne_true
      rintro ⟨_, found⟩
      cases found
    | some x => exact iff_of_true ⟨.float x, rfl⟩ rfl
  | date | binary =>
    refine iff_of_false ?_ Bool.false_ne_true
    rintro ⟨_, found⟩
    cases found

/-- Whatever was stored by a converter can be read by it. -/
theorem exists_ofRaw_stored {c : Converter} (stored : c.toRaw v = .ok raw) : ∃ u, c.ofRaw raw = .ok u := by
  cases kept : c.keeps v with
  | true =>
    obtain ⟨u, restored, -⟩ := exists_restored stored kept
    exact ⟨u, restored⟩
  | false =>
    obtain ⟨rfl, d, rfl, -⟩ := lost_cases kept
    cases stored
    exact ⟨_, ofRaw_text d⟩

end Converter

/-- What a column holds can be read, unless it is a number of its sequence that its converter does not read. -/
theorem MappingField.Holds.exists_ofRaw {f : MappingField} {p : Value → Prop} (holds : f.Holds p raw)
    (counted : f.sequence.isPresent = true → ∀ n : Nat, raw = .int n → f.conversion.reads n = true) :
    ∃ v, f.conversion.ofRaw raw = .ok v := by
  cases holds with
  | stored given stored => exact Converter.exists_ofRaw_stored stored
  | marked keeps => exact ⟨_, Converter.ofRaw_str keeps _⟩
  | numbered sequence => exact (Converter.exists_ofRaw_number _ _).mpr (counted sequence _ rfl)

namespace Layout

/-- Whether all numbers that a row has in columns with a sequence can be read. -/
def Legible (l : Layout) (ref : CollectionRef) (row : Row) : Prop :=
  ∀ f ∈ l.columns ref, f.sequence.isPresent = true →
    ∀ n : Nat, row.get? f.name = some (.int n) → f.conversion.reads n = true

/-- A row whose values are held by their columns is read back just if its numbers can be read. -/
theorem Stores.convertRow_iff {p : MappingField → Value → Prop} (stores : l.Stores schema ref c)
    (held : l.Held ref p row) (distinct : row.keys.Nodup) :
    (∃ back, c.convertRow .fromStore row = .ok back) ↔ l.Legible ref row := by
  constructor
  · rintro ⟨back, converted⟩ f column - n number
    obtain ⟨v, restored, -⟩ := back_of_get? stores column converted number
    exact (Converter.exists_ofRaw_number _ n).mp ⟨v, restored⟩
  · refine fun legible => Collection.exists_convertRow fun e inside => ?_
    have present : row.get? e.1 = some e.2 := Assoc.get?_of_mem distinct inside
    obtain ⟨f, column, same, holds⟩ := held e.1 e.2 present
    obtain ⟨v, restored⟩ := holds.exists_ofRaw fun sequence n number =>
      legible f column sequence n (by rw [same, present, number])
    exact ⟨f.toCollectionField, v, same ▸ stores.getField column, restored⟩

end Layout

/-! Values that are taken. -/

namespace Entity

/-- Whether an instance takes a value for an attribute. -/
def takes (x : Entity) (name : String) : Bool :=
  !x.model.validated || name.startsWith "_" || (!x.model.frozen && x.model.attributes.any (·.name == name))

theorem exists_assign_iff (x : Entity) (name : String) (v : Value) :
    (∃ y, x.assign name v = .ok y) ↔ x.takes name = true := by
  unfold assign takes
  dsimp only
  cases !x.model.validated || name.startsWith "_" with
  | true => exact iff_of_true ⟨_, rfl⟩ rfl
  | false =>
    cases x.model.frozen with
    | true =>
      refine iff_of_false ?_ Bool.false_ne_true
      rintro ⟨_, taken⟩
      cases taken
    | false =>
      cases x.model.attributes.any (·.name == name) with
      | true => exact iff_of_true ⟨_, rfl⟩ rfl
      | false =>
        refine iff_of_false ?_ Bool.false_ne_true
        rintro ⟨_, taken⟩
        cases taken

end Entity

namespace Mapping

/-- Writing values back ends well just if the instance takes each one that differs from what it has. -/
theorem refresh_iff {fs : List MappingField} (distinct : (fs.map (·.ref)).Nodup) :
    (refresh back fs x).2 = .ok () ↔ ∀ f ∈ fs, ∀ v, back.get? f.name = some v → (x.get f.ref == v) = false →
      x.takes f.ref = true := by
  induction fs generalizing x with
  | nil => exact iff_of_true rfl (List.forall_mem_nil _)
  | cons f fs ih =>
    rw [List.map_cons, List.nodup_cons] at distinct
    rw [List.forall_mem_cons]
    unfold refresh
    cases found : back.get? f.name with
    | none =>
      dsimp only
      rw [ih distinct.2, and_iff_right]
      rintro v none
      cases none
    | some v =>
      dsimp only
      cases same : x.get f.ref == v with
      | true =>
        rw [if_pos rfl, ih distinct.2, and_iff_right]
        rintro u here differs
        cases here
        cases same.symm.trans differs
      | false =>
        rw [if_neg Bool.false_ne_true]
        cases assigned : x.assign f.ref v with
        | error e =>
          refine iff_of_false (fun ok => by cases ok) fun all => ?_
          obtain ⟨y, done⟩ := (x.exists_assign_iff f.ref v).mpr (all.1 v rfl same)
          cases assigned.symm.trans done
        | ok y =>
          -- the assignment leaves what the later fields look at
          have taken := (x.exists_assign_iff f.ref v).mp ⟨y, assigned⟩
          cases Entity.assign_cases assigned
          dsimp only
          rw [ih distinct.2, and_iff_right fun _ _ _ => taken]
          refine forall₂_congr fun g inside => ?_
          have other : g.ref ≠ f.ref := fun same => distinct.1 (same ▸ List.mem_map_of_mem inside)
          rw [Entity.get_put, if_neg (by simpa using other)]
          exact Iff.rfl

/-- Whether an instance takes all that is read of its row and differs from what it has. -/
def Accepts (m : Mapping) (x : Entity) (row : Row) : Prop :=
  ∀ f ∈ m.allFields, ∀ v, f.conversion.ofRaw (row.column f.name) = .ok v → (x.get f.ref == v) = false →
    x.takes f.ref = true

end Mapping

/-- A row that was created is read back and taken just if its numbers can be read and the instance takes the rest. -/
theorem Layout.Sound.read_back_iff (sound : l.Sound schema) (member : m ∈ l.family ref)
    (stores : l.Stores schema ref c) (creates : m.Creates c x row) :
    (∃ back, c.convertRow .fromStore row = .ok back ∧ (Mapping.refresh back m.allFields x).2 = .ok ()) ↔
      l.Legible ref row ∧ m.Accepts x row := by
  have held := sound.held_of_creates (p := fun _ _ => True) stores member creates fun _ _ => trivial
  have taken_iff {back : Row} (converted : c.convertRow .fromStore row = .ok back) :
      (Mapping.refresh back m.allFields x).2 = .ok () ↔ m.Accepts x row := by
    rw [Mapping.refresh_iff (sound.refs_distinct (mem_family.mp member).1)]
    refine forall₂_congr fun f mapped => forall_congr' fun v => ?_
    obtain ⟨raw, present⟩ := creates.exists_get? mapped
    obtain ⟨u, restored, there⟩ := back_of_get? stores (sound.field_mem_columns member mapped) converted present
    rw [there, Row.column_of_get? present, restored]
    exact ⟨fun taken same => taken (congrArg some (Except.ok.inj same)),
      fun taken same => taken (congrArg Except.ok (Option.some.inj same))⟩
  rw [← stores.convertRow_iff held creates.distinct]
  constructor
  · rintro ⟨back, converted, refreshed⟩
    exact ⟨⟨back, converted⟩, (taken_iff converted).mp refreshed⟩
  · rintro ⟨⟨back, converted⟩, accepts⟩
    exact ⟨back, converted, (taken_iff converted).mpr accepts⟩

namespace Run

/-- Once its row is stored, creating an instance ends well just if the row is read back and the instance takes it. -/
theorem createEntity_ok_iff {d d' : Driver} {document : Value} (hierarchy : m.isHierarchy = true)
    (given : w.entities[id]? = some x) (driven : w.drivers[m.driver]? = some d)
    (mapped : w.layout.mappingFor m x = .ok own) (stored : m.collection = some ref)
    (written : own.rowOf w.layout (w.layout.collections.get ref).name x true = .ok row)
    (made : d.create w.layout.collections (.str (w.layout.collections.get ref).name) row.toEntries =
      (.ok document, d')) :
    ((createEntity m (.object (.entity id name))).exec w).1 = .ok () ↔
      ∃ back, w.layout.convertRow m.schema .fromStore (w.layout.collections.get ref).name
          (Row.ofEntries document.entryList) = .ok back ∧ (Mapping.refresh back own.allFields x).2 = .ok () := by
  have created := exec_createDocument driven (.str (w.layout.collections.get ref).name) row.toEntries
  rw [made] at created
  unfold createEntity
  simp only [hierarchy, Bool.not_true, Bool.false_eq_true, if_false]
  rw [exec_bind_ok (exec_instanceOf given), exec_bind_ok (exec_get w), mapped, exec_bind_ok (exec_ofExcept _ w),
    exec_bind_ok (exec_found_some stored w), written, exec_bind_ok (exec_ofExcept _ w), exec_bind_ok created]
  cases w.layout.convertRow m.schema .fromStore (w.layout.collections.get ref).name
    (Row.ofEntries document.entryList) with
  | error e =>
    rw [exec_bind_error (exec_ofExcept _ _)]
    refine iff_of_false (fun ok => by cases ok) ?_
    rintro ⟨_, converted, -⟩
    cases converted
  | ok back =>
    rw [exec_bind_ok (exec_ofExcept _ _), setEntity, exec_bind_ok (exec_modify _ _)]
    cases last : (Mapping.refresh back own.allFields x).2 with
    | error e =>
      rw [exec_bind_error (exec_ofExcept _ _)]
      refine iff_of_false (fun ok => by cases ok) ?_
      rintro ⟨_, same, refreshed⟩
      cases same
      cases last.symm.trans refreshed
    | ok _ =>
      rw [exec_bind_ok (exec_ofExcept _ _), exec_note]
      exact iff_of_true rfl ⟨back, rfl, last⟩

/-- Creating an instance fails without a change to any row, or its row is added and all others stay; and then it
    fails just if a number of the row cannot be read or the instance does not take what was read. -/
theorem rows_of_create (declared : w.layout.Declared driver schema) (member : m ∈ w.layout.family ref)
    (driven : w.drivers[driver]? = some (.memory s evaluator))
    (known : ∀ other, s.shapes.get? ref.name = some other → other = ref)
    (done : (createEntity m v).exec w = (outcome, w')) :
    ∃ s', w'.drivers[driver]? = some (.memory s' evaluator) ∧
      ((s'.working = s.working ∧ ∃ e, outcome = .error e) ∨
        ∃ id name x own row, v = .object (.entity id name) ∧ w.entities[id]? = some x ∧
          w.layout.mappingFor m x = .ok own ∧ own.Creates (w.layout.collections.get ref) x row ∧
          s'.rows ref.name = s.rows ref.name ++ [row] ∧
          (∀ other, other ≠ ref.name → s'.rows other = s.rows other) ∧
          (outcome = .ok () ↔ w.layout.Legible ref row ∧ own.Accepts x row)) := by
  have sound := declared.sound
  obtain ⟨there, stored⟩ := Layout.mem_family.mp member
  obtain ⟨c, stores⟩ := sound.exists_stores member
  have own_driver := declared.driver_eq m there
  have own_schema := (sound.each m there).schema_eq
  have hierarchy := sound.isHierarchy there
  have driven_own : w.drivers[m.driver]? = some (.memory s evaluator) := own_driver.symm ▸ driven
  rcases createEntity_given hierarchy done with ⟨rfl, failed⟩ | ⟨id, name, x, rfl, given⟩
  · exact ⟨s, driven, .inl ⟨rfl, failed⟩⟩
  rcases createEntity_cases hierarchy given driven_own done with
    ⟨rfl, failed⟩ | ⟨own, ref', written, answer, d, entities, journal, mapped, stored', row_, made, rfl, finish⟩
  · exact ⟨s, driven, .inl ⟨rfl, failed⟩⟩
  cases stored.symm.trans stored'
  have inside := sound.family_below member (sound.mappingFor_cases mapped)
  have names : (w.layout.collections.get ref).name = ref.name := by rw [stores.get_eq, stores.name]
  rw [names] at row_ made finish
  obtain ⟨created, s', saved, same, rfl⟩ := Driver.create_cases made
  refine ⟨s', Workspace.driven_of_set driven (by rw [own_driver]), ?_⟩
  cases created with
  | error e =>
    obtain ⟨sequences, -, rfl⟩ := Store.create_failed saved
    refine .inl ⟨rfl, ?_⟩
    cases outcome with
    | error e => exact ⟨e, rfl⟩
    | ok _ =>
      obtain ⟨document, -, -, answered, -⟩ := finish rfl
      cases same.symm.trans answered
  | ok row =>
    cases same
    obtain ⟨other, provisioned⟩ := Store.exists_shape_of_create saved
    cases known other provisioned
    obtain ⟨creates, -, sequences, rfl⟩ := sound.creates_of_create inside stores provisioned row_ saved
    have convert (r : Row) : w.layout.convertRow m.schema .fromStore ref.name r = c.convertRow .fromStore r :=
      stores.convertRow_eq own_schema r
    have entries : Row.ofEntries row.toValue.entryList = row := Row.ofEntries_toEntries row
    have ends : ((createEntity m (.object (.entity id name))).exec w).1 = .ok () ↔ _ :=
      createEntity_ok_iff hierarchy given driven_own mapped stored (names.symm ▸ row_) (names.symm ▸ made)
    rw [done, names, convert, entries, sound.read_back_iff inside stores creates] at ends
    refine .inr ⟨id, name, x, own, row, rfl, given, mapped, stores.get_eq ▸ creates, ?_, fun other apart => ?_, ends⟩
    · rw [Store.rows_setRows, if_pos (beq_self_eq_true _)]
    · rw [Store.rows_setRows, if_neg (by simpa using apart)]
      rfl

end Run

/-! A diary whose pages are marked by a sequence: with a day, or with a number on pages that cannot be changed. -/

namespace Diary

def page (dated : Bool) : Model where
  name := "Page"
  lineage := ["Page"]
  validated := true
  attributes := [⟨"id", .int, false, none⟩, ⟨"mark", if dated then .date else .int, true, some .none⟩]
  frozen := !dated

def pages (dated : Bool) : Declaration where
  kind := .hierarchy
  model := (page dated).toValue
  driver := .object (.driver .memory 0)
  schema := .object (.schema 0)
  fields := .tuple
    [.dict [(.str "name", .str "id"), (.str "type", .str "integer"), (.str "primary_key", .bool true)],
     .dict [(.str "name", .str "mark"), (.str "type", .str (if dated then "date" else "integer")),
      (.str "sequence", .bool true)]]
  collection := .str "pages"

def layout (dated : Bool) : Layout :=
  ({ schemas := [{}] } : Layout).after [page dated] [Driver.ofEvaluator none] (pages dated)

def collection : CollectionRef := ⟨0, "pages"⟩

theorem declared (dated : Bool) : (layout dated).Declared 0 0 :=
  .after (.start rfl rfl) rfl (by cases dated <;> decide +kernel)

theorem mappings_ne_nil (dated : Bool) : (layout dated).mappings ≠ [] := by cases dated <;> decide +kernel

def top (dated : Bool) : Mapping := (layout dated).mappings.head (mappings_ne_nil dated)

theorem top_mem (dated : Bool) : top dated ∈ (layout dated).family collection :=
  Layout.mem_family.mpr ⟨List.head_mem (mappings_ne_nil dated), by cases dated <;> decide +kernel⟩

def blank (dated : Bool) : Entity where
  model := page dated
  attributes := [("id", .int 7), ("mark", .none)]

def store (rows : List Row) : Store :=
  (({ label := "InMemoryDriver" } : Store).ensureCollection collection).setRows collection.name rows

def opened (dated : Bool) (rows : List Row) : Workspace where
  layout := layout dated
  models := [page dated]
  drivers := [.memory (store rows) none]
  entities := [blank dated]

/-- Creating the page in a diary with given rows. -/
def creating (dated : Bool) (rows : List Row) : Except Error Unit × Workspace :=
  (createEntity (top dated) (.object (.entity 0 "Page"))).exec (opened dated rows)

/-- Whether the page is created in an empty diary, and the columns of the rows before and after that. -/
def trace (dated : Bool) : Bool × List (List String) × List (List String) :=
  ((creating dated []).1.toBool, ((opened dated []).table 0 collection.name).map Assoc.keys,
    ((creating dated []).2.table 0 collection.name).map Assoc.keys)

end Diary

namespace Run

/-- A page with the number of another one is refused, and the diary stays as it is. -/
theorem rows_of_create_page : ∃ s, (Diary.creating true [[("id", .int 7)]]).2.drivers[0]? = some (.memory s none) ∧
    s.working = (Diary.store [[("id", .int 7)]]).working ∧
    ∃ e, (Diary.creating true [[("id", .int 7)]]).1 = .error e := by
  have provisioned : (Diary.store [[("id", .int 7)]]).shapes.get? Diary.collection.name = some Diary.collection := by
    decide +kernel
  have known : ∀ other, (Diary.store [[("id", .int 7)]]).shapes.get? Diary.collection.name = some other →
      other = Diary.collection := fun other found => Option.some.inj (found.symm.trans provisioned)
  have done : (createEntity (Diary.top true) (.object (.entity 0 "Page"))).exec
      (Diary.opened true [[("id", .int 7)]]) =
        ((Diary.creating true [[("id", .int 7)]]).1, (Diary.creating true [[("id", .int 7)]]).2) := rfl
  obtain ⟨s, driven, kept | ⟨id, name, x, own, row, -, -, -, -, rows, -⟩⟩ :=
    rows_of_create (Diary.declared true) (Diary.top_mem true) rfl known done
  · exact ⟨s, driven, kept⟩
  · have single : ((Diary.creating true [[("id", .int 7)]]).2.table 0 Diary.collection.name).length = 1 := by
      decide +kernel
    rw [Workspace.table_eq driven, rows] at single
    simp [Diary.store, Diary.collection, Store.rows_setRows] at single

/-- A page that is marked by a day cannot be read back, and one that cannot be changed does not take its number; both
    are stored. -/
theorem not_rows_of_create : Diary.trace true = (false, [], [["id", "mark"]]) ∧
    Diary.trace false = (false, [], [["id", "mark"]]) := by
  decide +kernel

end Run

end ModelStore
