import ModelStore.Proofs.Value.Stored
import ModelStore.Proofs.Value.Transitivity
import ModelStore.Proofs.Workspace.Atomicity

/-!
Rows by their own keys. A row is found by the values of its key wherever it is, if none of them is missing; of rows
with a missing value the first one is found that has the same values; and a `nan` finds no row.
-/

namespace ModelStore

variable {w : Workspace} {driver : Nat} {s : Store} {cs : Catalog} {evaluator : Option Nat} {c : Collection}
  {ref : CollectionRef} {name : String} {row other r : Row} {key : Row} {rows others : List Row}
  {data : List (Value × Value)} {columns : List String}

theorem Value.beq_nan (v : Value) : (v == .float .nan) = false := by
  rw [beq_swap, beq_of_number? (v := .float .nan) rfl]
  cases v.number? with
  | none => rfl
  | some n => cases n <;> rfl

def Collection.keyColumns (c : Collection) : List String := c.primaryKey.map (·.name)

namespace Row

/-- The values that a row has in columns. -/
def keyed (columns : List String) (row : Row) : Row := columns.map fun k => (k, row.column k)

theorem carries_keyed :
    row.carries (other.keyed columns).toEntries = columns.all fun k => row.column k == other.column k := by
  rw [carries, keyed, toEntries, List.map_map, List.all_map]
  rfl

theorem keyed_ne_nil (given : columns ≠ []) : row.keyed columns ≠ [] := by
  rwa [keyed, Ne, List.map_eq_nil_iff]

end Row

namespace Store

theorem overlaid_written (declared : ∀ e ∈ data, ∃ f, c.getField e.1 = .ok f) (row : Row) :
    overlaid c row data = .ok (row.written data) := by
  induction data generalizing row with
  | nil => rfl
  | cons e data ih =>
    obtain ⟨⟨f, found⟩, rest⟩ := List.forall_mem_cons.mp declared
    rw [overlaid, found]
    change overlaid c (row.put f.name e.2) data = _
    rw [Collection.plainDisplay_of_getField found, ih rest]
    rfl

theorem checkUnique_of_free (free : ∀ k ∈ s.constraints c name, k.violated row others = false) :
    s.checkUnique c name row others = .ok () := by
  rw [checkUnique, List.find?_eq_none.mpr fun k member => by rw [free k member]; decide]

/-- Whether data may be written over a row that stands beside others. -/
def Admits (s : Store) (c : Collection) (name : String) (row : Row) (data : List (Value × Value))
    (others : List Row) : Prop :=
  (∀ e ∈ data, ∃ f, c.getField e.1 = .ok f) ∧ ∀ k ∈ s.constraints c name, k.violated (row.written data) others = false

variable {before after : List Row} {key : List (Value × Value)}

theorem save_admitted (shaped : s.shape cs (.str name) = .ok c)
    (found : locate name (s.rows name) key = .ok (before, row, after))
    (admits : s.Admits c name row data (before ++ after)) :
    s.save cs (.str name) key data = .ok (s.setRows name (before ++ row.written data :: after)) := by
  have plain : (Value.str name).plainDisplay = name := rfl
  simp only [save, plain, shaped, found, overlaid_written admits.1, checkUnique_of_free admits.2, Bind.bind,
    Except.bind]
  rfl

theorem save_refused (shaped : s.shape cs (.str name) = .ok c)
    (found : locate name (s.rows name) key = .ok (before, row, after))
    (refused : ¬ s.Admits c name row data (before ++ after)) : ∃ e, s.save cs (.str name) key data = .error e := by
  cases done : s.save cs (.str name) key data with
  | error e => exact ⟨e, rfl⟩
  | ok s' =>
    obtain ⟨c', front, row', back, updated, shaped', found', overlay, unique, -⟩ := save_parts done
    cases shaped.symm.trans shaped'
    cases found.symm.trans found'
    have declared := Write.declared_of_overlaid overlay
    cases written_of_overlaid overlay
    exact absurd ⟨declared, checkUnique_cases unique⟩ refused

theorem remove_located (shaped : s.shape cs (.str name) = .ok c)
    (found : locate name (s.rows name) key = .ok (before, row, after)) :
    s.remove cs (.str name) key = .ok (s.setRows name (before ++ after)) := by
  have plain : (Value.str name).plainDisplay = name := rfl
  simp only [remove, plain, shaped, found, Bind.bind, Except.bind, discard]
  rfl

theorem exists_first {i : Nat} (there : rows[i]? = some row) (same : row.carries key = true) :
    ∃ j ≤ i, ∃ before other after, rows = before ++ other :: after ∧ before.length = j ∧
      other.carries key = true ∧ ∀ x ∈ before, x.carries key = false := by
  induction rows generalizing i with
  | nil => cases there
  | cons x rows ih =>
    cases here : x.carries key with
    | true => exact ⟨0, Nat.zero_le i, [], x, rows, rfl, rfl, here, List.forall_mem_nil _⟩
    | false =>
      cases i with
      | zero =>
        cases there
        rw [here] at same
        cases same
      | succ i =>
        obtain ⟨j, bound, before, other, after, rfl, length, carried, none⟩ := ih there
        exact ⟨j + 1, Nat.succ_le_succ bound, x :: before, other, after, rfl, congrArg (· + 1) length, carried,
          List.forall_mem_cons.mpr ⟨here, none⟩⟩

/-- A row that carries the key values of another one in front of it has a value missing, as they are apart. -/
theorem missing_of_carries (apart : Apart columns other row)
    (carried : other.carries (row.keyed columns).toEntries = true) : ∃ k ∈ columns, row.column k = .none := by
  rw [Row.carries_keyed, List.all_eq_true] at carried
  obtain ⟨k, column, missing | missing⟩ := apart carried
  · have same := carried k column
    rw [missing, Value.none_beq] at same
    exact ⟨k, column, Value.isNone_iff.mp same⟩
  · exact ⟨k, column, missing⟩

end Store

namespace Run

open Store (Admits Apart Write)

/-- Saving and removing by a key act on the row at one place of a collection, and on nothing else. -/
structure ActsAt (driver : Nat) (evaluator : Option Nat) (w : Workspace) (s : Store) (c : Collection) (name : String)
    (key : List (Value × Value)) (i : Nat) : Prop where
  removes : ((Write.remove (.str name) key).perform driver).exec w =
    (.ok .none, w.withStore driver evaluator (s.setRows name ((s.rows name).eraseIdx i)))
  saves : ∀ row data, (s.rows name)[i]? = some row → s.Admits c name row data ((s.rows name).eraseIdx i) →
    ((Write.save (.str name) key data).perform driver).exec w =
      (.ok .none, w.withStore driver evaluator (s.setRows name ((s.rows name).set i (row.written data))))
  refuses : ∀ row data, (s.rows name)[i]? = some row → ¬ s.Admits c name row data ((s.rows name).eraseIdx i) →
    ∃ e, ((Write.save (.str name) key data).perform driver).exec w = (.error e, w)

theorem exec_perform_error {x : Write} {e : Error} (driven : w.drivers[driver]? = some (.memory s evaluator))
    (failed : x.run s w.layout.collections = (.error e, s)) : (x.perform driver).exec w = (.error e, w) := by
  rw [Write.exec_perform driven, failed, Workspace.withStore_self driven]

/-- By a key the first row is written or deleted that carries it. -/
theorem actsAt_of_locate {before after : List Row} {key : List (Value × Value)}
    (driven : w.drivers[driver]? = some (.memory s evaluator))
    (shaped : s.shape w.layout.collections (.str name) = .ok c)
    (found : Store.locate name (s.rows name) key = .ok (before, row, after)) :
    ActsAt driver evaluator w s c name key before.length := by
  have place := (Store.locate_cases found).1
  have here : (s.rows name)[before.length]? = some row := by
    rw [place, List.getElem?_append_right (Nat.le_refl _)]
    simp
  have others : (s.rows name).eraseIdx before.length = before ++ after := by rw [place, eraseIdx_middle]
  refine ⟨?_, fun row' data there admits => ?_, fun row' data there refused => ?_⟩
  · rw [Write.exec_perform driven, Write.run, Store.remove_located shaped found, others]
    rfl
  · cases here.symm.trans there
    rw [others] at admits
    rw [Write.exec_perform driven, Write.run, Store.save_admitted shaped found admits, place, set_middle]
    rfl
  · cases here.symm.trans there
    rw [others] at refused
    obtain ⟨e, failed⟩ := Store.save_refused shaped found refused
    exact ⟨e, exec_perform_error driven (by rw [Write.run, failed]; rfl)⟩

/-- By a key that no row carries nothing is written or deleted. -/
theorem exec_absent (driven : w.drivers[driver]? = some (.memory s evaluator))
    (shaped : s.shape w.layout.collections (.str name) = .ok c) (given : key ≠ [])
    (none : ∀ x ∈ s.rows name, x.carries key.toEntries = false) :
    ((Write.remove (.str name) key.toEntries).perform driver).exec w =
        (.error (.missing .document (.str (Store.keyText key.toEntries)) (some name) []), w) ∧
      ∀ data, ∃ e, ((Write.save (.str name) key.toEntries data).perform driver).exec w = (.error e, w) := by
  have plain : (Value.str name).plainDisplay = name := rfl
  have absent : Store.locate name (s.rows name) key.toEntries = _ := Store.locate_absent given none
  constructor
  · refine exec_perform_error driven ?_
    simp only [Write.run, Store.remove, plain, shaped, absent, Bind.bind, Except.bind, discard]
    rfl
  · intro data
    cases saved : s.save w.layout.collections (.str name) key.toEntries data with
    | error e => exact ⟨e, exec_perform_error driven (by rw [Write.run, saved]; rfl)⟩
    | ok s' =>
      obtain ⟨c', before, row, after, updated, -, found, -⟩ := Store.save_parts saved
      cases absent.symm.trans found

theorem layout_after (driven : w.drivers[driver]? = some (.memory s evaluator)) (steps : List Store.Step) :
    (after (steps.map (·.perform driver)) w).layout = w.layout := by
  induction steps generalizing w s with
  | nil => rfl
  | cons x steps ih =>
    have next := Workspace.driven_withStore driven (x.run s w.layout.collections).2
    rw [List.map_cons, after, List.foldl_cons, x.exec_perform driven]
    exact ih next

/-- What saving and removing do by the values that a row at a place has in its key. -/
structure Addressed (driver : Nat) (evaluator : Option Nat) (w : Workspace) (s : Store) (c : Collection)
    (name : String) (i : Nat) (row : Row) : Prop where
  own : (∀ k ∈ c.keyColumns, row.column k ≠ .none ∧ (row.column k == row.column k) = true) →
    ActsAt driver evaluator w s c name (row.keyed c.keyColumns).toEntries i
  first : (∀ k ∈ c.keyColumns, (row.column k == row.column k) = true) → ∃ j ≤ i,
    (∃ other, (s.rows name)[j]? = some other ∧ ∀ k ∈ c.keyColumns, (other.column k == row.column k) = true) ∧
    (∀ l < j, ∀ x, (s.rows name)[l]? = some x → ∃ k ∈ c.keyColumns, (x.column k == row.column k) = false) ∧
    ActsAt driver evaluator w s c name (row.keyed c.keyColumns).toEntries j
  nan : (∃ k ∈ c.keyColumns, row.column k = .float .nan) →
    (∃ e, ((Write.remove (.str name) (row.keyed c.keyColumns).toEntries).perform driver).exec w = (.error e, w)) ∧
    ∀ data, ∃ e,
      ((Write.save (.str name) (row.keyed c.keyColumns).toEntries data).perform driver).exec w = (.error e, w)

theorem exists_actsAt {i : Nat} (driven : w.drivers[driver]? = some (.memory s evaluator))
    (shaped : s.shape w.layout.collections (.str name) = .ok c) (keyed : c.keyColumns ≠ [])
    (distinct : (s.rows name).Pairwise (Apart c.keyColumns)) (there : (s.rows name)[i]? = some row)
    (same : ∀ k ∈ c.keyColumns, (row.column k == row.column k) = true) :
    ∃ j ≤ i, (∃ other, (s.rows name)[j]? = some other ∧ ∀ k ∈ c.keyColumns, (other.column k == row.column k) = true) ∧
      (∀ l < j, ∀ x, (s.rows name)[l]? = some x → ∃ k ∈ c.keyColumns, (x.column k == row.column k) = false) ∧
      ActsAt driver evaluator w s c name (row.keyed c.keyColumns).toEntries j ∧
      (j = i ∨ ∃ k ∈ c.keyColumns, row.column k = .none) := by
  have own : row.carries (row.keyed c.keyColumns).toEntries = true := by
    rwa [Row.carries_keyed, List.all_eq_true]
  obtain ⟨j, bound, before, other, after, place, length, carried, none⟩ := Store.exists_first there own
  have found : Store.locate name (s.rows name) (row.keyed c.keyColumns).toEntries = .ok (before, other, after) := by
    rw [place]
    exact Store.locate_middle (Row.keyed_ne_nil keyed) none carried
  have here : (s.rows name)[j]? = some other := by rw [place, ← length]; simp
  refine ⟨j, bound, ⟨other, here, ?_⟩, fun l less x front => ?_, length ▸ actsAt_of_locate driven shaped found, ?_⟩
  · rwa [Row.carries_keyed, List.all_eq_true] at carried
  · rw [place, List.getElem?_append_left (length ▸ less)] at front
    have differs := none x (List.mem_of_getElem? front)
    rw [Row.carries_keyed, List.all_eq_false] at differs
    obtain ⟨k, column, differs⟩ := differs
    exact ⟨k, column, Bool.eq_false_iff.mpr differs⟩
  · rcases Nat.lt_or_eq_of_le bound with less | same
    · -- two rows agree on the key, which they may do only if a value is missing
      obtain ⟨inside, there⟩ := List.getElem?_eq_some_iff.mp there
      obtain ⟨outside, here⟩ := List.getElem?_eq_some_iff.mp here
      have apart := List.pairwise_iff_getElem.mp distinct j i outside inside less
      rw [here, there] at apart
      exact .inr (Store.missing_of_carries apart carried)
    · exact .inl same

theorem addressed_of_distinct {i : Nat} (driven : w.drivers[driver]? = some (.memory s evaluator))
    (shaped : s.shape w.layout.collections (.str name) = .ok c) (keyed : c.keyColumns ≠ [])
    (distinct : (s.rows name).Pairwise (Apart c.keyColumns)) (there : (s.rows name)[i]? = some row) :
    Addressed driver evaluator w s c name i row where
  own := fun present => by
    obtain ⟨j, -, -, -, acts, rfl | ⟨k, column, missing⟩⟩ :=
      exists_actsAt driven shaped keyed distinct there fun k column => (present k column).2
    · exact acts
    · exact absurd missing (present k column).1
  first := fun same => by
    obtain ⟨j, bound, carries, first, acts, -⟩ := exists_actsAt driven shaped keyed distinct there same
    exact ⟨j, bound, carries, first, acts⟩
  nan := fun ⟨k, column, nan⟩ => by
    have none : ∀ x ∈ s.rows name, x.carries (row.keyed c.keyColumns).toEntries = false := fun x _ => by
      rw [Row.carries_keyed, List.all_eq_false]
      exact ⟨k, column, by rw [nan, Value.beq_nan]; decide⟩
    obtain ⟨removed, saved⟩ := exec_absent driven shaped (Row.keyed_ne_nil keyed) none
    exact ⟨⟨_, removed⟩, saved⟩

/-- In a collection whose primary key is known before its first row, a row is written and deleted by its own key
    wherever it stands, if none of its values is missing and each equals itself. If some are missing, the first row
    with the same values is; and none, if one of the values is a `nan`. -/
theorem row_addressable (driven : w.drivers[driver]? = some (.memory s evaluator))
    (known : s.shapes.get? name = some ref) (empty : s.rows name = [])
    (uncommitted : Store.rowsOf s.committed name = []) (keyed : (w.layout.collections.get ref).primaryKey ≠ [])
    (steps : List Store.Step) :
    ∃ s', (after (steps.map (·.perform driver)) w).drivers[driver]? = some (.memory s' evaluator) ∧
      ∀ i row, (s'.rows name)[i]? = some row → Addressed driver evaluator (after (steps.map (·.perform driver)) w) s'
        (w.layout.collections.get ref) name i row := by
  have start : Store.Related w.layout.collections ref name
      ⟨"primary key", (w.layout.collections.get ref).keyColumns⟩
      (Apart (w.layout.collections.get ref).keyColumns) s := by
    refine ⟨known, List.mem_append_left _ ?_, empty ▸ .nil, uncommitted ▸ .nil⟩
    rw [Store.primaryKeyConstraint, if_neg (by rwa [List.isEmpty_iff]), List.mem_singleton]
    rfl
  obtain ⟨s', driven', related⟩ := after_steps driven
    (fun _ _ => Store.Related.step fun _ _ apart => apart) start steps
  refine ⟨s', driven', fun i row there => addressed_of_distinct driven' ?_ ?_ related.working there⟩
  · rw [layout_after driven steps]
    exact Store.shape_of_get? related.known
  · rwa [Collection.keyColumns, Ne, List.map_eq_nil_iff]

end Run

/-! Badges, some of them without a number. -/

namespace Badges

def badges : Collection where
  name := "badges"
  fields :=
    [{ name := "number", type := .float, rawType := "REAL", converter := .float, primaryKey := true },
     { name := "holder", type := .string, rawType := "VARCHAR", converter := .string }]

def collection : CollectionRef := ⟨0, "badges"⟩

def empty : Store := ({ label := "InMemoryDriver" } : Store).ensureCollection collection

def opened : Workspace where
  layout := { collections := [badges] }
  drivers := [.memory empty none]

def issue (number : Value) (holder : String) : Store.Step :=
  .write (.create (.str "badges") [(.str "number", number), (.str "holder", .str holder)])

def after (steps : List Store.Step) : Workspace := Run.after (steps.map (·.perform 0)) opened

def listed (w : Workspace) : List Row := ((w.drivers[0]?.bind Driver.store?).map (·.rows "badges")).getD []

def holders (w : Workspace) : List (Option String) := (listed w).map fun row => (row.column "holder").text?

def issued : List Store.Step := [issue (.int 1) "ann", issue .none "bob", issue (.int 2) "cyd"]

/-- Deletes a badge by the values that it has in its key. -/
def withdraw (w : Workspace) (i : Nat) : Store.Step :=
  .write (.remove (.str "badges") ((((listed w)[i]?).getD []).keyed badges.keyColumns).toEntries)

end Badges

/-- The last of three badges is the one that is withdrawn by its number, one of the others has none. -/
theorem Run.row_addressable_badges :
    ∃ s row, (Badges.after Badges.issued).drivers[0]? = some (.memory s none) ∧
      (s.rows "badges")[2]? = some row ∧ (row.column "number" == .int 2) = true ∧
      ActsAt 0 none (Badges.after Badges.issued) s Badges.badges "badges" [(.str "number", row.column "number")] 2 := by
  have driven : Badges.opened.drivers[0]? = some (.memory Badges.empty none) := rfl
  have known : Badges.empty.shapes.get? "badges" = some Badges.collection := rfl
  obtain ⟨s, driven', addressed⟩ := row_addressable driven known rfl rfl (by decide) Badges.issued
  have numbers : (Badges.listed (Badges.after Badges.issued)).map (fun row => row.column "number" == .int 2) =
      [false, false, true] := by
    decide +kernel
  rw [Badges.listed, Badges.after, driven'] at numbers
  have last := congrArg (·[2]?) numbers
  simp only [List.getElem?_map] at last
  obtain ⟨row, there, second⟩ := Option.map_eq_some_iff.mp last
  refine ⟨s, row, driven', there, second, (addressed 2 row there).own fun k column => ?_⟩
  cases List.mem_singleton.mp column
  refine ⟨fun missing => ?_, Value.beq_of_beq_scalar rfl second second⟩
  rw [missing, Value.none_beq_int] at second
  cases second

/-- Of two badges without a number the first one is withdrawn by the key of the second one; and a badge whose
    number is a `nan` is not withdrawn at all. -/
theorem Run.not_row_addressable :
    (Badges.holders (Badges.after [Badges.issue .none "ann", Badges.issue .none "bob"]) =
        [some "ann", some "bob"] ∧
      Badges.holders (Badges.after [Badges.issue .none "ann", Badges.issue .none "bob",
        Badges.withdraw (Badges.after [Badges.issue .none "ann", Badges.issue .none "bob"]) 1]) = [some "bob"]) ∧
    Badges.holders (Badges.after [Badges.issue (.float .nan) "cyd"]) = [some "cyd"] ∧
      Badges.holders (Badges.after [Badges.issue (.float .nan) "cyd",
        Badges.withdraw (Badges.after [Badges.issue (.float .nan) "cyd"]) 0]) = [some "cyd"] := by
  decide +kernel

end ModelStore
