import ModelStore.Proofs.Store.Ordering
import ModelStore.Proofs.Workspace.Listing

/-!
Finding documents through a memory driver. The cursor yields the documents that were found one by one,
and what is found is the rows that satisfy the condition, in the order of the query.
-/

namespace ModelStore

namespace Run

variable {w : Workspace} {id driver : Nat} {v : Value} {vs : List Value}

/-! A cursor over stored items yields them and nothing else. -/

theorem exec_reader_stored {closed : Bool} (known : w.cursors[id]? = some (.stored vs closed)) :
    (reader id).exec w = (.ok (.stored id), w) := by
  rw [reader, exec_bind_ok (exec_get w), exec_bind_ok (exec_found_some known w)]
  rfl

theorem exec_toList_stored (present : ∀ v ∈ vs, v.isNone = false)
    (known : w.cursors[id]? = some (.stored vs false)) : ((toList id).exec w).1 = .ok vs := by
  obtain ⟨log, outcome, w', done, all⟩ := Reader.exec_toList_takes (r := .stored id) trivial ⟨known, present⟩
  rw [toList, exec_bind_ok (exec_reader_stored known), done]
  cases outcome with
  | error e =>
    obtain ⟨v, rest, takes⟩ := all
    obtain ⟨w₁, w₂, made⟩ := takes.made ⟨v, .error e⟩ (List.mem_append_right _ (List.mem_singleton_self _))
    cases congrArg Prod.fst made
  | ok vs' =>
    obtain ⟨takes, made⟩ := all
    have handed := takes.handed_stored
    rw [← List.append_nil (log.map (·.item)), ← takes.taken, Taking.handed_of_made made] at handed
    rw [handed]

variable {s : Store} {evaluator : Option Nat} {q : Query} {ref : CollectionRef} {p : Row → Bool}

/-- A query without joins finds the rows that satisfy its condition, in its order: by the first key that
    tells two rows apart, missing values last, ties as they are stored. The first rows are skipped, no more
    than asked for are kept, and of each row the selected columns. -/
theorem find_documents (driven : w.drivers[driver]? = some (.memory s evaluator))
    (provisioned : s.shapes.get? q.collection.name = some ref) (joinless : q.joins = [])
    (told : ∀ row ∈ s.rows q.collection.name,
      (w.evaluatorOf (.memory s evaluator)).satisfies row.columnOf q.whereClause = .ok (p row))
    (declared : ∀ o ∈ q.orders, ∃ f, (w.layout.collections.get ref).getField (.str o.field) = .ok f)
    (total : ∀ o ∈ q.orders,
      Value.TotallyOrdered (Store.present o.field ((s.rows q.collection.name).filter p))) :
    ∃ sorted documents w', Store.Arranged q.orders ((s.rows q.collection.name).filter p) sorted ∧
      documents =
        (if 0 ≤ q.size then (sorted.drop q.offset).take q.size.toNat else sorted.drop q.offset).map
          (fun row => Row.document (row.filter fun e => q.fields = [] ∨ e.1 ∈ q.fields) q.collection.name) ∧
      (find driver q).exec w = (.ok (.cursor false w.cursors.length), w') ∧
      ((toList w.cursors.length).exec w').1 = .ok documents ∧
      ((findOne driver q).exec w).1 = .ok documents.head? := by
  have shaped : s.shape w.layout.collections (.str q.collection.name) = .ok (w.layout.collections.get ref) :=
    Store.shape_of_get? provisioned
  obtain ⟨sorted, arranged, selected⟩ := Store.select_arranged shaped joinless told declared total
  let documents := ((Store.slice q.offset q.size sorted).map (Store.project q.fields)).map
    (Row.document · q.collection.name)
  have found : Driver.find (.memory s evaluator) w.layout.collections (w.evaluatorOf (.memory s evaluator)) q =
      .ok documents := by
    simp only [Driver.find, Driver.store?, selected]
    rfl
  refine ⟨sorted, documents, { w with cursors := w.cursors ++ [.stored documents false] }, arranged,
    ?_, ?_, ?_, ?_⟩
  · have projected : ∀ row : Row,
        Store.project q.fields row = row.filter fun e => q.fields = [] ∨ e.1 ∈ q.fields := by
      intro row
      refine List.filter_congr fun e _ => ?_
      cases q.fields <;> simp
    simp only [documents, List.map_map, Store.slice]
    exact List.map_congr_left fun row _ => congrArg (Row.document · _) (projected row)
  · have opened := exec_findDocuments driven q
    rw [found] at opened
    rw [find, exec_bind_ok opened]
    rfl
  · apply exec_toList_stored
    · intro v member
      obtain ⟨row, -, rfl⟩ := List.mem_map.mp member
      rfl
    · exact List.getElem?_concat_length
  · rw [findOne, exec_bind_ok (exec_get w), exec_bind_ok (exec_driver driven), exec_ofExcept,
      Driver.findOne, found]
    rfl

end Run

/-! Runners of several classes, some without a class or a time. -/

namespace Runners

def runners : Collection where
  name := "runners"
  fields :=
    [{ name := "name", type := .string, rawType := "VARCHAR", converter := .string },
     { name := "class", type := .integer, rawType := "INTEGER", converter := .integer },
     { name := "time", type := .integer, rawType := "INTEGER", converter := .integer }]

def ref : CollectionRef := ⟨0, "runners"⟩

def rows : List Row :=
  [[("name", .str "a"), ("class", .int 2), ("time", .int 10)],
   [("name", .str "b"), ("class", .int 1), ("time", .none)],
   [("name", .str "x"), ("class", .int 0), ("time", .str "?")],
   [("name", .str "c"), ("class", .int 2), ("time", .int 30)],
   [("name", .str "d"), ("class", .int 1)],
   [("name", .str "e"), ("class", .int 2), ("time", .int 10)],
   [("name", .str "f"), ("time", .int 5)]]

def store : Store where
  label := "InMemoryDriver"
  shapes := [("runners", ref)]
  working := [("runners", rows)]

def workspace : Workspace where
  layout := { collections := [runners] }
  drivers := [.memory store none]

/-- All but one of the runners by class, the slowest of a class first; the first one is skipped. -/
def query : Query where
  collection := ref
  label := "InMemoryDriver"
  fields := ["name", "time"]
  branches := [{ children := [.leaf ⟨.neq, .str "name", .str "x"⟩] }]
  orders := [⟨"class", .ascending⟩, ⟨"time", .descending⟩]
  offset := 1
  size := 4

def isListed (row : Row) : Bool := !(row.column "name" == .str "x")

end Runners

theorem Run.find_runners :
    ∃ sorted documents w', Store.Arranged Runners.query.orders (Runners.rows.filter Runners.isListed) sorted ∧
      documents = ((sorted.drop 1).take 4).map
        (fun row => Row.document (row.filter fun e => e.1 ∈ ["name", "time"]) "runners") ∧
      (find 0 Runners.query).exec Runners.workspace = (.ok (.cursor false 0), w') ∧
      ((toList 0).exec w').1 = .ok documents ∧
      ((findOne 0 Runners.query).exec Runners.workspace).1 = .ok documents.head? := by
  have driven : Runners.workspace.drivers[0]? = some (.memory Runners.store none) := rfl
  have told : ∀ row ∈ Runners.store.rows "runners",
      (Runners.workspace.evaluatorOf (.memory Runners.store none)).satisfies row.columnOf
        Runners.query.whereClause = .ok (Runners.isListed row) := by
    intro row _
    have single : Runners.query.whereClause = .and [.comparison ⟨.neq, .str "name", .str "x"⟩] := rfl
    rw [single, Evaluator.satisfies, Evaluator.satisfiesAll_single, Evaluator.satisfies]
    rfl
  have declared : ∀ o ∈ Runners.query.orders, ∃ f, Runners.runners.getField (.str o.field) = .ok f := by
    intro o member
    simp only [Runners.query, List.mem_cons, List.not_mem_nil, or_false] at member
    rcases member with rfl | rfl <;> exact ⟨_, rfl⟩
  have listed : Runners.rows.filter Runners.isListed = Runners.rows.eraseIdx 2 := by
    simp [Runners.rows, Runners.isListed, Row.column, Assoc.get?, Value.str_beq_str]
  have classes : Store.present "class" (Runners.rows.eraseIdx 2) =
      [.int 2, .int 1, .int 2, .int 1, .int 2] := rfl
  have times : Store.present "time" (Runners.rows.eraseIdx 2) = [.int 10, .int 30, .int 10, .int 5] := rfl
  have total : ∀ o ∈ Runners.query.orders,
      Value.TotallyOrdered (Store.present o.field (Runners.rows.filter Runners.isListed)) := by
    rw [listed]
    intro o member
    apply Value.totallyOrdered_int
    simp only [Runners.query, List.mem_cons, List.not_mem_nil, or_false] at member
    rcases member with rfl | rfl
    · rw [classes]
      simp
    · rw [times]
      simp
  obtain ⟨sorted, documents, w', arranged, shown, done⟩ := find_documents driven rfl rfl told declared total
  refine ⟨sorted, documents, w', arranged, ?_, done⟩
  rw [shown]
  simp [Runners.query]
  rfl

/-- The names that are found, in their order. -/
example : (match Runners.store.select [Runners.runners] Evaluator.default Runners.query with
    | .ok rows => rows.map fun row => (row.column "name").quoted
    | .error _ => []) = ["'d'", "'c'", "'a'", "'e'"] := by
  decide +kernel

end ModelStore
