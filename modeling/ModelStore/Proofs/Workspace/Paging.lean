import ModelStore.Proofs.Mapping.Options
import ModelStore.Proofs.Store.Answering
import ModelStore.Proofs.Workspace.Filtering
import ModelStore.Proofs.Workspace.Isolation

/-!
Pages of instances. What is found by parts is a part of what is found at once, and the first instance is the head of
all of them; requests that follow one another see the same store.
-/

namespace ModelStore

variable {w w' : Workspace} {m : Mapping} {ref : CollectionRef} {s : Store} {evaluator : Option Nat} {cs : Catalog}
  {e : Evaluator} {schema skip : Nat} {limit : Option Int} {filter options order : Value} {rows : List Row}
  {xs ys : List Entity} {x : Error}

/-- Whether a mapping can restore every row of a store that has its discriminator values. -/
def Mapping.Builds (m : Mapping) (l : Layout) (ref : CollectionRef) (s : Store) (e : Evaluator) : Prop :=
  ∀ row ∈ s.rows ref.name, e.satisfies row.columnOf (.and m.restrictions) = .ok true →
    ∃ x, l.restore m ref (row.document ref.name) = .ok x

/-- A mapping of a hierarchy that stores in a memory driver, and what it needs to be searched. -/
structure Workspace.Offers (w : Workspace) (m : Mapping) (ref : CollectionRef) (s : Store)
    (evaluator : Option Nat) : Prop where
  hierarchy : m.isHierarchy = true
  own : m.Sound m.schema
  collected : m.collection = some ref
  known : w.layout.mappings[m.id]? = some m
  driven : w.drivers[m.driver]? = some (.memory s evaluator)
  builds : m.Builds w.layout ref s (w.evaluatorOf (.memory s evaluator))

/-- The rows that a search in a workspace comes to. -/
def Workspace.ask (w : Workspace) (m : Mapping) (ref : CollectionRef) (s : Store) (evaluator : Option Nat)
    (filter options : Value) : Except Error (List Row) :=
  m.ask ref s w.layout.collections (w.evaluatorOf (.memory s evaluator)) filter options

theorem Workspace.Stays.evaluatorOf (stays : w.Stays w') (d : Driver) : w'.evaluatorOf d = w.evaluatorOf d := by
  unfold Workspace.evaluatorOf
  rw [stays.evaluators]

namespace Workspace.Offers

theorem stays (offers : w.Offers m ref s evaluator) (stays : w.Stays w') : w'.Offers m ref s evaluator where
  hierarchy := offers.hierarchy
  own := offers.own
  collected := offers.collected
  known := stays.layout ▸ offers.known
  driven := stays.drivers ▸ offers.driven
  builds := by
    rw [stays.layout, stays.evaluatorOf]
    exact offers.builds

theorem exists_restored (offers : w.Offers m ref s evaluator)
    (asked : w.ask m ref s evaluator filter options = .ok rows) :
    ∃ xs, Run.Restored w.layout m ref (rows.map (·.document ref.name)) xs := by
  obtain ⟨-, -, -, -, -, -, inside⟩ := Mapping.ask_cases offers.own asked
  refine Run.exists_restored fun row member => ?_
  obtain ⟨there, covered⟩ := inside row member
  exact offers.builds row there covered

end Workspace.Offers

namespace Run

/-- Lists the instances that a filter asks for. -/
def listInstances (m : Mapping) (filter options : Value) : Run (List Entity) := do
  match ← findEntities m filter options with
  | .object (.cursor _ id) => do
    let vs ← toList id
    found (vs.mapM (entityAt? (← get)))
  | _ => return []

/-- Lists so many pages of a size, each with a request of its own. -/
def listPages (m : Mapping) (filter order : Value) (size count : Nat) : Run (List (List Entity)) :=
  (List.range count).mapM fun i => listInstances m filter (Filter.paged (i * size) (some size) order)

/-- The first instance that a filter asks for, if there is one. -/
def firstInstance (m : Mapping) (filter : Value) : Run (Option Entity) := do
  match ← findEntity m filter with
  | .none => return none
  | v => some <$> found (entityAt? (← get) v)

theorem restored_unique {l : Layout} {documents : List Value} (first : Restored l m ref documents xs)
    (second : Restored l m ref documents ys) : xs = ys :=
  List.right_unique_forall₂' (fun _ _ _ a b => Except.ok.inj (a.2.symm.trans b.2)) first second

section Search

variable (hierarchy : m.isHierarchy = true) (collected : m.collection = some ref)
  (driven : w.drivers[m.driver]? = some (.memory s evaluator))

include hierarchy collected driven

/-- The instances that a listing hands out are those that the rows are restored as. -/
theorem exec_listed_rows (own : m.Sound m.schema) (known : w.layout.mappings[m.id]? = some m)
    (asked : w.ask m ref s evaluator filter options = .ok rows)
    (restored : Restored w.layout m ref (rows.map (·.document ref.name)) xs) :
    ∃ w', (listInstances m filter options).exec w = (.ok xs, w') ∧ w.Stays w' := by
  obtain ⟨o, q, prepared, parsed, selected, stored, -⟩ := Mapping.ask_cases own asked
  have documents : (Driver.memory s evaluator).find w.layout.collections (w.evaluatorOf (.memory s evaluator)) q =
      .ok (rows.map (·.document ref.name)) := by
    rw [← stored]
    exact congrArg (List.map _ <$> ·) selected
  obtain ⟨id, w₁, w₂, opened, listed, stays, entities⟩ :=
    exec_listed hierarchy collected known prepared parsed driven documents restored
  refine ⟨w₂, ?_, stays⟩
  rw [listInstances, exec_bind_ok opened]
  dsimp only
  rw [exec_bind_ok listed, exec_bind_ok (exec_get w₂)]
  exact exec_found_some (mapM_entityValues _ entities) w₂

theorem exec_findEntities_error (failed : w.ask m ref s evaluator filter options = .error x) :
    ∃ w', (findEntities m filter options).exec w = (.error x, w') := by
  unfold findEntities
  simp only [hierarchy, Bool.not_true, Bool.false_eq_true, if_false]
  rcases Outcome.error_of_bind failed with prepared | ⟨o, prepared, failed⟩
  · rw [prepared]
    exact ⟨w, exec_bind_error (exec_ofExcept _ w)⟩
  rw [prepared, exec_bind_ok (exec_ofExcept _ w)]
  rcases Outcome.error_of_bind failed with parsed | ⟨q, parsed, failed⟩
  · exact ⟨w, exec_bind_error (exec_parse_error collected parsed w)⟩
  rw [exec_bind_ok (exec_parse collected parsed w)]
  have missing : (Driver.memory s evaluator).find w.layout.collections (w.evaluatorOf (.memory s evaluator)) q =
      .error x := congrArg (List.map _ <$> ·) failed
  have documents : (findDocuments m.driver q).exec (noted w m q) = (.error x, noted w m q) :=
    (exec_findDocuments (w := noted w m q) driven q).trans (congrArg (·, noted w m q) missing)
  exact ⟨_, exec_bind_error (exec_bind_error documents)⟩

end Search

theorem exec_listInstances (offers : w.Offers m ref s evaluator)
    (asked : w.ask m ref s evaluator filter options = .ok rows) :
    ∃ xs w', (listInstances m filter options).exec w = (.ok xs, w') ∧ w.Stays w' ∧
      Restored w.layout m ref (rows.map (·.document ref.name)) xs := by
  obtain ⟨xs, restored⟩ := offers.exists_restored asked
  obtain ⟨w', listed, stays⟩ := exec_listed_rows offers.hierarchy offers.collected offers.driven offers.own
    offers.known asked restored
  exact ⟨xs, w', listed, stays, restored⟩

theorem exec_listInstances_error (offers : w.Offers m ref s evaluator)
    (failed : w.ask m ref s evaluator filter options = .error x) :
    ((listInstances m filter options).exec w).1 = .error x := by
  obtain ⟨w', stopped⟩ := exec_findEntities_error offers.hierarchy offers.collected offers.driven failed
  rw [listInstances, exec_bind_error stopped]

theorem listInstances_ok (offers : w.Offers m ref s evaluator)
    (listed : ((listInstances m filter options).exec w).1 = .ok xs) :
    ∃ rows, w.ask m ref s evaluator filter options = .ok rows ∧
      Restored w.layout m ref (rows.map (·.document ref.name)) xs := by
  cases asked : w.ask m ref s evaluator filter options with
  | error x => cases (exec_listInstances_error offers asked).symm.trans listed
  | ok rows =>
    obtain ⟨ys, w', done, -, restored⟩ := exec_listInstances offers asked
    rw [done] at listed
    cases listed
    exact ⟨rows, rfl, restored⟩

theorem listInstances_error (offers : w.Offers m ref s evaluator)
    (failed : ((listInstances m filter options).exec w).1 = .error x) :
    w.ask m ref s evaluator filter options = .error x := by
  cases asked : w.ask m ref s evaluator filter options with
  | error y =>
    cases (exec_listInstances_error offers asked).symm.trans failed
    rfl
  | ok rows =>
    obtain ⟨ys, w', done, -⟩ := exec_listInstances offers asked
    rw [done] at failed
    cases failed

/-- A part of the instances is found by asking for that part. -/
theorem exec_page (offers : w.Offers m ref s evaluator) (skip : Nat) (least : ∀ n ∈ limit, -1 ≤ n)
    (listed : ((listInstances m filter (Filter.ordered order)).exec w).1 = .ok xs) :
    ∃ w', (listInstances m filter (Filter.paged skip limit order)).exec w = (.ok (page skip limit xs), w') ∧
      w.Stays w' := by
  obtain ⟨rows, asked, restored⟩ := listInstances_ok offers listed
  have part : w.ask m ref s evaluator filter (Filter.paged skip limit order) = .ok (page skip limit rows) :=
    (Mapping.ask_paged offers.own least).trans (congrArg (page skip limit <$> ·) asked)
  obtain ⟨ys, w', done, stays, restored'⟩ := exec_listInstances offers part
  rw [← page_map] at restored'
  cases restored_unique restored' (forall₂_page restored)
  exact ⟨w', done, stays⟩

theorem listInstances_page (offers : w.Offers m ref s evaluator) (least : ∀ n ∈ limit, -1 ≤ n) :
    ((listInstances m filter (Filter.paged skip limit order)).exec w).1 =
      page skip limit <$> ((listInstances m filter (Filter.ordered order)).exec w).1 := by
  cases listed : ((listInstances m filter (Filter.ordered order)).exec w).1 with
  | ok xs =>
    obtain ⟨w', done, -⟩ := exec_page offers skip least listed
    rw [done]
    rfl
  | error x =>
    have asked := listInstances_error offers listed
    exact exec_listInstances_error offers
      ((Mapping.ask_paged offers.own least).trans (congrArg (page skip limit <$> ·) asked))

/-- What is left behind by other searches makes no difference. -/
theorem listInstances_stays (offers : w.Offers m ref s evaluator) (stays : w.Stays w') :
    ((listInstances m filter options).exec w').1 = ((listInstances m filter options).exec w).1 := by
  have same : w'.ask m ref s evaluator filter options = w.ask m ref s evaluator filter options := by
    rw [Workspace.ask, Workspace.ask, stays.layout, stays.evaluatorOf]
  cases asked : w.ask m ref s evaluator filter options with
  | error x =>
    rw [exec_listInstances_error offers asked, exec_listInstances_error (offers.stays stays) (same.trans asked)]
  | ok rows =>
    obtain ⟨xs, w₁, done, -, restored⟩ := exec_listInstances offers asked
    obtain ⟨ys, w₂, done', -, restored'⟩ := exec_listInstances (offers.stays stays) (same.trans asked)
    rw [stays.layout] at restored'
    rw [done, done', restored_unique restored restored']

/-- Requests that leave the store as it is answer as if each of them was the first. -/
theorem exec_requests {α β : Type} {f : α → Run β} {g : α → β}
    (each : ∀ w', w.Stays w' → ∀ a, ∃ w'', (f a).exec w' = (.ok (g a), w'') ∧ w'.Stays w'') (as : List α) :
    ∃ w', (as.mapM f).exec w = (.ok (as.map g), w') ∧ w.Stays w' := by
  induction as generalizing w with
  | nil => exact ⟨w, rfl, .refl w⟩
  | cons a as ih =>
    obtain ⟨w₁, first, stays⟩ := each w (.refl w) a
    obtain ⟨w₂, rest, stays'⟩ := ih fun w' later => each w' (stays.trans later)
    refine ⟨w₂, ?_, stays.trans stays'⟩
    rw [List.mapM_cons, exec_bind_ok first, exec_bind_ok rest]
    rfl

theorem exec_listPages (offers : w.Offers m ref s evaluator)
    (listed : ((listInstances m filter (Filter.ordered order)).exec w).1 = .ok xs) (size count : Nat) :
    ∃ w', (listPages m filter order size count).exec w =
      (.ok ((List.range count).map fun i => page (i * size) (some (size : Int)) xs), w') := by
  have each : ∀ w', w.Stays w' → ∀ i : Nat, ∃ w'',
      (listInstances m filter (Filter.paged (i * size) (some size) order)).exec w' =
        (.ok (page (i * size) (some (size : Int)) xs), w'') ∧ w'.Stays w'' := by
    intro w' stays i
    have least : ∀ n ∈ some (size : Int), -1 ≤ n := by
      rintro n ⟨⟩
      omega
    exact exec_page (offers.stays stays) (i * size) least ((listInstances_stays offers stays).trans listed)
  obtain ⟨w', done, -⟩ := exec_requests each (List.range count)
  exact ⟨w', done⟩

theorem firstInstance_eq (offers : w.Offers m ref s evaluator) :
    ((firstInstance m filter).exec w).1 = List.head? <$> ((listInstances m filter .none).exec w).1 := by
  let d := Driver.memory s evaluator
  have one : (do d.findOne w.layout.collections (w.evaluatorOf d) (← m.parse ref filter { limit := some 1 })) =
      (fun rows => (rows.map (·.document ref.name)).head?) <$> w.ask m ref s evaluator filter .none :=
    Mapping.findOne_eq offers.own
  cases asked : w.ask m ref s evaluator filter .none with
  | error x =>
    rw [asked] at one
    obtain ⟨w', stopped⟩ := exec_findEntity_error offers.hierarchy offers.collected offers.driven one
    rw [firstInstance, exec_bind_error stopped, exec_listInstances_error offers asked]
    rfl
  | ok rows =>
    obtain ⟨xs, w', listed, -, restored⟩ := exec_listInstances offers asked
    rw [asked] at one
    obtain ⟨q, parsed, found⟩ := Outcome.of_bind one
    rw [listed]
    cases rows with
    | nil =>
      cases restored
      rw [firstInstance, exec_bind_ok
        (exec_findEntity_none offers.hierarchy offers.collected parsed offers.driven found)]
      rfl
    | cons row rows =>
      cases restored with
      | cons first rest =>
        rename_i y ys
        have entity := exec_findEntity offers.hierarchy offers.collected parsed offers.driven found first.2
        have last : entityAt? { noted w m q with entities := w.entities ++ [y] }
            (.object (.entity w.entities.length y.model.name)) = some y := getElem?_middle w.entities [] y
        rw [firstInstance, exec_bind_ok entity]
        dsimp only
        rw [exec_bind_ok (exec_get _), exec_map, exec_found_some last]
        rfl

/-- The instances that are listed are those of the rows that satisfy the filter, in the order that is asked for. -/
theorem exists_listInstances {o : FindOptions} {q : Query} {found : List Row} (offers : w.Offers m ref s evaluator)
    (provisioned : s.shapes.get? ref.name = some ref) (prepared : m.prepareOptions (Filter.ordered order) = .ok o)
    (parsed : m.parse ref filter o = .ok q)
    (satisfied : Store.satisfying (w.evaluatorOf (.memory s evaluator)) q.whereClause (s.rows ref.name) = .ok found)
    (orderable : ∀ c ∈ o.orderBy, Store.Orderable (w.layout.collections.get ref) found c.field) :
    ∃ sorted xs, Store.sortRows (w.layout.collections.get ref) o.orderBy found = .ok sorted ∧
      Restored w.layout m ref (sorted.map (·.document ref.name)) xs ∧
      ((listInstances m filter (Filter.ordered order)).exec w).1 = .ok xs := by
  obtain ⟨offset, size, orders⟩ := Mapping.parse_asks offers.own parsed
  obtain ⟨-, -, -, -, stored, fields, joins, -, -⟩ := Mapping.read_cases offers.own parsed
  rw [← stored] at satisfied
  rw [← orders] at orderable ⊢
  have shaped : s.shape w.layout.collections (.str q.collection.name) = .ok (w.layout.collections.get ref) := by
    rw [stored]
    exact Store.shape_of_get? provisioned
  obtain ⟨sorted, arranged, selected⟩ := Store.exists_select_of_orderable shaped joins satisfied orderable
  have whole : (Store.slice q.offset q.size sorted).map (Store.project q.fields) = sorted := by
    rw [offset, size, Mapping.prepareOptions_ordered prepared, fields,
      List.map_congr_left fun row _ => Store.project_nil row, List.map_id']
    rfl
  have asked : w.ask m ref s evaluator filter (Filter.ordered order) = .ok sorted := by
    rw [Workspace.ask, Mapping.ask, prepared]
    show m.parse ref filter o >>= s.select _ _ = _
    rw [parsed]
    exact selected.trans (congrArg Except.ok whole)
  obtain ⟨xs, w', listed, -, restored⟩ := exec_listInstances offers asked
  exact ⟨sorted, xs, arranged, restored, congrArg Prod.fst listed⟩

/-- Pages are parts of all instances: a search for a part finds that part, or fails as the search for all does; pages
    of one size make up the whole; and the search for one instance finds the first of all. If the filter can be told of
    the rows and the columns to sort by have values that can be compared, then all are those of the sorted rows. -/
theorem list_by_pages (grown : w.Grown) (member : m ∈ w.layout.mappings) (hierarchy : m.isHierarchy = true)
    (collected : m.collection = some ref) (driven : w.drivers[m.driver]? = some (.memory s evaluator))
    (builds : m.Builds w.layout ref s (w.evaluatorOf (.memory s evaluator))) (filter : Value) :
    (∀ order skip limit, (∀ n ∈ limit, -1 ≤ n) →
      ((listInstances m filter (Filter.paged skip limit order)).exec w).1 =
        page skip limit <$> ((listInstances m filter (Filter.ordered order)).exec w).1) ∧
    (∀ order full, ((listInstances m filter (Filter.ordered order)).exec w).1 = .ok full → ∀ size count,
      ∃ pages, ((listPages m filter order size count).exec w).1 = .ok pages ∧
        pages.flatten = full.take (count * size) ∧ (0 < size → full.length ≤ count → pages.flatten = full)) ∧
    ((firstInstance m filter).exec w).1 = List.head? <$> ((listInstances m filter .none).exec w).1 ∧
    ∀ order o q found, s.shapes.get? ref.name = some ref → m.prepareOptions (Filter.ordered order) = .ok o →
      m.parse ref filter o = .ok q →
      Store.satisfying (w.evaluatorOf (.memory s evaluator)) q.whereClause (s.rows ref.name) = .ok found →
      (∀ c ∈ o.orderBy, Store.Orderable (w.layout.collections.get ref) found c.field) →
      ∃ sorted full, Store.sortRows (w.layout.collections.get ref) o.orderBy found = .ok sorted ∧
        Restored w.layout m ref (sorted.map (·.document ref.name)) full ∧
        ((listInstances m filter (Filter.ordered order)).exec w).1 = .ok full := by
  have own := (grown.sound m member (beq_iff_eq.mp hierarchy)).1
  have offers : w.Offers m ref s evaluator :=
    ⟨hierarchy, own, collected, grown.getElem?_id member, driven, builds⟩
  refine ⟨fun order skip limit least => listInstances_page offers least, fun order full listed size count => ?_,
    firstInstance_eq offers, fun order o q found provisioned prepared parsed satisfied orderable =>
      exists_listInstances offers provisioned prepared parsed satisfied orderable⟩
  obtain ⟨w', done⟩ := exec_listPages offers listed size count
  refine ⟨_, congrArg Prod.fst done, flatten_pages size full count, fun positive enough => ?_⟩
  rw [flatten_pages]
  exact List.take_of_length_le (enough.trans (Nat.le_mul_of_pos_right count positive))

end Run

/-- Whether a row is restored if it has the discriminator values of a mapping. -/
def Mapping.buildsRow (m : Mapping) (l : Layout) (ref : CollectionRef) (e : Evaluator) (row : Row) : Bool :=
  match e.satisfies row.columnOf (.and m.restrictions) with
  | .ok true => (l.restore m ref (row.document ref.name)).toBool
  | _ => true

theorem Mapping.builds_of_rows {l : Layout} (checked : (s.rows ref.name).all (m.buildsRow l ref e) = true) :
    m.Builds l ref s e := by
  intro row member covered
  have built := List.all_eq_true.mp checked row member
  rw [buildsRow, covered] at built
  cases restored : l.restore m ref (row.document ref.name) with
  | error x =>
    rw [restored] at built
    cases built
  | ok y => exact ⟨y, rfl⟩

namespace Fleet

/-- By the number of doors. -/
def doors : Value := .list [.dict [(.str "field", .str "doors")]]

/-- Whether the vehicles that a mapping finds can be sorted by numbers. -/
def sortsNumbers (m : Mapping) (filter order : Value) : Bool :=
  (m.prepareOptions (Filter.ordered order)).toOption.any fun o =>
    (m.parse ⟨0, "vehicle"⟩ filter o).toOption.any fun q =>
      (Store.satisfying Evaluator.default q.whereClause ((lot (.str "many")).rows "vehicle")).toOption.any fun found =>
        o.orderBy.all fun c => ((parked.layout.collections.get ⟨0, "vehicle"⟩).getField (.str c.field)).toBool &&
          found.all fun row => Kind.number.admits (row.column c.field)

theorem exists_sorted {m : Mapping} {filter order : Value} (sorts : sortsNumbers m filter order = true) :
    ∃ o q found, m.prepareOptions (Filter.ordered order) = .ok o ∧ m.parse ⟨0, "vehicle"⟩ filter o = .ok q ∧
      Store.satisfying Evaluator.default q.whereClause ((lot (.str "many")).rows "vehicle") = .ok found ∧
      ∀ c ∈ o.orderBy, Store.Orderable (parked.layout.collections.get ⟨0, "vehicle"⟩) found c.field := by
  obtain ⟨o, prepared, sorts⟩ := (Option.any_eq_true ..).mp sorts
  obtain ⟨q, parsed, sorts⟩ := (Option.any_eq_true ..).mp sorts
  obtain ⟨found, satisfied, sorts⟩ := (Option.any_eq_true ..).mp sorts
  refine ⟨o, q, found, Outcome.of_toOption prepared, Outcome.of_toOption parsed, Outcome.of_toOption satisfied,
    fun c member => ?_⟩
  have each := List.all_eq_true.mp sorts c member
  rw [Bool.and_eq_true, List.all_eq_true] at each
  obtain ⟨declared, numbers⟩ := each
  refine Store.Sortable.orderable ⟨?_, .number, fun row inside => .inr (numbers row inside)⟩
  cases given : (parked.layout.collections.get ⟨0, "vehicle"⟩).getField (.str c.field) with
  | error x =>
    rw [given] at declared
    cases declared
  | ok f => exact ⟨f, rfl⟩

end Fleet

/-- The cars of a fleet, which also has a truck that is no car: both in the order of their doors, the second of them,
    both in pages of one, and the first one in the order in which they are stored. -/
theorem Run.list_by_pages_cars : ∃ m, ∃ sorted : List Row, ∃ full, Fleet.parked.layout.mappings[1]? = some m ∧
    Restored Fleet.parked.layout m ⟨0, "vehicle"⟩ (sorted.map (·.document "vehicle")) full ∧
    ((listInstances m Fleet.wide (Filter.ordered Fleet.doors)).exec Fleet.parked).1 = .ok full ∧ full.length = 2 ∧
    ((listInstances m Fleet.wide (Filter.paged 1 (some 5) Fleet.doors)).exec Fleet.parked).1 = .ok (full.drop 1) ∧
    (∃ pages, ((listPages m Fleet.wide Fleet.doors 1 2).exec Fleet.parked).1 = .ok pages ∧ pages.flatten = full) ∧
    ((firstInstance m Fleet.wide).exec Fleet.parked).1 =
      List.head? <$> ((listInstances m Fleet.wide .none).exec Fleet.parked).1 := by
  let stored := Fleet.lot (.str "many")
  have there : (Fleet.parked.layout.mappings[1]?).isSome = true := by decide +kernel
  obtain ⟨m, found⟩ := Option.isSome_iff_exists.mp there
  have facts : (Fleet.parked.layout.mappings[1]?).all (fun m => m.isHierarchy && m.driver == 0 &&
      m.collection == some ⟨0, "vehicle"⟩ && Fleet.sortsNumbers m Fleet.wide Fleet.doors) = true := by
    decide +kernel
  have built : (Fleet.parked.layout.mappings[1]?).all (fun m => (stored.rows "vehicle").all
      (m.buildsRow Fleet.parked.layout ⟨0, "vehicle"⟩ Evaluator.default)) = true := by
    decide +kernel
  have two : (Fleet.parked.layout.mappings[1]?).all (fun m =>
      ((listInstances m Fleet.wide (Filter.ordered Fleet.doors)).exec Fleet.parked).1.toOption.map
        (·.length) == some 2) = true := by
    decide +kernel
  rw [found, Option.all_some] at facts built two
  simp only [Bool.and_eq_true, beq_iff_eq] at facts two
  obtain ⟨⟨⟨hierarchy, driver⟩, collected⟩, sorts⟩ := facts
  have driven : Fleet.parked.drivers[m.driver]? = some (.memory stored none) := by
    rw [driver]
    rfl
  obtain ⟨parts, pages, first, answers⟩ := list_by_pages Fleet.parked_grown (List.mem_of_getElem? found) hierarchy
    collected driven (Mapping.builds_of_rows built) Fleet.wide
  obtain ⟨o, q, rows, prepared, parsed, satisfied, orderable⟩ := Fleet.exists_sorted sorts
  obtain ⟨sorted, full, -, restored, listed⟩ := answers Fleet.doors o q rows rfl prepared parsed satisfied orderable
  rw [listed] at two
  have length : full.length = 2 := Option.some.inj two
  refine ⟨m, sorted, full, found, restored, listed, length, ?_, ?_, first⟩
  · obtain ⟨a, b, rfl⟩ := List.length_eq_two.mp length
    rw [parts Fleet.doors 1 (some 5) (by decide), listed]
    rfl
  · obtain ⟨pages, done, -, whole⟩ := pages Fleet.doors full listed 1 2
    exact ⟨pages, done, whole Nat.one_pos length.le⟩

end ModelStore
