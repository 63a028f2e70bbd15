import ModelStore.Proofs.Mapping.Building
import ModelStore.Proofs.Mapping.Parsing
import ModelStore.Proofs.Store.Slicing

/-!
Options of a search. What part is asked for shows in the offset and the size of the query and nowhere else, so
that the same filter and the same order make the same query otherwise, or fail in the same way. A search for a part
comes to that part of the rows of the whole search.
-/

namespace ModelStore

namespace Filter

/-- Options that put what is found in an order. -/
def ordered (order : Value) : Value := .dict [(.str "order_by", order)]

/-- Options that ask for a part of what is found in an order. -/
def paged (skip : Nat) (limit : Option Int) (order : Value) : Value :=
  .dict [(.str "skip", .int skip), (.str "limit", .ofOption .int limit), (.str "order_by", order)]

/-- The check of the orders that options list. -/
def checkOrders (order : Value) : Checked (List OrderClause) :=
  (Check.elements OrderClause.check order).under "order_by"

variable {skip : Nat} {limit : Option Int} {order filter : Value}

theorem options_ordered :
    options (ordered order) = (fun os => { orderBy := os }) <$> (checkOrders order).orInvalid := by
  have checked : FindOptions.ofEntries (Row.toEntries [("order_by", order)]) =
      (fun skip limit orderBy _ => FindOptions.mk skip limit orderBy) <$> Checked.ok 0 <*> Checked.ok none <*>
        checkOrders order <*> Checked.ok () := by
    simp only [FindOptions.ofEntries, ModelStore.optional, Row.valueUnder?_toEntries]
    rfl
  show (FindOptions.ofEntries (Row.toEntries [("order_by", order)])).orInvalid = _
  rw [checked]
  cases checkOrders order <;> rfl

theorem options_paged (least : ∀ n ∈ limit, -1 ≤ n) :
    options (paged skip limit order) =
      (fun os => { skip, limit, orderBy := os }) <$> (checkOrders order).orInvalid := by
  let entries : Row := [("skip", .int skip), ("limit", .ofOption .int limit), ("order_by", order)]
  have natural : Check.natural (.int skip) = Checked.ok skip := by
    rw [Check.natural, Check.integerFrom, if_pos (Int.natCast_nonneg skip)]
    rfl
  have bounded : Check.nullable (Check.integerFrom (-1)) (.ofOption .int limit) = Checked.ok limit := by
    cases limit with
    | none => rfl
    | some n =>
      show some <$> Check.integerFrom (-1) (.int n) = _
      rw [Check.integerFrom, if_pos (least n rfl)]
      rfl
  have checked : FindOptions.ofEntries entries.toEntries =
      (fun skip limit orderBy _ => FindOptions.mk skip limit orderBy) <$> (Check.natural (.int skip)).under "skip" <*>
        (Check.nullable (Check.integerFrom (-1)) (.ofOption .int limit)).under "limit" <*>
        checkOrders order <*> Checked.ok () := by
    simp only [FindOptions.ofEntries, ModelStore.optional, Row.valueUnder?_toEntries]
    rfl
  show (FindOptions.ofEntries entries.toEntries).orInvalid = _
  rw [checked, natural, bounded]
  cases checkOrders order <;> rfl

/-- Options are put on what is read without any. -/
theorem read_options (fresh : Except Error Query) (filter : Value) (o : FindOptions) (t : Option Translator) :
    read fresh filter (.record (.options o)) t =
      (applyOptions · o) <$> read fresh filter (.record (.options {})) t := by
  have given : ∀ o, options (.record (.options o)) = .ok o := fun _ => rfl
  have twice : ∀ q : Query, applyOptions (applyOptions q {}) o = applyOptions q o := by
    intro q
    simp only [applyOptions, Option.getD_none, List.append_nil]
  simp only [read, given, Bind.bind, Except.bind, Pure.pure, Except.pure]
  split
  · rfl
  cases t with
  | none => rfl
  | some t =>
    cases fresh with
    | error e => rfl
    | ok q =>
      dsimp only
      cases expression t .none filter q.restart with
      | error e => rfl
      | ok r => exact congrArg Except.ok (twice r).symm

end Filter

namespace Mapping

variable {schema : Nat} {m : Mapping} {ref : CollectionRef} {q : Query} {skip : Nat} {limit : Option Int}
  {order filter : Value} {o : FindOptions} {os : List OrderClause}

theorem prepareOptions_ordered (prepared : m.prepareOptions (Filter.ordered order) = .ok o) :
    o = { orderBy := o.orderBy } := by
  rw [prepareOptions, Filter.options_ordered] at prepared
  obtain ⟨given, listed, prepared⟩ := Outcome.of_bind prepared
  obtain ⟨os, -, rfl⟩ := Outcome.of_map listed
  obtain ⟨names, -, prepared⟩ := Outcome.of_bind prepared
  cases prepared
  rfl

/-- Orders are checked and renamed in the same way whatever part is asked for. -/
theorem prepareOptions_paged (least : ∀ n ∈ limit, -1 ≤ n) :
    m.prepareOptions (Filter.paged skip limit order) =
      (fun o : FindOptions => { o with skip, limit }) <$> m.prepareOptions (Filter.ordered order) := by
  rw [prepareOptions, prepareOptions, Filter.options_paged least, Filter.options_ordered]
  cases (Filter.checkOrders order).orInvalid with
  | error e => rfl
  | ok os =>
    simp only [Functor.map, Except.map, Bind.bind, Except.bind]
    cases os.mapM fun c => m.storedName c.field <;> rfl

/-- The query that a filter is read into asks for what the options say. -/
theorem parse_asks (own : m.Sound schema) (parsed : m.parse ref filter o = .ok q) :
    q.offset = o.skip ∧ q.size = o.limit.getD (-1) ∧ q.orders = o.orderBy := by
  obtain ⟨-, cs, -, found, -⟩ := read_cases own parsed
  obtain ⟨branches, again, -⟩ := parse_of_clauses own ref o found
  have settled : m.parse ref filter o = m.parse ref (filterOf filter) o := by
    cases filter <;> rfl
  cases parsed.symm.trans (settled.trans again)
  exact ⟨rfl, rfl, rfl⟩

/-- What part is asked for is the offset and the size of a query that is read without. -/
theorem parse_paged (own : m.Sound schema) (skip : Nat) (limit : Option Int) (os : List OrderClause) :
    m.parse ref filter { skip, limit, orderBy := os } =
      (fun q : Query => { q with offset := skip, size := limit.getD (-1) }) <$>
        m.parse ref filter { orderBy := os } := by
  have plain : ∀ o, m.parse ref filter o = (Filter.applyOptions · o) <$> m.parse ref filter {} :=
    fun o => Filter.read_options _ _ o _
  rw [plain { skip, limit, orderBy := os }, plain { orderBy := os }]
  cases parsed : m.parse ref filter {} with
  | error e => rfl
  | ok q =>
    have size : q.size = -1 := (parse_asks own parsed).2.1
    refine congrArg Except.ok ?_
    simp only [Filter.applyOptions, size]

section Asking

variable {s : Store} {evaluator : Option Nat} {cs : Catalog} {e : Evaluator} {options : Value} {rows : List Row}

/-- The rows that a search through a mapping comes to. -/
def ask (m : Mapping) (ref : CollectionRef) (s : Store) (cs : Catalog) (e : Evaluator) (filter options : Value) :
    Except Error (List Row) := do
  let o ← m.prepareOptions options
  let q ← m.parse ref filter o
  s.select cs e q

theorem ask_cases (own : m.Sound schema) (asked : m.ask ref s cs e filter options = .ok rows) :
    ∃ o q, m.prepareOptions options = .ok o ∧ m.parse ref filter o = .ok q ∧ s.select cs e q = .ok rows ∧
      q.collection = ref ∧
      ∀ row ∈ rows, row ∈ s.rows ref.name ∧ e.satisfies row.columnOf (.and m.restrictions) = .ok true := by
  obtain ⟨o, prepared, asked⟩ := Outcome.of_bind asked
  obtain ⟨q, parsed, selected⟩ := Outcome.of_bind asked
  obtain ⟨stored, whole, clauses, root⟩ := parse_cases own parsed
  obtain ⟨found, part, satisfied, rfl⟩ := Store.select_cases selected
  refine ⟨o, q, prepared, parsed, selected, stored, fun row inside => ?_⟩
  rw [whole, List.map_congr_left fun row _ => Store.project_nil row, List.map_id'] at inside
  refine ⟨stored ▸ part.subset inside, ?_⟩
  have told := satisfied row inside
  rw [root, Evaluator.satisfies] at told
  rw [Evaluator.satisfies]
  exact Evaluator.satisfiesAll_of_append told

/-- The query for a part comes to that part of what the query for all comes to. -/
theorem parse_select (own : m.Sound schema) (skip : Nat) (limit : Option Int) (os : List OrderClause) :
    (do s.select cs e (← m.parse ref filter { skip, limit, orderBy := os })) =
      page skip limit <$> (do s.select cs e (← m.parse ref filter { orderBy := os })) := by
  rw [parse_paged own skip limit os]
  cases parsed : m.parse ref filter { orderBy := os } with
  | error x => rfl
  | ok q =>
    obtain ⟨offset, size, -⟩ := parse_asks own parsed
    exact Store.select_page offset size skip limit

theorem ask_paged (own : m.Sound schema) (least : ∀ n ∈ limit, -1 ≤ n) :
    m.ask ref s cs e filter (Filter.paged skip limit order) =
      page skip limit <$> m.ask ref s cs e filter (Filter.ordered order) := by
  rw [ask, ask, prepareOptions_paged least]
  cases prepared : m.prepareOptions (Filter.ordered order) with
  | error x => rfl
  | ok o =>
    rw [prepareOptions_ordered prepared]
    exact parse_select own skip limit o.orderBy

/-- The search for one instance comes to the first row of all. -/
theorem findOne_eq (own : m.Sound schema) :
    (do (Driver.memory s evaluator).findOne cs e (← m.parse ref filter { limit := some 1 })) =
      (fun rows => (rows.map (·.document ref.name)).head?) <$> m.ask ref s cs e filter .none := by
  have part : (do s.select cs e (← m.parse ref filter { limit := some 1 })) =
      page 0 (some 1) <$> m.ask ref s cs e filter .none := parse_select own 0 (some 1) []
  have first : ∀ rows : List Row, (page 0 (some 1) rows).head? = rows.head? := by
    intro rows
    cases rows <;> rfl
  have same : (fun rows : List Row => (rows.map (·.document ref.name)).head?) <$> m.ask ref s cs e filter .none =
      (fun rows : List Row => (rows.map (·.document ref.name)).head?) <$>
        (do s.select cs e (← m.parse ref filter { limit := some 1 })) := by
    simp only [part, Functor.map_map, List.head?_map, first]
  rw [same]
  cases parsed : m.parse ref filter { limit := some 1 } with
  | error x => rfl
  | ok q =>
    have stored := (parse_cases own parsed).1
    show List.head? <$> (List.map (·.document q.collection.name) <$> s.select cs e q) = _ <$> s.select cs e q
    rw [Functor.map_map, stored]

end Asking

end Mapping

end ModelStore
