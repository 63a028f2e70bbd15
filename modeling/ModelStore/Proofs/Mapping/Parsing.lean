import ModelStore.Proofs.Mapping.Columns
import ModelStore.Proofs.Store.Selecting

/-!
Filters read through a mapping: the query is restricted to the discriminator values of the mapping, and
each comparison of an attribute is one of its stored field.
-/

namespace ModelStore

open Query (issueAll)

namespace Mapping

variable {l : Layout} {schema : Nat} {m : Mapping} {ref : CollectionRef} {f : MappingField} {q : Query}

/-- The comparison of an attribute as one of its stored field. -/
def storedLeaf (m : Mapping) : Filter.Leaf := fun ref o v => do
  let f ← m.fieldByRef ref
  let raw ← reportedUnder ref (operand ref f.conversion o v)
  Filter.plainLeaf (.str f.name) o raw

theorem operand_single {ref v : Value} {c : Converter} {o : Operator} (single : o.takesList = false)
    (plain : (o == .regex) = false) : operand ref c o v = Error.ofFault (c.toRaw v) := by
  unfold operand
  simp only [single, plain, Bool.false_eq_true, if_false]

theorem translate_faithful (m : Mapping) : Filter.Faithful m.translate m.storedLeaf := by
  intro q field o v ready
  simp only [translate, storedLeaf, Bind.bind, Except.bind]
  cases m.fieldByRef field with
  | error e => rfl
  | ok f =>
    dsimp only
    cases reportedUnder field (operand field f.conversion o v) with
    | error e => rfl
    | ok raw => exact Filter.unchanged_faithful q (.str f.name) o raw ready

theorem storedLeaf_eq {key v raw : Value} {o : Operator} (sound : l.Sound schema) (known : m ∈ l.mappings)
    (field : f ∈ m.allFields) (named : f.name.isEmpty = false) (text : key.text? = some f.ref)
    (comparison : o.isLogical = false) (stored : operand key f.conversion o v = .ok raw) :
    m.storedLeaf key o v = .ok ⟨o, .str f.name, Query.freezeValue raw⟩ := by
  have name : Query.isName (.str f.name) = true := by
    rw [Query.isName, Value.text?, Option.any_some, named]
    rfl
  have operator : Query.comparisonOperator (.operator o) = .ok o := by
    cases o with
    | and | or | not => cases comparison
    | _ => rfl
  simp only [storedLeaf, sound.fieldByRef_eq known (Layout.mem_allColumns_of_mem_allFields field) text, stored,
    reportedUnder, Filter.plainLeaf, name, if_true, operator, Bind.bind, Except.bind]
  rfl

/-- The condition that a mapping puts on the discriminator of an ancestor. -/
def restriction (m : Mapping) (a : Level) : Comparison where
  operator := .eq
  field := .ofOption .str a.discriminator
  value := .ofOption .str (a.discriminator.bind m.values.get?)

def restrictions (m : Mapping) : List Clause := m.ancestors.map fun a => .comparison (m.restriction a)

theorem restrict_eq (own : m.Sound schema) {a : Level} (above : a ∈ m.ancestors) (ready : Filter.Ready q) :
    m.restrict q a = q.append (m.restriction a) := by
  rcases own.extensible a above with ⟨k, open_⟩
  have link : a ∈ m.chain := List.mem_append_left _ above
  obtain ⟨raw, c, keeps, column⟩ := own.column a link
  have present := (own.valued k).mpr ⟨a, above, open_⟩
  rcases Assoc.exists_of_mem_keys present with ⟨v, given⟩
  have named : Query.isName (.str k) = true := by
    rw [Query.isName, Value.text?, Option.any_some, own.named a link k open_]
    rfl
  have leaf : Filter.plainLeaf (.str k) .eq (.str v) = .ok (m.restriction a) := by
    rw [Filter.plainLeaf, if_pos named, restriction, open_, Option.bind_some, given]
    rfl
  have added := Filter.unchanged_faithful q (.str k) .eq (.str v) ready
  rw [leaf] at added
  have stored : MappingField.conversion (textField raw c k) = c := rfl
  simp only [restrict, column, open_, Option.map_some, textField, given]
  rw [← textField, stored, Converter.toRaw_str keeps]
  exact added

theorem restrict_all (own : m.Sound schema) {as : List Level} (above : ∀ a ∈ as, a ∈ m.ancestors)
    (ready : Filter.Ready q) :
    as.foldlM m.restrict q = issueAll (as.map fun a => .comparison (m.restriction a)) q := by
  induction as generalizing q with
  | nil => rfl
  | cons a as ih =>
    have first := restrict_eq own (above a (List.mem_cons_self ..)) ready
    have regular : Clause.regularAll [.comparison (m.restriction a)] = true := rfl
    obtain ⟨r, entered, ready'⟩ := ready.issueAll regular
    have appended : q.append (m.restriction a) = .ok r := by
      rw [← entered]
      simp only [issueAll, Query.issue, Bind.bind, Except.bind]
      cases q.append (m.restriction a) <;> rfl
    rw [List.foldlM_cons, first, appended, List.map_cons, issueAll, Query.issue, appended]
    exact ih (fun b member => above b (List.mem_cons_of_mem _ member)) ready'

/-- The query of a mapping is the empty one with the restrictions to its discriminator values. -/
theorem createQuery_eq (own : m.Sound schema) (ref : CollectionRef) :
    ∃ branches, m.createQuery ref = .ok { collection := ref, label := ref.name, branches, stack := [0] } ∧
      Query.Spans branches 0 branches.length (.and m.restrictions) := by
  have tree : Query.Spans [{}] 0 1 (.and []) := .node rfl .nil rfl
  have regular : Clause.regularAll m.restrictions = true := by
    rw [restrictions]
    induction m.ancestors with
    | nil => rfl
    | cons a as ih => exact ih
  obtain ⟨r, entered, gained⟩ := Query.issueAll_gains m.restrictions
    (q := { collection := ref, label := ref.name, stack := [0] }) rfl Nat.zero_lt_one regular
  have all := restrict_all (q := { collection := ref, label := ref.name, stack := [0] }) own
    (fun a member => member) ⟨0, [], rfl, Nat.zero_lt_one⟩
  have created : m.createQuery ref = .ok r := all.trans entered
  rw [gained.frame] at created
  exact ⟨r.branches, created, (gained.whereClause tree).2⟩

theorem parse_of_clauses {filter : Value} {cs : List Clause} (own : m.Sound schema) (ref : CollectionRef)
    (o : FindOptions)
    (found : Filter.clauses m.storedLeaf .none filter = .ok cs) :
    ∃ branches, m.parse ref filter o =
        .ok { collection := ref, label := ref.name, branches, stack := [0], offset := o.skip
              size := o.limit.getD (-1), orders := o.orderBy } ∧
      Query.freezeBranch branches branches.length 0 = .and (m.restrictions ++ cs) := by
  obtain ⟨branches, created, tree⟩ := createQuery_eq own ref
  obtain ⟨r, read, frame, root⟩ := Filter.expression_of_clauses
    (q := { collection := ref, label := ref.name, branches, stack := [0] }) m.translate_faithful rfl tree
    found
  refine ⟨r.branches, ?_, root⟩
  cases filter with
  | dict es =>
    have restarted : ({ collection := ref, label := ref.name, branches, stack := [0] } : Query).restart =
        { collection := ref, label := ref.name, branches, stack := [0] } := rfl
    simp only [parse, filterOf, Value.isNone, Filter.read, Filter.isMapping, created, Filter.options,
      FindOptions.check, Checked.orInvalid, Checked.ok, Bind.bind, Except.bind, Pure.pure, Except.pure,
      restarted, Bool.false_eq_true, if_false, Bool.not_true, read]
    rw [frame]
    rfl
  | _ => cases found

/-- A query that a filter is read into has its clauses after the restrictions, and the orders of the options. -/
theorem read_cases {filter options : Value} (own : m.Sound schema)
    (accepted : Filter.read (m.createQuery ref) filter options (some m.translate) = .ok q) :
    ∃ o cs, Filter.options options = .ok o ∧ Filter.clauses m.storedLeaf .none filter = .ok cs ∧
      q.collection = ref ∧ q.fields = [] ∧ q.joins = [] ∧ q.orders = o.orderBy ∧
      q.whereClause = .and (m.restrictions ++ cs) := by
  obtain ⟨branches, created, tree⟩ := createQuery_eq own ref
  rw [created] at accepted
  obtain ⟨o, p, given, entered, rfl⟩ := Filter.read_cases accepted
  let fresh : Query := { collection := ref, label := ref.name, branches, stack := [0] }
  have ready : Filter.Ready fresh := ⟨0, [], rfl, tree.lt⟩
  cases found : Filter.clauses m.storedLeaf .none filter with
  | error e => cases (Filter.expression_error m.translate_faithful ready found).symm.trans entered
  | ok cs =>
    obtain ⟨r, read, frame, root⟩ := Filter.expression_of_clauses (q := fresh) m.translate_faithful rfl tree found
    cases read.symm.trans entered
    rw [frame]
    exact ⟨o, cs, given, rfl, rfl, rfl, rfl, rfl, frame ▸ root⟩

/-- Whatever a filter asks for, it comes after the restrictions. -/
theorem parse_cases {filter : Value} {o : FindOptions} (own : m.Sound schema)
    (parsed : m.parse ref filter o = .ok q) :
    q.collection = ref ∧ q.fields = [] ∧ ∃ cs, q.whereClause = .and (m.restrictions ++ cs) := by
  obtain ⟨-, cs, -, -, stored, whole, -, -, root⟩ := read_cases own parsed
  exact ⟨stored, whole, cs, root⟩

/-! The restrictions on rows. -/

/-- Whether a row has the discriminator values of a mapping. -/
def covers (m : Mapping) (row : Row) : Bool :=
  m.ancestors.all fun a => a.discriminator.all fun k =>
    row.column k == .ofOption .str (m.values.get? k)

theorem covers_iff (own : m.Sound schema) (row : Row) :
    m.covers row = true ↔ ∀ k v, m.values.get? k = some v → (row.column k == .str v) = true := by
  rw [covers, List.all_eq_true]
  refine ⟨fun all k v given => ?_, fun all a above => ?_⟩
  · have present : k ∈ m.values.keys := Assoc.mem_keys_of_get? given
    rcases (own.valued k).mp present with ⟨a, above, open_⟩
    have here := all a above
    rwa [open_, Option.all_some, given] at here
  · rcases own.extensible a above with ⟨k, open_⟩
    have present := (own.valued k).mpr ⟨a, above, open_⟩
    rcases Assoc.exists_of_mem_keys present with ⟨v, given⟩
    rw [open_, Option.all_some, given]
    exact all k v given

theorem restrictions_told {e : Evaluator} (own : m.Sound schema) (equal : e.Equates) (row : Row) :
    e.satisfiesAll row.columnOf m.restrictions = .ok (m.covers row) := by
  refine Evaluator.satisfiesAll_map fun a above => ?_
  rcases own.extensible a above with ⟨k, open_⟩
  rw [restriction, open_, Option.all_some, Option.bind_some]
  exact Evaluator.satisfies_eq equal row k _

section Uncovered

variable {e : Evaluator} {filter : Value} {o : FindOptions} {row : Row}

/-- A row that the mapping does not cover is refused, whatever the filter asks for. -/
theorem refused_of_parse (own : m.Sound schema) (equal : e.Equates) (parsed : m.parse ref filter o = .ok q)
    (outside : m.covers row = false) : e.satisfies row.columnOf q.whereClause = .ok false := by
  obtain ⟨-, -, cs, root⟩ := parse_cases own parsed
  have told := restrictions_told own equal row
  rw [outside] at told
  rw [root, Evaluator.satisfies]
  exact Evaluator.satisfiesAll_append (b := false) told fun inside => nomatch inside

/-- Of such a row nothing but the restrictions is tested. -/
theorem tested_of_parse (own : m.Sound schema) (equal : e.Equates) (parsed : m.parse ref filter o = .ok q)
    (outside : m.covers row = false) :
    e.tested row.columnOf q.whereClause = e.tested row.columnOf (.and m.restrictions) := by
  obtain ⟨-, -, cs, root⟩ := parse_cases own parsed
  have told := restrictions_told own equal row
  rw [outside] at told
  rw [root, Evaluator.tested, Evaluator.tested, Evaluator.testedAll_append told]

/-- The documents that a driver finds are rows that the mapping covers, each at most once. -/
theorem documents_of_parse {s : Store} {evaluator : Option Nat} {cs : Catalog} {documents : List Value}
    (own : m.Sound schema) (equal : e.Equates) (parsed : m.parse ref filter o = .ok q)
    (found : (Driver.memory s evaluator).find cs e q = .ok documents) :
    ∃ rows : List Row, rows.Subperm ((s.rows ref.name).filter m.covers) ∧
      documents = rows.map (·.document ref.name) := by
  obtain ⟨stored, whole, -⟩ := parse_cases own parsed
  obtain ⟨selected, made, rfl⟩ := Outcome.of_map found
  obtain ⟨rows, part, satisfied, rfl⟩ := Store.select_cases made
  -- what satisfies the condition is not refused, and so is covered
  have inside : ∀ row ∈ rows, m.covers row = true := by
    intro row member
    cases covered : m.covers row with
    | true => rfl
    | false =>
      have refused := refused_of_parse own equal parsed covered
      cases refused.symm.trans (satisfied row member)
  have all := part.filter m.covers
  rw [List.filter_eq_self.mpr inside, stored] at all
  rw [whole, List.map_congr_left fun row _ => Store.project_nil row, List.map_id', stored]
  exact ⟨rows, all, rfl⟩

end Uncovered

/-- If the clauses of a filter can be told of every row that the mapping covers, those of them are found
    that satisfy them. -/
theorem find_of_clauses {s : Store} (evaluator : Option Nat) {e : Evaluator} {filter : Value}
    {cs : List Clause} {p : Row → Bool} {o : FindOptions} (own : m.Sound schema) (equal : e.Equates)
    (provisioned : s.shapes.get? ref.name = some ref) (unordered : o.orderBy = [])
    (found : Filter.clauses m.storedLeaf .none filter = .ok cs)
    (told : ∀ row ∈ s.rows ref.name, m.covers row = true → e.satisfiesAll row.columnOf cs = .ok (p row)) :
    ∃ q, m.parse ref filter o = .ok q ∧ (Driver.memory s evaluator).find l.collections e q =
      .ok ((Store.slice o.skip (o.limit.getD (-1))
        ((s.rows ref.name).filter fun row => m.covers row && p row)).map (·.document ref.name)) := by
  obtain ⟨branches, parsed, frozen⟩ := parse_of_clauses own ref o found
  refine ⟨_, parsed, ?_⟩
  have selected : s.select l.collections e
      { collection := ref, label := ref.name, branches, stack := [0], offset := o.skip
        size := o.limit.getD (-1), orders := o.orderBy } =
      .ok (Store.slice o.skip (o.limit.getD (-1))
        ((s.rows ref.name).filter fun row => m.covers row && p row)) := by
    refine Store.select_eq (Store.shape_of_get? provisioned) rfl unordered rfl fun row member => ?_
    rw [Query.whereClause, frozen, Evaluator.satisfies]
    exact Evaluator.satisfiesAll_append (restrictions_told own equal row) (told row member)
  simp only [Driver.find, Driver.store?, selected]
  rfl

/-- A filter that asks for nothing finds all rows that the mapping covers. -/
theorem find_all {s : Store} (evaluator : Option Nat) {e : Evaluator} (own : m.Sound schema) (equal : e.Equates)
    (provisioned : s.shapes.get? ref.name = some ref) :
    ∃ q, m.parse ref (.dict []) {} = .ok q ∧ (Driver.memory s evaluator).find l.collections e q =
      .ok (((s.rows ref.name).filter m.covers).map (·.document ref.name)) := by
  have everything : Filter.clauses m.storedLeaf .none (.dict []) = .ok [] := rfl
  obtain ⟨q, parsed, found⟩ := find_of_clauses (l := l) (p := fun _ => true) (o := {}) evaluator own equal provisioned
    rfl everything fun _ _ _ => rfl
  have whole : Store.slice 0 (-1) ((s.rows ref.name).filter fun row => m.covers row && true) =
      (s.rows ref.name).filter m.covers := List.filter_congr fun _ _ => Bool.and_true _
  exact ⟨q, parsed, whole ▸ found⟩

end Mapping

end ModelStore
