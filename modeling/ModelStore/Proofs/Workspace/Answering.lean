import ModelStore.Proofs.Filter.Comparisons
import ModelStore.Proofs.Store.Answering
import ModelStore.Proofs.Workspace.Calls
import ModelStore.Proofs.Workspace.Filled
import ModelStore.Proofs.Workspace.Filtering

/-!
Searches that are answered. A filter that a mapping reads never fails on the rows that are written through its
hierarchy, if it asks for an order only with a value, and of a column whose values are of one kind.
-/

namespace ModelStore

variable {l : Layout} {driver schema : Nat} {ref : CollectionRef} {c : Collection} {m : Mapping} {f : MappingField}
  {p : MappingField → Value → Prop} {e : Evaluator} {row : Row} {k : Kind} {o : Operator} {key v raw : Value}
  {made : Comparison}

theorem MappingField.Holds.suits {p : Value → Prop} (holds : f.Holds p raw) (kind : f.kind? = some k) :
    raw.Suits k := by
  obtain ⟨own, single⟩ := Option.filter_eq_some_iff.mp kind
  cases holds with
  | stored given stored => exact Value.suits_of_toRaw own stored
  | marked keeps =>
    right
    cases conversion : f.conversion <;> rw [conversion] at keeps own <;> cases keeps <;> cases own
    rfl
  | numbered sequence =>
    right
    rw [sequence] at single
    cases k with
    | number => rfl
    | text => cases single

namespace Mapping

/-- Whether a comparison of an attribute can be made whatever its column holds: it searches for no pattern, and
    an order is asked for only with a value, and of a column whose values are of one kind. -/
def Comparable (m : Mapping) (key : Value) (o : Operator) (v : Value) : Prop :=
  o ≠ .regex ∧ (Comparator.isOrdering o = true →
    v.isNone = false ∧ ∀ f, m.fieldByRef key = .ok f → f.kind?.isSome = true)

theorem storedLeaf_cases (done : m.storedLeaf key o v = .ok made) :
    ∃ f raw, m.fieldByRef key = .ok f ∧ operand key f.conversion o v = .ok raw ∧ o ∈ Operator.comparisons ∧
      made = ⟨o, .str f.name, Query.freezeValue raw⟩ := by
  obtain ⟨f, found, rest⟩ := Outcome.of_bind done
  obtain ⟨raw, stored, leaf⟩ := Outcome.of_bind rest
  obtain ⟨-, comparison, same⟩ := Filter.plainLeaf_cases leaf
  refine ⟨f, raw, found, ?_, comparison, same⟩
  cases operated : operand key f.conversion o v with
  | ok raw' =>
    rw [operated] at stored
    exact stored
  | error e =>
    rw [operated] at stored
    unfold reportedUnder at stored
    split at stored
    · split at stored <;> cases stored
    · cases stored

theorem tuple_of_operand {c : Converter} (listed : o.takesList = true) (stored : operand key c o v = .ok raw) :
    ∃ vs, Query.freezeValue raw = .tuple vs := by
  unfold operand at stored
  rw [if_pos listed] at stored
  cases v with
  | list vs | tuple vs | set vs | frozenset vs =>
    obtain ⟨raws, -, rfl⟩ := Outcome.of_map stored
    exact ⟨raws, rfl⟩
  | _ => cases stored

theorem admits_of_operand {c : Converter} (kind : c.kind? = some k) (given : v.isNone = false)
    (ordering : Comparator.isOrdering o = true) (stored : operand key c o v = .ok raw) :
    k.admits (Query.freezeValue raw) = true := by
  have single : o.takesList = false := by cases o <;> first | rfl | cases ordering
  have plain : (o == .regex) = false := by cases o <;> first | rfl | cases ordering
  rw [operand_single single plain] at stored
  have converted := Outcome.of_fault stored
  have present := (Converter.isNone_of_toRaw converted).trans given
  have admits := (Value.suits_of_toRaw kind converted).resolve_left (by simp [present])
  rwa [Value.freeze_of_admits admits]

end Mapping

namespace Layout

theorem Held.column_suits (held : l.Held ref p row) (stores : l.Stores schema ref c) (column : f ∈ l.columns ref)
    (kind : f.kind? = some k) : (row.column f.name).Suits k := by
  cases found : row.get? f.name with
  | none => exact .inl (Row.isNone_column_of_get?_eq_none found)
  | some raw =>
    obtain ⟨g, other, name, holds⟩ := held f.name raw found
    cases stores.eq_of_name other column name
    rw [Row.column_of_get? found]
    exact holds.suits kind

/-- A comparison that a mapping makes can be told of every row of its collection. -/
theorem Held.comparison_told (sound : l.Sound schema) (member : m ∈ l.family ref) (stores : l.Stores schema ref c)
    (standard : e.Standard) (held : l.Held ref p row) (comparable : m.Comparable key o v)
    (done : m.storedLeaf key o v = .ok made) : ∃ b, e.satisfies row.columnOf (.comparison made) = .ok b := by
  obtain ⟨plain, ordered⟩ := comparable
  obtain ⟨f, raw, found, stored, comparison, rfl⟩ := Mapping.storedLeaf_cases done
  have column := sound.mem_columns member ((sound.each m (mem_family.mp member).1).fieldByRef_cases found).1
  have asked : e.satisfies row.columnOf (.comparison ⟨o, .str f.name, Query.freezeValue raw⟩) =
      e.compare (.operator o) (row.column f.name) (Query.freezeValue raw) := by
    rw [Evaluator.satisfies]
    rfl
  rw [asked, standard o comparison plain]
  refine Evaluator.exists_compare comparison plain (fun listed => Mapping.tuple_of_operand listed stored) ?_
  intro ordering
  obtain ⟨given, kinds⟩ := ordered ordering
  obtain ⟨k, kind⟩ := Option.isSome_iff_exists.mp (kinds f found)
  exact ⟨k, held.column_suits stores column kind,
    Mapping.admits_of_operand (Option.filter_eq_some_iff.mp kind).1 given ordering stored⟩

theorem Held.filter_told {filter options : Value} {q : Query} (sound : l.Sound schema) (member : m ∈ l.family ref)
    (stores : l.Stores schema ref c) (standard : e.Standard) (held : l.Held ref p row)
    (comparable : ∀ key o v, Filter.Compares .none filter key o v → m.Comparable key o v)
    (accepted : Filter.read (m.createQuery ref) filter options (some m.translate) = .ok q) :
    ∃ b, e.satisfies row.columnOf q.whereClause = .ok b := by
  have own := sound.each m (mem_family.mp member).1
  obtain ⟨-, cs, -, found, -, -, -, -, root⟩ := Mapping.read_cases own accepted
  have made := ((Filter.Tried.everywhere m.storedLeaf filter).whole .none).origin cs found
  have each : ∀ d ∈ cs, ∃ b, e.satisfies row.columnOf d = .ok b := by
    intro d inside
    refine Evaluator.satisfies_told ((made d inside).imp fun made ⟨key, o, v, asked, done⟩ => ?_)
    exact held.comparison_told sound member stores standard (comparable key o v asked) done
  obtain ⟨b, told⟩ := Evaluator.satisfiesAll_told each
  rw [root, Evaluator.satisfies]
  exact ⟨_, Evaluator.satisfiesAll_append (Mapping.restrictions_told own standard.equates row) fun _ => told⟩

end Layout

namespace Zoo

open Run

def withCat : Workspace :=
  ((createEntity (top false true) (.object (.entity 0 "Cat"))).exec
    (opened false true none [whiskers 1 "Tom", rex dog 2 .none])).2

def withDog : Workspace := ((createEntity (top false true) (.object (.entity 1 "Dog"))).exec withCat).2

theorem withCat_filled : withCat.layout = layout false true ∧
    withCat.Filled (fun _ _ => True) 0 0 collection :=
  (Workspace.Filled.start (declared false true) (top_mem false true) rfl rfl rfl rfl).created (top_mem false true)
    fun _ _ _ _ _ _ _ => trivial

theorem withDog_filled : withDog.layout = layout false true ∧ withDog.Filled (fun _ _ => True) 0 0 collection := by
  obtain ⟨layout, filled⟩ := withCat_filled
  have member := top_mem false true
  rw [← layout] at member
  have created := filled.created member (v := .object (.entity 1 "Dog")) fun _ _ _ _ _ _ _ => trivial
  exact ⟨created.1.trans layout, created.2⟩

def below (name : String) (v : Value) : Value := .dict [(.str name, .dict [(.str "$lt", v)])]

def isUnordered : Except Error Handle → Bool
  | .error (.fault (.unordered "<" "int" "NoneType")) => true
  | _ => false

theorem eq_of_isUnordered {answer : Except Error Handle} (failed : isUnordered answer = true) :
    answer = .error (.fault (.unordered "<" "int" "NoneType")) := by
  unfold isUnordered at failed
  split at failed
  · rfl
  · cases failed

theorem compares_below {name : String} {v u : Value} (field : Filter.role (.str name) = .field) :
    Filter.Compares .none (below name v) key o u ↔ key = .str name ∧ o = .lt ∧ u = v := by
  have operator : Filter.role (.str "$lt") = .comparison .lt := by decide +kernel
  rw [below, Filter.compares_entry]
  simp only [field, Filter.isMapping, true_and, reduceCtorEq, false_and, or_false]
  rw [Filter.compares_entry]
  simp only [operator]

theorem comparable_tag : ∀ key o v, Filter.Compares .none (below "tag" (.int 9)) key o v →
    (middle false true).Comparable key o v := by
  intro key o v asked
  obtain ⟨rfl, rfl, rfl⟩ := (compares_below (by decide +kernel)).mp asked
  refine ⟨by decide, fun _ => ⟨rfl, fun f found => ?_⟩⟩
  have kind : ((middle false true).fieldByRef (.str "tag")).toOption.all (·.kind?.isSome) = true := by decide +kernel
  rwa [found] at kind

end Zoo

namespace Run

variable {w w₁ : Workspace} {filter options : Value} {q : Query}

theorem parseWith_cases {t : Option Translator} (hierarchy : m.isHierarchy = true) (stored : m.collection = some ref)
    (done : (parseWith m filter options t).exec w = (.ok q, w₁)) :
    Filter.read (m.createQuery ref) filter options t = .ok q ∧ w₁ = noted w m q := by
  have created : (createQuery m).exec w = (m.createQuery ref, w) := by
    rw [createQuery, exec_bind_ok (exec_collectionOf stored w), hierarchy, if_pos rfl]
    exact exec_ofExcept _ w
  rw [parseWith, exec_bind_ok (exec_attempt _ _), created] at done
  rcases bind_cases done with ⟨e, -, failed⟩ | ⟨r, w₂, read, rest⟩
  · cases failed
  · obtain ⟨accepted, rfl⟩ := ofExcept_cases read
    cases rest
    exact ⟨accepted, rfl⟩

/-- Reads a filter through a mapping and searches for what it asks for. -/
def search (m : Mapping) (filter : Value) : Run Handle := do
  find m.driver (← parseWith m filter .none (some m.translate))

theorem read_of_search (w : Workspace) (m : Mapping) (filter : Value)
    (read : (((parseWith m filter .none (some m.translate)).exec w).1).toBool = true) :
    ∃ q w₁, (parseWith m filter .none (some m.translate)).exec w = (.ok q, w₁) ∧
      (search m filter).exec w = (find m.driver q).exec w₁ := by
  generalize parsed : (parseWith m filter .none (some m.translate)).exec w = answer at read
  obtain ⟨answer, w₁⟩ := answer
  cases answer with
  | error e => cases read
  | ok q => exact ⟨q, w₁, rfl, exec_bind_ok parsed⟩

/-- A filter that a mapping reads is answered with a cursor, whatever was written through the hierarchy, if it
    asks for no pattern and puts in order only what has an order. -/
theorem find_answers (filled : w.Filled p driver schema ref) (member : m ∈ w.layout.family ref)
    (standard : ∀ d, w.drivers[driver]? = some d → (w.evaluatorOf d).Standard)
    (comparable : ∀ key o v, Filter.Compares .none filter key o v → m.Comparable key o v)
    (accepted : (parseWith m filter options (some m.translate)).exec w = (.ok q, w₁))
    (sortable : ∀ o ∈ q.orders, ∃ f ∈ w.layout.columns ref, f.name = o.field ∧ f.kind?.isSome = true) :
    ∃ documents, (find m.driver q).exec w₁ = (.ok (.cursor false w₁.cursors.length),
      { w₁ with cursors := w₁.cursors ++ [.stored documents false] }) := by
  have fills := filled.fills
  have sound := fills.declared.sound
  obtain ⟨known, stored⟩ := Layout.mem_family.mp member
  obtain ⟨s, evaluator, driven, all⟩ := fills.held
  obtain ⟨c, stores⟩ := fills.stores
  obtain ⟨read, rfl⟩ := parseWith_cases (sound.isHierarchy known) stored accepted
  obtain ⟨-, -, -, -, table, -, joins, -, -⟩ := Mapping.read_cases (sound.each m known) read
  have shaped : s.shape w.layout.collections (.str q.collection.name) = .ok c := by
    rw [table, ← stores.get_eq]
    exact Store.shape_of_get? all.provisioned
  obtain ⟨rows, selected⟩ :
      ∃ rows, s.select w.layout.collections (w.evaluatorOf (.memory s evaluator)) q = .ok rows := by
    refine Store.exists_select shaped joins (fun row inside => ?_) fun o ordered => ?_
    · rw [table] at inside
      exact (all.working row inside).filter_told sound member stores (standard _ driven) comparable read
    · obtain ⟨f, column, name, kinds⟩ := sortable o ordered
      obtain ⟨k, kind⟩ := Option.isSome_iff_exists.mp kinds
      rw [table, ← name]
      refine ⟨⟨_, stores.getField column⟩, k, fun row inside => ?_⟩
      exact (all.working row inside).column_suits stores column kind
  have driven' : (noted w m q).drivers[m.driver]? = some (.memory s evaluator) := by
    rw [fills.declared.driver_eq m known]
    exact driven
  have found := exec_findDocuments driven' q
  have documents : Driver.find (.memory s evaluator) (noted w m q).layout.collections
      ((noted w m q).evaluatorOf (.memory s evaluator)) q = .ok (rows.map (·.document q.collection.name)) := by
    have same : (noted w m q).evaluatorOf (.memory s evaluator) = w.evaluatorOf (.memory s evaluator) := rfl
    simp only [Driver.find, Driver.store?, same]
    exact congrArg (List.map _ <$> ·) selected
  rw [documents] at found
  exact ⟨_, exec_bind_ok found⟩

/-- A dog without a tag is among the dogs that are searched. -/
theorem find_answers_dogs : ∃ q w₁ documents,
    (parseWith (Zoo.middle false true) (Zoo.below "tag" (.int 9)) .none
        (some (Zoo.middle false true).translate)).exec Zoo.withDog = (.ok q, w₁) ∧
      (find (Zoo.middle false true).driver q).exec w₁ = (.ok (.cursor false w₁.cursors.length),
        { w₁ with cursors := w₁.cursors ++ [.stored documents false] }) := by
  let dogs := Zoo.middle false true
  obtain ⟨layout, filled⟩ := Zoo.withDog_filled
  have member : dogs ∈ Zoo.withDog.layout.family Zoo.collection := layout ▸ Zoo.middle_mem false true
  obtain ⟨q, w₁, read, -⟩ :=
    read_of_search Zoo.withDog dogs (Zoo.below "tag" (.int 9)) (by decide +kernel)
  have unordered : q.orders = [] := by
    have sound := filled.fills.declared.sound
    obtain ⟨known, stored⟩ := Layout.mem_family.mp member
    obtain ⟨accepted, -⟩ := parseWith_cases (sound.isHierarchy known) stored read
    obtain ⟨o, cs, given, -, -, -, -, orders, -⟩ := Mapping.read_cases (sound.each dogs known) accepted
    cases given
    exact orders
  obtain ⟨documents, found⟩ := find_answers filled member (standard_of_default (by decide +kernel))
    Zoo.comparable_tag read fun o ordered => absurd (unordered ▸ ordered) List.not_mem_nil
  exact ⟨q, w₁, documents, read, found⟩

/-- An order is asked for without a value: the filter is read, but fails on the first animal. -/
theorem not_find_answers : ∃ w m filter q w₁ w₂, w.Filled (fun _ _ => True) 0 0 Zoo.collection ∧
    (∀ m ∈ w.layout.family Zoo.collection, m.Fits) ∧ m ∈ w.layout.family Zoo.collection ∧
    (∀ d, w.drivers[0]? = some d → (w.evaluatorOf d).Standard) ∧
    (∀ key o v, Filter.Compares .none filter key o v → o ≠ .regex) ∧
    (parseWith m filter .none (some m.translate)).exec w = (.ok q, w₁) ∧
      (find m.driver q).exec w₁ = (.error (.fault (.unordered "<" "int" "NoneType")), w₂) := by
  let top := Zoo.top false true
  obtain ⟨layout, filled⟩ := Zoo.withCat_filled
  have member : top ∈ Zoo.withCat.layout.family Zoo.collection := layout ▸ Zoo.top_mem false true
  obtain ⟨q, w₁, read, searched⟩ :=
    read_of_search Zoo.withCat top (Zoo.below "id" .none) (by decide +kernel)
  have failed : Zoo.isUnordered ((search top (Zoo.below "id" .none)).exec Zoo.withCat).1 = true := by decide +kernel
  rw [searched] at failed
  have plain : ∀ key o v, Filter.Compares .none (Zoo.below "id" .none) key o v → o ≠ .regex := by
    intro key o v asked
    obtain ⟨-, rfl, -⟩ := (Zoo.compares_below (by decide +kernel)).mp asked
    decide
  refine ⟨Zoo.withCat, top, Zoo.below "id" .none, q, w₁, ((find top.driver q).exec w₁).2, filled,
    layout ▸ Zoo.fits false true, member, standard_of_default (by decide +kernel), plain, read, ?_⟩
  exact Prod.ext (Zoo.eq_of_isUnordered failed) rfl

end Run

end ModelStore
