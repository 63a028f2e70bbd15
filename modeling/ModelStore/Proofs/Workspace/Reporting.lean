import ModelStore.Proofs.Mapping.Reporting
import ModelStore.Proofs.Workspace.Parsing

/-!
Filters read with the translator of a mapping. Whatever is wrong with a filter is reported as an error of the
store, except for numbers beyond the range of a stored form.
-/

namespace ModelStore

variable {m : Mapping} {w : Workspace} {filter options k v : Value} {o : FindOptions} {f : Fault}
  {field : MappingField}

namespace Filter

theorem options_error {e : Error} (failed : Filter.options options = .error e) : e.Reported := by
  have checked : (FindOptions.check options).orInvalid = .error e := by
    cases options with
    | none => cases failed
    | _ => exact failed
  cases found : FindOptions.check options with
  | ok o =>
    rw [found] at checked
    cases checked
  | error issues =>
    rw [found] at checked
    cases checked
    exact .inl (List.mem_cons_self ..)

/-- Reading a filter with the translator of a mapping comes to an error of the store or to the fault of a number
    beyond the range. -/
theorem read_reported {q : Query} (root : 0 < q.branches.length) (texts : TextKeys filter) {e : Error}
    (failed : read (.ok q) filter options (some m.translate) = .error e) :
    e.Reported ∨ ∃ key o v f, Compares .none filter key o v ∧ m.Exceeds key o v f ∧ e = .fault f := by
  cases mapping : isMapping filter with
  | false =>
    simp only [read, mapping, Bool.not_false, if_true] at failed
    cases failed
    exact .inl (.inl (List.mem_cons_self ..))
  | true =>
    cases valid : Filter.options options with
    | error e' =>
      simp only [read, mapping, valid, Bool.not_true, Bool.false_eq_true, if_false, Bind.bind, Except.bind]
        at failed
      cases failed
      exact .inl (options_error valid)
    | ok o =>
      have tried := (Tried.everywhere m.storedLeaf filter).whole .none
      cases found : clauses m.storedLeaf .none filter with
      | ok cs =>
        obtain ⟨r, read⟩ := read_of_clauses m.translate_faithful root valid found
        cases read.symm.trans failed
      | error e' =>
        cases (read_error m.translate_faithful root valid mapping found).symm.trans failed
        rcases tried.failed e found with ⟨x, reports⟩ | ⟨key, o, v, asked, some_, failed⟩
        · exact .inl (.inl reports.invalid)
        · have text : key.text?.isSome = true := by
            rcases texts.field_text asked with rfl | text
            · cases some_
            · exact text
          refine (Mapping.storedLeaf_error text failed).imp_right ?_
          rintro ⟨f, exceeds, same⟩
          exact ⟨key, o, v, f, asked, exceeds, same⟩

end Filter

namespace Run

/-- A filter with texts for keys is read into a query or refused with an error of the store, unless it compares an
    attribute with a number beyond the range of its stored form; then it is not read. -/
theorem parseWith_reported (made : m.OfHierarchy) (texts : Filter.TextKeys filter) (w : Workspace) :
    let answer := ((parseWith m filter options (some m.translate)).exec w).1
    (∀ e, answer = .error e → e.Reported ∨
      ∃ key o v f, Filter.Compares .none filter key o v ∧ m.Exceeds key o v f ∧ e = .fault f) ∧
    ∀ q, answer = .ok q → ∀ key o v f, Filter.Compares .none filter key o v → ¬m.Exceeds key o v f := by
  obtain ⟨q, root, same⟩ := parseWith_eq (fun _ => made) filter options (some m.translate) w
  dsimp only
  rw [same]
  refine ⟨fun e failed => Filter.read_reported root texts failed, fun r read key o v f asked => ?_⟩
  obtain ⟨o', p, valid, parsed, -⟩ := Filter.read_cases read
  cases found : Filter.clauses m.storedLeaf .none filter with
  | error e =>
    have failed := Filter.expression_error (q := q.restart) m.translate_faithful ⟨0, [], rfl, root⟩ found
    cases failed.symm.trans parsed
  | ok cs =>
    have tried := (Filter.Tried.everywhere m.storedLeaf filter).whole .none
    obtain ⟨c, done⟩ := tried.made cs found key o v asked
    exact Mapping.not_exceeds_of_storedLeaf done

/-- A text in the place of a number is reported. -/
theorem parseWith_reported_animals :
    ∃ e, ((parseWith (Zoo.top false true) (.dict [(.str "id", .str "Tom")]) .none
        (some (Zoo.top false true).translate)).exec (Zoo.opened false true none [])).1 = .error e ∧ e.Reported := by
  let top := Zoo.top false true
  let filter : Value := .dict [(.str "id", .str "Tom")]
  have made := (Zoo.declared false true).ofHierarchy _ (Layout.mem_family.mp (Zoo.top_mem false true)).1
  have texts : Filter.TextKeys filter := .of_flat (List.forall_mem_singleton.mpr ⟨rfl, rfl⟩)
  have refused : ((parseWith top filter .none (some top.translate)).exec (Zoo.opened false true none [])).1.toBool =
      false := by
    decide +kernel
  have within : ∀ key o v f, Filter.Compares .none filter key o v → ¬top.Exceeds key o v f := by
    rintro key o v f asked ⟨field, -, u, inside, excess⟩
    have name : Filter.role (.str "id") = .field := by decide +kernel
    have entry := Filter.compares_entry.mp asked
    simp only [name] at entry
    obtain ⟨mapping, -⟩ | ⟨-, -, rfl, rfl⟩ := entry
    · cases mapping
    · cases List.mem_singleton.mp inside
      cases same : field.conversion <;> rw [same] at excess <;> cases excess
  cases answer : ((parseWith top filter .none (some top.translate)).exec (Zoo.opened false true none [])).1 with
  | ok q =>
    rw [answer] at refused
    cases refused
  | error e =>
    have reported := (parseWith_reported made texts _).1 e answer
    refine ⟨e, rfl, reported.resolve_right ?_⟩
    rintro ⟨key, o, v, f, asked, exceeds, -⟩
    exact within key o v f asked exceeds

/-- The value of one attribute alone: the fault of a number beyond the range comes through as it is. -/
theorem parseWith_excess (made : m.OfHierarchy) (valid : Filter.options options = .ok o)
    (key : Filter.role k = .field) (some_ : k.isNone = false) (found : m.fieldByRef k = .ok field)
    (excess : field.conversion.excess? v = some f) (w : Workspace) :
    ((parseWith m (.dict [(k, v)]) options (some m.translate)).exec w).1 = .error (.fault f) := by
  obtain ⟨q, root, same⟩ := parseWith_eq (fun _ => made) (.dict [(k, v)]) options (some m.translate) w
  have flat : Filter.isFlat v = true := by
    unfold Converter.excess? at excess
    split at excess
    · rfl
    · rfl
    · rfl
    · cases excess
  have leaf : Filter.leafOf m.storedLeaf k .eq v = .error (.fault f) := by
    rw [Filter.leafOf, some_, if_neg Bool.false_ne_true, Mapping.storedLeaf_of_excess found rfl rfl excess]
    rfl
  have failed : Filter.clauses m.storedLeaf .none (.dict [(k, v)]) = .error (.fault f) := by
    rw [Filter.clauses, Filter.entriesClauses, Filter.entryClauses_flat flat, Filter.select, key]
    simp only [Value.isNone, if_true, leaf]
    rfl
  rw [same]
  exact Filter.read_error m.translate_faithful root valid rfl failed

/-- An infinity in the place of an integer is refused with an error that is not one of the store. -/
theorem not_parseWith_reported :
    ∃ w m filter, m ∈ w.layout.mappings ∧ m.OfHierarchy ∧
      (∃ s evaluator, w.drivers[m.driver]? = some (.memory s evaluator)) ∧ Filter.TextKeys filter ∧
      ∃ e, ((parseWith m filter .none (some m.translate)).exec w).1 = .error e ∧ ¬e.Reported := by
  let top := Zoo.top false true
  have known := (Layout.mem_family.mp (Zoo.top_mem false true)).1
  have made := (Zoo.declared false true).ofHierarchy _ known
  have driver : top.driver = 0 := (Zoo.declared false true).driver_eq _ known
  have driven : ∃ s evaluator, (Zoo.opened false true none []).drivers[top.driver]? = some (.memory s evaluator) := by
    rw [driver]
    exact ⟨_, _, rfl⟩
  obtain ⟨field, found, conversion⟩ : ∃ field, top.fieldByRef (.str "id") = .ok field ∧ field.conversion = .integer := by
    have integer : (top.fieldByRef (.str "id")).toOption.map (·.conversion) = some .integer := by decide +kernel
    cases found : top.fieldByRef (.str "id") with
    | error e =>
      rw [found] at integer
      cases integer
    | ok field =>
      rw [found] at integer
      exact ⟨field, rfl, Option.some.inj integer⟩
  have excess : field.conversion.excess? (.float (.infinity false)) = some .infiniteInteger := by
    rw [conversion]
    rfl
  have valid : Filter.options .none = .ok {} := rfl
  have escapes := parseWith_excess made valid (by decide +kernel) rfl found excess
  refine ⟨Zoo.opened false true none [], top, .dict [(.str "id", .float (.infinity false))], known, made,
    driven, .of_flat (List.forall_mem_singleton.mpr ⟨rfl, rfl⟩), _, escapes _, ?_⟩
  rintro (reported | reported) <;> cases reported

end Run

end ModelStore
