import ModelStore.Proofs.Filter.Grammar
import ModelStore.Proofs.Mapping.Parsing
import ModelStore.Proofs.Workspace.Calls
import ModelStore.Proofs.Workspace.Filtering

/-!
Filters read by a mapping. Every mapping makes a query with a root, and reads exactly the filters of the
grammar into it.
-/

namespace ModelStore

/-- A mapping of a hierarchy, which is declared without a parent or with one that was declared before. -/
inductive Mapping.OfHierarchy : Mapping → Prop where
  | declared {l l' : Layout} {models : List Model} {drivers : List Driver} {d : Declaration} {m : Mapping}
      (kind : d.kind = .hierarchy) (parent : ∀ p, d.parentIn l = some p → OfHierarchy p)
      (done : l.declare models drivers d = .ok (l', m)) : OfHierarchy m

variable {m : Mapping} {w : Workspace} {filter options : Value} {o : FindOptions}

theorem Mapping.OfHierarchy.sound (made : m.OfHierarchy) : ∃ schema, m.Sound schema := by
  induction made with
  | declared kind _ done ih =>
    obtain ⟨p, planned, rfl, -⟩ := Layout.declare_cases kind done
    obtain ⟨described, parent, indexes, facts⟩ := Layout.plan_cases planned
    have linked := (Layout.describe_cases facts.described).parent_eq
    have above : ∀ q, parent = some q → ∃ schema, q.Sound schema :=
      fun q same => ih q (linked.symm.trans same)
    exact ⟨_, (Layout.follows_of_plan kind facts).sound rfl above⟩

/-- All mappings of one driver and one schema are of this kind. -/
theorem Layout.Declared.ofHierarchy {driver schema : Nat} {l : Layout} (declared : l.Declared driver schema) :
    ∀ m ∈ l.mappings, m.OfHierarchy := by
  induction declared with
  | start mappings _ =>
    rw [mappings]
    exact List.forall_mem_nil _
  | declare before kind done _ _ ih =>
    obtain ⟨parent, ref, old, new, step⟩ := Layout.step_of_declare kind done
    rw [Layout.mappings_of_attach step.attached]
    refine List.forall_mem_append.mpr ⟨ih, List.forall_mem_singleton.mpr ?_⟩
    exact .declared kind (fun p linked => ih p (Declaration.mem_of_parentIn linked)) done

namespace Run

/-- The query of a mapping is there, and has a root. -/
theorem exec_createQuery (made : m.isHierarchy = true → m.OfHierarchy) (w : Workspace) :
    ∃ q, ((createQuery m).exec w).1 = .ok q ∧ 0 < q.branches.length := by
  obtain ⟨ref, w', collected⟩ : ∃ ref w', (collectionOf m).exec w = (.ok ref, w') := by
    unfold collectionOf
    split
    · exact ⟨_, _, rfl⟩
    · exact ⟨_, _, rfl⟩
  rw [createQuery, exec_bind_ok collected]
  cases kind : m.isHierarchy with
  | false => exact ⟨_, rfl, Nat.zero_lt_one⟩
  | true =>
    obtain ⟨schema, sound⟩ := (made kind).sound
    obtain ⟨branches, created, tree⟩ := Mapping.createQuery_eq sound ref
    rw [if_pos rfl, created]
    exact ⟨_, rfl, tree.lt⟩

/-- Reading a filter with a translator is reading it into a query that is there and has a root. -/
theorem parseWith_eq (made : m.isHierarchy = true → m.OfHierarchy) (filter options : Value) (t : Option Translator)
    (w : Workspace) : ∃ q : Query, 0 < q.branches.length ∧
      ((parseWith m filter options t).exec w).1 = Filter.read (.ok q) filter options t := by
  obtain ⟨q, created, root⟩ := exec_createQuery made w
  refine ⟨q, root, ?_⟩
  rw [parseWith, exec_bind_ok (exec_attempt _ _), created, exec_bind, exec_ofExcept]
  cases Filter.read (.ok q) filter options t <;> rfl

theorem exec_parseWith (made : m.isHierarchy = true → m.OfHierarchy) (filter options : Value) (w : Workspace) :
    ∃ q : Query, 0 < q.branches.length ∧
      ((parseWith m filter options (some Filter.unchanged)).exec w).1 =
        Filter.read (.ok q) filter options (some Filter.unchanged) :=
  parseWith_eq made filter options _ w

/-- A mapping reads exactly the filters of the grammar and closes all branches but the root; it refuses any
    other filter for its first violation. -/
theorem parseWith_exact (made : m.isHierarchy = true → m.OfHierarchy) (valid : Filter.options options = .ok o)
    (w : Workspace) :
    let answer := ((parseWith m filter options (some Filter.unchanged)).exec w).1
    ((∃ q, answer = .ok q) ↔ Filter.IsExpression .none filter) ∧ (∀ q, answer = .ok q → q.stack = [0]) ∧
      (¬Filter.IsExpression .none filter → ∃ x, Filter.Breaks .none filter x) ∧
      ∀ x, Filter.Breaks .none filter x → ∃ e, answer = .error e ∧ x.Reports e := by
  obtain ⟨q, root, same⟩ := exec_parseWith made filter options w
  dsimp only
  rw [same]
  have judged : Filter.Judged (Filter.IsExpression .none filter) (Filter.Breaks .none filter)
      (Filter.read (.ok q) filter options (some Filter.unchanged)) :=
    Filter.judged_read root valid
  refine ⟨⟨?_, judged.accepts⟩, fun r read => ?_, fun other => judged.total.resolve_left other, judged.rejects⟩
  · rintro ⟨r, read⟩
    refine judged.total.resolve_right ?_
    rintro ⟨x, broken⟩
    obtain ⟨e, failed, -⟩ := judged.rejects x broken
    cases read.symm.trans failed
  · exact Filter.stack_of_read root read

end Run

namespace Filter

/-- Cats, and anything older than three. -/
def grown : Value :=
  .dict [(.str "$or", .list
    [.dict [(.str "kind", .str "cat")], .dict [(.str "age", .dict [(.str "$gt", .int 3)])]])]

theorem isExpression_grown : IsExpression .none grown := by
  have kind : IsExpression .none (.dict [(.str "kind", .str "cat")]) :=
    .mapping (List.forall_mem_singleton.mpr (.value (by decide +kernel) rfl rfl (by decide +kernel)))
  have older : IsExpression (.str "age") (.dict [(.str "$gt", .int 3)]) :=
    .mapping (List.forall_mem_singleton.mpr (.comparison (o := .gt) (by decide +kernel) (by decide +kernel)))
  have age : IsExpression .none (.dict [(.str "age", .dict [(.str "$gt", .int 3)])]) :=
    .mapping (List.forall_mem_singleton.mpr (.under (by decide +kernel) rfl older))
  have items : IsOperand .none (.list
      [.dict [(.str "kind", .str "cat")], .dict [(.str "age", .dict [(.str "$gt", .int 3)])]]) :=
    .items rfl nofun (List.forall_mem_cons.mpr ⟨kind, List.forall_mem_singleton.mpr age⟩)
  exact .mapping (List.forall_mem_singleton.mpr (.joint (.inr (by decide +kernel)) items))

/-- What has a name, and a kind of which the age is not three. -/
def doubled : Value :=
  .dict [(.str "name", .str "Tom"), (.str "kind", .dict [(.str "$not", .dict [(.str "age", .int 3)])])]

theorem breaks_doubled : Breaks .none doubled .multipleFields := by
  have age : Breaks (.str "kind") (.dict [(.str "age", .int 3)]) .multipleFields :=
    breaks_dict.mpr ⟨[], _, [], rfl, List.forall_mem_nil _, .second (by decide +kernel) rfl⟩
  have negated : Breaks (.str "kind") (.dict [(.str "$not", .dict [(.str "age", .int 3)])]) .multipleFields :=
    breaks_dict.mpr ⟨[], _, [], rfl, List.forall_mem_nil _, .negation (by decide +kernel) age⟩
  have name : IsEntry .none (.str "name") (.str "Tom") :=
    .value (by decide +kernel) rfl rfl (by decide +kernel)
  exact breaks_dict.mpr
    ⟨[_], _, [], rfl, List.forall_mem_singleton.mpr name, .under (by decide +kernel) rfl negated⟩

end Filter

/-- Dogs are filtered by the grammar. -/
theorem Run.parseWith_exact_dogs :
    (∃ q, ((parseWith (Zoo.middle false true) Filter.grown .none (some Filter.unchanged)).exec {}).1 = .ok q ∧
      q.stack = [0]) ∧
    ∃ e, ((parseWith (Zoo.middle false true) Filter.doubled .none (some Filter.unchanged)).exec {}).1 = .error e ∧
      e.name = "MultipleFieldsInBranchError" := by
  have known := (Layout.mem_family.mp (Zoo.middle_mem false true)).1
  have made := (Zoo.declared false true).ofHierarchy _ known
  have valid : Filter.options .none = .ok {} := rfl
  obtain ⟨q, read⟩ := (parseWith_exact (fun _ => made) valid {}).1.mpr Filter.isExpression_grown
  obtain ⟨e, refused, reports⟩ := (parseWith_exact (fun _ => made) valid {}).2.2.2 _ Filter.breaks_doubled
  exact ⟨⟨q, read, (parseWith_exact (fun _ => made) valid {}).2.1 q read⟩, e, refused, reports.name⟩

end ModelStore
