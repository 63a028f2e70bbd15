import ModelStore.Proofs.Workspace.Managing

/-!
Ensuring a unique index. The index is recorded without a look at the rows, so that rows which agree on its
fields stay; from then on every row that is written is compared with all others.
-/

namespace ModelStore

variable {w : Workspace} {driver : Nat} {s s' : Store} {cs : Catalog} {evaluator : Option Nat} {c : CollectionRef}
  {i : CollectionIndex} {columns : List String} {old committed rows : List Row}

namespace Store

/-- The store with an index of a collection under a name. -/
def indexed (s : Store) (table name : String) (i : CollectionIndex) : Store :=
  { s with indexes := s.indexes.put table (((s.indexes.get? table).getD []).put name i) }

/-- An index is recorded if its collection is known, its fields are declared there and it has a name. -/
theorem ensureIndex_ok : s.ensureIndex cs c i = .ok s' ↔
    ∃ ref name, s.shapes.get? c.name = some ref ∧ (∀ f ∈ i.fields, (cs.get ref).hasField f = true) ∧
      i.name = some name ∧ s' = s.indexed c.name name i := by
  constructor
  · intro done
    obtain ⟨known, shaped, rest⟩ := Outcome.of_bind done
    obtain ⟨ref, there, rfl⟩ := shape_parts shaped
    obtain ⟨⟨⟩, declared, last⟩ := Outcome.of_bind rest
    rw [Collection.forM_discard_getField] at declared
    split at declared
    · cases declared
    · rename_i none
      split at last
      · cases last
      · rename_i name named
        cases last
        refine ⟨ref, name, there, fun f member => ?_, named, rfl⟩
        simpa using List.find?_eq_none.mp none f member
  · rintro ⟨ref, name, known, declared, named, rfl⟩
    have none : i.fields.find? (fun f => !(cs.get ref).hasField f) = none :=
      List.find?_eq_none.mpr fun f member => by rw [declared f member]; decide
    simp only [ensureIndex, shape_of_get? known, Bind.bind, Except.bind, Collection.forM_discard_getField, none,
      named]
    rfl

theorem constraint_of_indexed {name : String} {d : Collection} (unique : i.unique = true) :
    ⟨"unique index '" ++ i.name.getD "None" ++ "'", i.fields⟩ ∈
      (s.indexed c.name name i).constraints d c.name := by
  refine List.mem_append_right _ (List.mem_map.mpr ⟨i, List.mem_filter.mpr ⟨?_, unique⟩, rfl⟩)
  rw [indexed, Assoc.get?_put_self, Option.getD_some]
  exact List.mem_map.mpr ⟨_, Assoc.mem_of_get? Assoc.get?_put_self, rfl⟩

/-- Two rows are apart, unless both were there before, in this order. -/
def Excused (columns : List String) (old committed : List Row) (row other : Row) : Prop :=
  Apart columns row other ∨ [row, other].Sublist old ∨ [row, other].Sublist committed

theorem pairwise_excused_left : old.Pairwise (Excused columns old committed) :=
  List.pairwise_iff_forall_sublist.mpr fun both => .inr (.inl both)

theorem pairwise_excused_right : committed.Pairwise (Excused columns old committed) :=
  List.pairwise_iff_forall_sublist.mpr fun both => .inr (.inr both)

theorem distinct_of_excused (excused : rows.Pairwise (Excused columns old committed))
    (first : Distinct columns old) (second : Distinct columns committed) : Distinct columns rows := by
  rw [distinct_iff_pairwise, List.pairwise_iff_forall_sublist] at *
  intro a b both
  rcases excused both with apart | there | there
  · exact apart
  · exact first there
  · exact second there

end Store

namespace Run

open Store (Distinct Excused rowsOf)

/-- An index is recorded, or the request is refused and nothing is different. -/
theorem ensure_index_cases (driven : w.drivers[driver]? = some (.memory s evaluator)) :
    ((∃ name ref journal, i.name = some name ∧ s.shapes.get? c.name = some ref ∧
        (∀ f ∈ i.fields, (w.layout.collections.get ref).hasField f = true) ∧
        (ensure driver (.index c i)).exec w =
          (.ok (), { w.withStore driver evaluator (s.indexed c.name name i) with journal })) ∨
      (¬ (i.name.isSome = true ∧ ∃ ref, s.shapes.get? c.name = some ref ∧
          ∀ f ∈ i.fields, (w.layout.collections.get ref).hasField f = true) ∧
        ∃ e, (ensure driver (.index c i)).exec w = (.error e, w))) := by
  obtain ⟨journal, made⟩ := exec_ensure (r := .index c i) driven
  have granted : Driver.provision s w.layout.collections (.index c i) = s.ensureIndex w.layout.collections c i := rfl
  rw [granted] at made
  cases asked : s.ensureIndex w.layout.collections c i with
  | ok s₀ =>
    obtain ⟨ref, name, known, declared, named, rfl⟩ := Store.ensureIndex_ok.mp asked
    exact .inl ⟨name, ref, journal, named, known, declared, by rw [made, asked]⟩
  | error e =>
    refine .inr ⟨?_, e, by rw [made, asked]⟩
    rintro ⟨named, ref, known, declared⟩
    obtain ⟨name, named⟩ := Option.isSome_iff_exists.mp named
    cases asked.symm.trans (Store.ensureIndex_ok.mpr ⟨ref, name, known, declared, named, rfl⟩)

/-- After a unique index is recorded, the rows that are written, committed and rolled back agree on its fields only
    if they were there before. -/
theorem excused_after {name : String} {ref : CollectionRef} (known : s.shapes.get? c.name = some ref)
    (unique : i.unique = true) (driven : w.drivers[driver]? = some (.memory (s.indexed c.name name i) evaluator))
    (steps : List Store.Step) :
    ∃ s', (after (steps.map (·.perform driver)) w).drivers[driver]? = some (.memory s' evaluator) ∧
      ∀ rows ∈ [s'.rows c.name, rowsOf s'.committed c.name],
        rows.Pairwise (Excused i.fields (s.rows c.name) (rowsOf s.committed c.name)) := by
  -- from now on the index is one of the constraints, and all pairs of rows that it finds are excused
  have start : Store.Related w.layout.collections ref c.name
      ⟨"unique index '" ++ i.name.getD "None" ++ "'", i.fields⟩
      (Excused i.fields (s.rows c.name) (rowsOf s.committed c.name)) (s.indexed c.name name i) :=
    ⟨known, Store.constraint_of_indexed unique, Store.pairwise_excused_left, Store.pairwise_excused_right⟩
  obtain ⟨s', driven', related⟩ := after_steps driven
    (fun _ _ => Store.Related.step fun _ _ apart => .inl apart) start steps
  refine ⟨s', driven', fun rows among => ?_⟩
  simp only [List.mem_cons, List.not_mem_nil, or_false] at among
  rcases among with rfl | rfl
  · exact related.working
  · exact related.committed

/-- A unique index is recorded whenever its collection, its fields and its name are known, whatever the rows are.
    They stay as they are; in all that is written, committed and rolled back from then on, only rows that were
    there before agree on the fields of the index. -/
theorem unique_from_then_on (driven : w.drivers[driver]? = some (.memory s evaluator)) (unique : i.unique = true) :
    (((ensure driver (.index c i)).exec w).1 = .ok () ↔ i.name.isSome = true ∧
      ∃ ref, s.shapes.get? c.name = some ref ∧
        ∀ f ∈ i.fields, (w.layout.collections.get ref).hasField f = true) ∧
    (∀ e, ((ensure driver (.index c i)).exec w).1 = .error e → ((ensure driver (.index c i)).exec w).2 = w) ∧
    (((ensure driver (.index c i)).exec w).1 = .ok () → ∃ name s₀, i.name = some name ∧
      ((ensure driver (.index c i)).exec w).2.drivers[driver]? = some (.memory s₀ evaluator) ∧
      s₀ = s.indexed c.name name i ∧
      (Distinct i.fields (s₀.rows c.name) ↔ Distinct i.fields (s.rows c.name)) ∧
      ∀ steps : List Store.Step, ∃ s', (after (steps.map (·.perform driver))
          ((ensure driver (.index c i)).exec w).2).drivers[driver]? = some (.memory s' evaluator) ∧
        ∀ rows ∈ [s'.rows c.name, rowsOf s'.committed c.name],
          rows.Pairwise (Excused i.fields (s.rows c.name) (rowsOf s.committed c.name)) ∧
          (Distinct i.fields (s.rows c.name) → Distinct i.fields (rowsOf s.committed c.name) →
            Distinct i.fields rows)) := by
  rcases ensure_index_cases (c := c) (i := i) driven with
    ⟨name, ref, journal, named, known, declared, made⟩ | ⟨lacking, e, made⟩
  · rw [made]
    let recorded : Workspace := { w.withStore driver evaluator (s.indexed c.name name i) with journal }
    have driven' : recorded.drivers[driver]? = some (.memory (s.indexed c.name name i) evaluator) :=
      Workspace.driven_withStore driven _
    refine ⟨iff_of_true rfl ⟨by rw [named]; rfl, ref, known, declared⟩, (fun _ failed => nomatch failed),
      fun _ => ⟨name, _, named, driven', rfl, .rfl, fun steps => ?_⟩⟩
    obtain ⟨s', there, excused⟩ := excused_after known unique driven' steps
    exact ⟨s', there, fun rows among => ⟨excused rows among, Store.distinct_of_excused (excused rows among)⟩⟩
  · rw [made]
    exact ⟨iff_of_false (fun done => nomatch done) lacking, fun _ _ => rfl, fun done => nomatch done⟩

end Run

/-! Accounts that have one address before it is to be unique. -/

namespace Accounts

/-- The accounts are provisioned without their index, and two of them are created. -/
def doubled : Workspace :=
  Run.after ([Store.Step.write (account (.str "a@b")), .write (account (.str "a@b")), .commit].map (·.perform 0))
    ((Run.ensure 0 (.collection ref)).exec fresh).2

theorem doubled_managed : doubled.Managed 0 collectionOf :=
  (Workspace.Managed.ensured (.start rfl) fun c same => by cases same; rfl).after _

/-- The first of these accounts is refused. -/
def later : List Store.Step := [.write (account (.str "a@b")), .write (account (.str "c@d"))]

def emails (w : Workspace) : List (Option String) :=
  ((w.drivers[0]?.bind Driver.store?).map (·.rows "accounts")).getD [] |>.map fun row => (row.column "email").text?

theorem doubled_driven : ∃ s, doubled.drivers[0]? = some (.memory s none) ∧
    s.shapes.get? "accounts" = some ref ∧ s.indexes = [("accounts", [])] := by
  have start : ((Run.ensure 0 (.collection ref)).exec fresh).2.drivers[0]? =
      some (.memory (Store.ensureCollection { label := "InMemoryDriver" } ref) none) := rfl
  exact Run.after_steps (P := fun s => s.shapes.get? "accounts" = some ref ∧ s.indexes = [("accounts", [])]) start
    (fun s x known => by rwa [(x.alike s _).shapes, (x.alike s _).indexes]) ⟨rfl, rfl⟩ _

end Accounts

theorem Run.unique_from_then_on_accounts :
    ((ensure 0 (.index Accounts.ref Accounts.byEmail)).exec Accounts.doubled).1 = .ok () ∧
    ∃ s s', Accounts.doubled.drivers[0]? = some (.memory s none) ∧
      (after (Accounts.later.map (·.perform 0))
        ((ensure 0 (.index Accounts.ref Accounts.byEmail)).exec Accounts.doubled).2).drivers[0]? =
          some (.memory s' none) ∧
      (s'.rows "accounts").map (fun row => (row.column "email").text?) = [some "a@b", some "a@b", some "c@d"] ∧
      (s'.rows "accounts").Pairwise
        (Store.Excused ["email"] (s.rows "accounts") (Store.rowsOf s.committed "accounts")) := by
  obtain ⟨s, driven, known, -⟩ := Accounts.doubled_driven
  obtain ⟨granted, -, ensured⟩ := unique_from_then_on (c := Accounts.ref) (i := Accounts.byEmail) driven rfl
  have done := granted.mpr ⟨rfl, Accounts.ref, known, by decide +kernel⟩
  obtain ⟨name, s₀, -, -, -, -, kept⟩ := ensured done
  obtain ⟨s', driven', both⟩ := kept Accounts.later
  have rows : Accounts.emails (after (Accounts.later.map (·.perform 0))
      ((ensure 0 (.index Accounts.ref Accounts.byEmail)).exec Accounts.doubled).2) =
        [some "a@b", some "a@b", some "c@d"] := by
    decide +kernel
  rw [Accounts.emails, driven'] at rows
  exact ⟨done, s, s', driven, driven', rows, (both _ (List.mem_cons_self ..)).1⟩

/-- An index is recorded that two accounts violate. -/
theorem Run.not_unique_once_ensured :
    Accounts.doubled.Managed 0 Accounts.collectionOf ∧ Accounts.byEmail.unique = true ∧
      ((ensure 0 (.index Accounts.ref Accounts.byEmail)).exec Accounts.doubled).1 = .ok () ∧
      (∃ s, ((ensure 0 (.index Accounts.ref Accounts.byEmail)).exec Accounts.doubled).2.drivers[0]? =
        some (.memory s none) ∧ s.indexes.get? "accounts" = some [("accounts.email", Accounts.byEmail)]) ∧
      Accounts.emails ((ensure 0 (.index Accounts.ref Accounts.byEmail)).exec Accounts.doubled).2 =
        [some "a@b", some "a@b"] := by
  obtain ⟨s, driven, known, indexes⟩ := Accounts.doubled_driven
  have emails : Accounts.emails ((ensure 0 (.index Accounts.ref Accounts.byEmail)).exec Accounts.doubled).2 =
      [some "a@b", some "a@b"] := by
    decide +kernel
  rcases ensure_index_cases (c := Accounts.ref) (i := Accounts.byEmail) driven with
    ⟨name, ref, journal, named, -, -, made⟩ | ⟨lacking, -⟩
  · cases named
    refine ⟨Accounts.doubled_managed, rfl, by rw [made],
      ⟨s.indexed "accounts" "accounts.email" Accounts.byEmail, ?_, ?_⟩, emails⟩
    · rw [made]
      exact Workspace.driven_withStore driven _
    · rw [Store.indexed, indexes]
      rfl
  · exact absurd ⟨rfl, Accounts.ref, known, by decide +kernel⟩ lacking

end ModelStore
