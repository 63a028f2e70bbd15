import ModelStore.Proofs.Evaluator
import ModelStore.Proofs.Query.Calls
import ModelStore.Proofs.Value.Reflexivity
import ModelStore.Proofs.Workspace.Atomicity

/-!
Queries for what a row was created with. The store keeps a value as it is given, while a query keeps a list as a
tuple, and no list equals a tuple: a comparison for equality finds every value but a list.
-/

namespace ModelStore

variable {s s' : Store} {cs : Catalog} {c : Collection} {row : Row} {name key v : Value} {o : Operator}
  {data : List (Value × Value)}

/-- Whether the condition of a new query with one comparison holds of a row. -/
def Row.matched (row : Row) (ref : CollectionRef) (field : Value) (o : Operator) (v : Value) :
    Except Error Bool := do
  let q ← Query.create (.object (.collection ref)) .none
  let asked ← q.restart.operation field (.str o.value) v
  Error.ofFault (Evaluator.default.satisfies row.columnOf asked.whereClause)

/-- Whether missing values of a column are generated. -/
def Collection.generates (c : Collection) (name : String) : Bool :=
  c.fields.any fun f => f.name == name && f.sequence.isPresent

namespace Value

def isList : Value → Bool
  | .list _ => true
  | _ => false

/-- A value equals its frozen form unless it is a list. -/
theorem Raw.beq_freeze (raw : v.Raw) : (v == Query.freezeValue v) = !v.isList := by
  have self := raw.beq_self
  cases v with
  | list xs =>
    rw [beq_eq_eq, Query.freezeValue, eq] <;> simp [isList]
  | set xs =>
    rw [beq_eq_eq, eq] at self
    rw [beq_eq_eq, Query.freezeValue, eq]
    exact self
  | _ => exact self

end Value

theorem Comparator.member_single (v w : Value) : member v (Query.freezeValue (.list [w])) = .ok (w == v) := by
  rw [member, Query.freezeValue, Value.isMember, List.any_cons, List.any_nil, Bool.or_false]
  rfl

/-- The comparison of a column with a value, which is frozen before. -/
theorem Row.matched_eq {compares : Comparator} (named : Query.isName key = true)
    (own : Comparator.ofOperator? o = some compares) (row : Row) (ref : CollectionRef) (v : Value) :
    row.matched ref key o v = Error.ofFault (compares (row.column key.plainDisplay) (Query.freezeValue v)) := by
  obtain ⟨s, text, -⟩ := (Option.any_eq_true _ _).mp named
  have known : Query.comparisonOperator (.str o.value) = .ok o := by cases o <;> cases own <;> rfl
  have column : row.columnOf key = .ok (row.column key.plainDisplay) := by
    cases key <;> cases text <;> rfl
  have asked : ({ collection := ref, label := ref.name } : Query).restart.operation key (.str o.value) v =
      .ok { collection := ref, label := ref.name, stack := [0],
            branches := [{ children := [.leaf ⟨o, key, Query.freezeValue v⟩] }] } := by
    simp only [Query.operation, named, if_true, known]
    rfl
  have compared : Evaluator.default.satisfies row.columnOf (.and [.comparison ⟨o, key, Query.freezeValue v⟩]) =
      compares (row.column key.plainDisplay) (Query.freezeValue v) := by
    rw [Evaluator.satisfies, Evaluator.satisfiesAll_single, Evaluator.satisfies, column]
    exact Evaluator.default_compare own _ _
  rw [← compared]
  simp only [Row.matched, Query.create, asked, Bind.bind, Except.bind]
  rfl

/-- A column that holds a value is found by it, unless the value is compared as a list. -/
theorem Row.matched_of_column (named : Query.isName key = true) (raw : v.Raw)
    (held : row.column key.plainDisplay = v) (ref : CollectionRef) :
    row.matched ref key .eq v = .ok (!v.isList) ∧ row.matched ref key .neq v = .ok v.isList ∧
      row.matched ref key .isIn (.list [v]) = .ok true := by
  rw [matched_eq named rfl, matched_eq named rfl, matched_eq named rfl, held, Comparator.equal,
    Comparator.notEqual, Comparator.member_single, raw.beq_freeze, raw.beq_self, Bool.not_not]
  exact ⟨rfl, rfl, rfl⟩

namespace Store

/-- The columns of new data are as distinct as its keys. -/
theorem nodup_columns (distinct : data.Pairwise fun e f => (e.1 == f.1) = false)
    (declared : ∀ e ∈ data, ∃ f, c.getField e.1 = .ok f) : (data.map (·.1.plainDisplay)).Nodup := by
  have texts : ∀ e ∈ data, ∃ s, e.1.text? = some s := by
    intro e member
    obtain ⟨f, found⟩ := declared e member
    unfold Collection.getField Collection.lookup at found
    split at found
    · cases found
    · rename_i sought
      obtain ⟨s, text, -⟩ := Option.bind_eq_some_iff.mp sought
      exact ⟨s, text⟩
    · cases found
  refine List.pairwise_map.mpr (distinct.imp_of_mem fun {e f} inside inside' apart same => ?_)
  obtain ⟨s, text⟩ := texts e inside
  obtain ⟨t, text'⟩ := texts f inside'
  rw [Value.plainDisplay, Value.plainDisplay, text, text'] at same
  rw [Value.beq_of_text? text, text', beq_eq_false_iff_ne] at apart
  exact apart (congrArg some same.symm)

/-- A column holds what a row was created with, unless that is missing and generated. -/
theorem column_created (created : s.create cs name data = (.ok row, s')) (given : (key, v) ∈ data)
    (distinct : data.Pairwise fun e f => (e.1 == f.1) = false) :
    ∃ c f, s.shape cs name = .ok c ∧ c.getField key = .ok f ∧
      ((v.isNone && c.generates f.name) = false → row.column key.plainDisplay = v) ∧
      ((v.isNone && c.generates f.name) = true → ∃ n : Nat, row.column key.plainDisplay = .int n) := by
  obtain ⟨c, start, sequences, shaped, overlay, made, -, -⟩ := create_parts created
  have generated := generate_cases name.display c.fields start s.sequences
  rw [made] at generated
  have declared := Write.declared_of_overlaid overlay
  obtain ⟨f, found⟩ := declared _ given
  have column := Collection.plainDisplay_of_getField found
  have held : start.get? f.name = some v := by
    rw [written_of_overlaid overlay, column]
    exact Assoc.get?_foldl_put_of_mem (fun e : Value × Value => e.1.plainDisplay) (·.2)
      (nodup_columns distinct declared) given
  rw [← column]
  refine ⟨c, f, shaped, found, fun kept => ?_, fun missing => ?_⟩
  · have same : row.get? f.name = start.get? f.name := by
      rcases Bool.and_eq_false_iff.mp kept with present | fixed
      · exact generated.kept f.name (by rw [Row.column_of_get? held, present])
      · refine generated.other f.name fun g member called => ?_
        simpa [called] using List.any_eq_false.mp fixed g member
    exact Row.column_of_get? (same.trans held)
  · obtain ⟨unset, sequenced⟩ := Bool.and_eq_true_iff.mp missing
    obtain ⟨g, member, own⟩ := List.any_eq_true.mp sequenced
    obtain ⟨called, sequenced⟩ := Bool.and_eq_true_iff.mp own
    have called : g.name = f.name := beq_iff_eq.mp called
    obtain ⟨n, value⟩ := generated.fresh g member sequenced (by rw [called, Row.column_of_get? held, unset])
    exact ⟨n, Row.column_of_get? (called ▸ value)⟩

/-- A new row is found by what it was created with, in a list of values always, and by equality unless the value
    is itself a list. What is missing in a column with a sequence is not what the row was created with. -/
theorem matched_created (created : s.create cs name data = (.ok row, s'))
    (distinct : data.Pairwise fun e f => (e.1 == f.1) = false) (given : (key, v) ∈ data) (raw : v.Raw)
    (named : Query.isName key = true) (ref : CollectionRef) :
    ∃ c f, s.shape cs name = .ok c ∧ c.getField key = .ok f ∧ row ∈ s'.rows name.plainDisplay ∧
      row.matched ref key .eq v = .ok (!(v.isList || (v.isNone && c.generates f.name))) ∧
      row.matched ref key .neq v = .ok (v.isList || (v.isNone && c.generates f.name)) ∧
      row.matched ref key .isIn (.list [v]) = .ok !(v.isNone && c.generates f.name) := by
  obtain ⟨c, f, shaped, found, kept, numbered⟩ := column_created created given distinct
  have stored : row ∈ s'.rows name.plainDisplay := by
    obtain ⟨-, -, -, -, -, -, -, rfl⟩ := create_parts created
    rw [Write.rows_of_setRows]
    exact List.mem_append_right _ (List.mem_singleton_self row)
  refine ⟨c, f, shaped, found, stored, ?_⟩
  cases missing : v.isNone && c.generates f.name with
  | false =>
    rw [Bool.or_false]
    exact Row.matched_of_column named raw (kept missing) ref
  | true =>
    obtain ⟨n, number⟩ := numbered missing
    cases Value.isNone_iff.mp (Bool.and_eq_true_iff.mp missing).1
    have frozen : Query.freezeValue .none = .none := rfl
    rw [Row.matched_eq named rfl, Row.matched_eq named rfl, Row.matched_eq named rfl, number, Comparator.equal,
      Comparator.notEqual, Comparator.member_single, frozen, Value.beq_swap, Value.none_beq_int, Bool.or_true]
    exact ⟨rfl, rfl, rfl⟩

end Store

namespace Accounts

/-- An address with more of them beside it. -/
def grouped : Value := .tuple [.str "a@b", .list [.str "c@d", .str "e@f"]]

def listed : Value := .list [.str "a@b", .str "c@d"]

theorem raw_texts (texts : List String) : ∀ v ∈ Value.strs texts, v.Raw := by
  intro v member
  obtain ⟨s, -, rfl⟩ := List.mem_map.mp member
  exact .text rfl

theorem grouped_raw : grouped.Raw := by
  refine .tuple (List.forall_mem_cons.mpr ⟨.text rfl, List.forall_mem_singleton.mpr (.list ?_)⟩)
  exact raw_texts ["c@d", "e@f"]

theorem listed_raw : listed.Raw := .list (raw_texts ["a@b", "c@d"])

end Accounts

open Accounts in
/-- A list within a tuple does not keep the row from being found. -/
theorem Store.matched_created_grouped : ∃ row s',
    empty.create [accounts] (.str "accounts") [(.str "email", grouped)] = (.ok row, s') ∧
      row.matched ref (.str "email") .eq grouped = .ok true ∧
      row.matched ref (.str "email") .neq grouped = .ok false ∧
      row.matched ref (.str "email") .isIn (.list [grouped]) = .ok true := by
  obtain ⟨row, s', created⟩ : ∃ row s', empty.create [accounts] (.str "accounts") [(.str "email", grouped)] =
      (.ok row, s') := ⟨_, _, rfl⟩
  obtain ⟨c, f, -, -, -, found⟩ := matched_created created (List.pairwise_singleton ..) (List.mem_singleton_self _)
    grouped_raw rfl ref
  exact ⟨row, s', created, found⟩

open Accounts in
/-- A row that is created with a list is not found by the list, but by that it differs. -/
theorem Store.not_matched_created : ∃ row s',
    empty.create [accounts] (.str "accounts") [(.str "email", listed)] = (.ok row, s') ∧ listed.Raw ∧
      row.column "email" = listed ∧
      row.matched ref (.str "email") .eq listed = .ok false ∧
      row.matched ref (.str "email") .neq listed = .ok true ∧
      row.matched ref (.str "email") .isIn (.list [listed]) = .ok true := by
  exact ⟨_, _, rfl, listed_raw, rfl, Row.matched_of_column rfl listed_raw rfl ref⟩

end ModelStore
