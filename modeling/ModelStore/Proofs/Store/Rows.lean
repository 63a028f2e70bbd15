import ModelStore.Mapping.Writing
import ModelStore.Proofs.Assoc
import ModelStore.Proofs.Outcome
import ModelStore.Store.Writing

/-!
Rows column by column: what is in a row after columns were written over it, missing ones generated, or
all of them converted.
-/

namespace ModelStore

variable {c : Collection} {row r given : Row} {dir : Direction} {k : String}

theorem Collection.name_of_getField {f : CollectionField} (found : c.getField (.str k) = .ok f) :
    f.name = k := by
  simp only [getField, lookup, Value.unhashable?, Value.text?, Option.bind_some] at found
  cases sought : c.fields.find? (·.name == k) with
  | none =>
    rw [sought] at found
    cases found
  | some g =>
    rw [sought] at found
    cases found
    have same := List.find?_some sought
    exact beq_iff_eq.mp same

namespace Row

theorem isNone_column_of_get?_eq_none (absent : row.get? k = none) : (row.column k).isNone = true := by
  rw [column, absent]
  rfl

theorem column_of_get? {v : Value} (found : row.get? k = some v) : row.column k = v := by
  rw [column, found, Option.getD_some]

theorem ofEntries_toEntries (row : Row) : ofEntries row.toEntries = row := by
  induction row with
  | nil => rfl
  | cons e row ih => exact congrArg (e :: ·) ih

end Row

namespace Store

theorem get?_overlaid (done : overlaid c row given.toEntries = .ok r)
    (distinct : given.keys.Nodup) (k : String) : r.get? k = (given.get? k).or (row.get? k) := by
  induction given generalizing row with
  | nil =>
    cases done
    rfl
  | cons e given ih =>
    rcases Outcome.of_bind done with ⟨f, found, done⟩
    rw [Collection.name_of_getField found] at done
    rw [Assoc.keys, List.map_cons, List.nodup_cons] at distinct
    rw [ih done distinct.2, Assoc.get?_cons, Assoc.get?_put]
    by_cases here : k = e.1
    · have absent : Assoc.get? given k = none := Assoc.get?_eq_none_iff.mpr (here ▸ distinct.1)
      rw [absent, here, beq_self_eq_true]
      rfl
    · rw [beq_eq_false_iff_ne.mpr here]
      rfl

theorem nodup_overlaid {data : List (Value × Value)} (done : overlaid c row data = .ok r)
    (distinct : row.keys.Nodup) : r.keys.Nodup := by
  induction data generalizing row with
  | nil =>
    cases done
    exact distinct
  | cons e data ih =>
    rcases Outcome.of_bind done with ⟨f, -, done⟩
    exact ih done (Assoc.nodup_put distinct)

/-- What generation makes of a row: missing columns with a sequence get a number. -/
structure Generated (fs : List CollectionField) (row r : Row) : Prop where
  distinct : row.keys.Nodup → r.keys.Nodup
  kept : ∀ k, (row.column k).isNone = false → r.get? k = row.get? k
  other : ∀ k, (∀ f ∈ fs, f.name = k → f.sequence.isPresent = false) → r.get? k = row.get? k
  fresh : ∀ f ∈ fs, f.sequence.isPresent = true → (row.column f.name).isNone = true →
    ∃ n : Nat, r.get? f.name = some (.int n)

theorem sequenceOf_isSome (table : String) (f : CollectionField) :
    (sequenceOf table f).isSome = f.sequence.isPresent := by
  unfold sequenceOf
  cases f.sequence <;> rfl

namespace Generated

theorem skip {f : CollectionField} (rest : Generated fs row r)
    (settled : f.sequence.isPresent = true → (row.column f.name).isNone = true → False) :
    Generated (f :: fs) row r :=
  ⟨rest.distinct, rest.kept, fun k none => rest.other k fun g member => none g (List.mem_cons_of_mem _ member),
    List.forall_mem_cons.mpr ⟨fun sequence unset => (settled sequence unset).elim, rest.fresh⟩⟩

theorem put {f : CollectionField} {n : Nat} (sequence : f.sequence.isPresent = true)
    (missing : (row.column f.name).isNone = true) (rest : Generated fs (row.put f.name (.int n)) r) :
    Generated (f :: fs) row r := by
  have written : Row.column (row.put f.name (.int n)) f.name = .int n := by
    rw [Row.column, Assoc.get?_put_self, Option.getD_some]
  have own := rest.kept f.name (by rw [written]; rfl)
  rw [Assoc.get?_put_self] at own
  have apart : ∀ k, k ≠ f.name → Row.column (row.put f.name (.int n)) k = row.column k :=
    fun k other => by rw [Row.column, Assoc.get?_put_ne other, Row.column]
  refine ⟨fun distinct => rest.distinct (Assoc.nodup_put distinct), fun k some => ?_, fun k none => ?_,
    List.forall_mem_cons.mpr ⟨fun _ _ => ⟨n, own⟩, fun g member sequence unset => ?_⟩⟩
  · have other : k ≠ f.name := by
      rintro rfl
      rw [missing] at some
      cases some
    rw [rest.kept k (by rwa [apart k other]), Assoc.get?_put_ne other]
  · have other : k ≠ f.name := by
      rintro rfl
      cases sequence.symm.trans (none f (List.mem_cons_self ..) rfl)
    rw [rest.other k fun g member => none g (List.mem_cons_of_mem _ member), Assoc.get?_put_ne other]
  · -- a later field of the same name finds the number that was put
    by_cases same : g.name = f.name
    · exact ⟨n, same ▸ own⟩
    · exact rest.fresh g member sequence (by rwa [apart g.name same])

end Generated

theorem generate_cases (table : String) (fs : List CollectionField) (row : Row)
    (sequences : Assoc String Nat) : Generated fs row (generate table fs row sequences).1 := by
  induction fs generalizing row sequences with
  | nil => exact ⟨id, fun _ _ => rfl, fun _ _ => rfl, List.forall_mem_nil _⟩
  | cons f fs ih =>
    have present := sequenceOf_isSome table f
    unfold generate
    cases found : sequenceOf table f with
    | none =>
      rw [found] at present
      exact (ih row sequences).skip fun sequence _ => Bool.false_ne_true (present.trans sequence)
    | some name =>
      rw [found] at present
      dsimp only
      split
      · rename_i missing
        exact (ih _ _).put present.symm missing
      · rename_i given
        exact (ih row sequences).skip fun _ => given

end Store

namespace Collection

/-- A converted row has the same columns, each with its value converted. -/
theorem convertRow_cases (done : c.convertRow dir row = .ok r) :
    r.keys = row.keys ∧ ∀ k v, row.get? k = some v → ∃ f raw, c.getField (.str k) = .ok f ∧
      dir.convert f.converter v = .ok raw ∧ r.get? k = some raw := by
  induction row generalizing r with
  | nil =>
    cases done
    exact ⟨rfl, fun k v found => nomatch found⟩
  | cons e row ih =>
    rcases Outcome.of_bind done with ⟨f, found, done⟩
    rcases Outcome.of_bind done with ⟨raw, converted, done⟩
    rcases Outcome.of_bind done with ⟨rest, tail, done⟩
    cases done
    obtain ⟨keys, columns⟩ := ih tail
    have name := name_of_getField found
    have ok : dir.convert f.converter e.2 = .ok raw := by
      cases made : dir.convert f.converter e.2 with
      | error x =>
        rw [made] at converted
        cases converted
      | ok raw' =>
        rw [made] at converted
        cases converted
        rfl
    refine ⟨?_, fun k v given => ?_⟩
    · rw [Assoc.keys, List.map_cons, name]
      exact congrArg (e.1 :: ·) keys
    · rw [Assoc.get?_cons] at given
      rw [Assoc.get?_cons, name]
      split at given
      · rename_i here
        cases given
        rw [here]
        rw [beq_iff_eq] at here
        exact ⟨f, raw, here ▸ found, ok, rfl⟩
      · rename_i there
        rw [if_neg there]
        exact columns k v given

theorem get?_convertRow_eq_none (done : c.convertRow dir row = .ok r) (absent : row.get? k = none) :
    r.get? k = none := by
  rw [Assoc.get?_eq_none_iff] at absent ⊢
  rwa [(convertRow_cases done).1]

theorem exists_convertRow (all : ∀ e ∈ row, ∃ f raw, c.getField (.str e.1) = .ok f ∧
    dir.convert f.converter e.2 = .ok raw) : ∃ r, c.convertRow dir row = .ok r := by
  induction row with
  | nil => exact ⟨[], rfl⟩
  | cons e row ih =>
    rcases all e (List.mem_cons_self ..) with ⟨f, raw, found, converted⟩
    rcases ih fun x member => all x (List.mem_cons_of_mem _ member) with ⟨r, rest⟩
    refine ⟨(f.name, raw) :: r, ?_⟩
    simp only [convertRow, found, converted, rest, Error.ofFault, Bind.bind, Except.bind, Pure.pure,
      Except.pure]

theorem convertFields_row (dir : Direction) (row : Row) :
    c.convertFields dir (row.map fun e => (.str e.1, .list [e.2])) =
      (fun r => r.map fun e => (e.1, [e.2])) <$> c.convertRow dir row := by
  induction row with
  | nil => rfl
  | cons e row ih =>
    simp only [List.map_cons, convertFields, ih, convertRow, Value.items, Value.items?, convertAll,
      Bind.bind, Except.bind, Pure.pure, Except.pure]
    cases c.getField (.str e.1) with
    | error x => rfl
    | ok f =>
      dsimp only
      cases dir.convert f.converter e.2 with
      | error x => rfl
      | ok raw =>
        dsimp only [Error.ofFault]
        cases c.convertRow dir row with
        | error x => rfl
        | ok r => rfl

end Collection

end ModelStore
