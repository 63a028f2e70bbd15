import ModelStore.Proofs.Store.Effects
import ModelStore.Proofs.Value.Symmetry

/-!
Keys stay unique. Rows that were compared before they were written differ from all others in each key,
or lack a part of it; commits and rollbacks only replace rows by others of which that holds.
-/

namespace ModelStore.Store

variable {s s' : Store} {cs : Catalog} {c : Collection} {ref : CollectionRef} {name : String}
  {rows others : List Row} {row : Row} {columns : List String} {k : Constraint}

/-- Two rows differ in one of the columns, or one of them has no value there. -/
def Apart (columns : List String) (row other : Row) : Prop :=
  (∀ k ∈ columns, (row.column k == other.column k) = true) →
    ∃ k ∈ columns, row.column k = .none ∨ other.column k = .none

/-- No two rows at different positions agree on all columns, unless a value is missing. -/
def Distinct (columns : List String) (rows : List Row) : Prop :=
  ∀ i j, (hi : i < rows.length) → (hj : j < rows.length) → i ≠ j → Apart columns rows[i] rows[j]

theorem Apart.symm {other : Row} (apart : Apart columns row other) : Apart columns other row := by
  intro same
  obtain ⟨k, member, missing⟩ := apart fun k member => by rw [Value.beq_swap, same k member]
  exact ⟨k, member, missing.symm⟩

theorem distinct_iff_pairwise : Distinct columns rows ↔ rows.Pairwise (Apart columns) := by
  rw [List.pairwise_iff_getElem]
  constructor
  · intro distinct i j hi hj less
    exact distinct i j hi hj (Nat.ne_of_lt less)
  · intro pairs i j hi hj other
    rcases Nat.lt_or_gt_of_ne other with less | more
    · exact pairs i j hi hj less
    · exact (pairs j i hj hi more).symm

theorem Distinct.nil : Distinct columns [] := distinct_iff_pairwise.mpr .nil

/-- A row that violates no constraint is apart from the others. -/
theorem apart_of_violated (kept : k.violated row others = false) :
    ∀ other ∈ others, Apart k.fields row other := by
  intro other member same
  by_cases missing : (k.key row).any Value.isNone = true
  · obtain ⟨v, inside, none⟩ := List.any_eq_true.mp missing
    obtain ⟨f, field, rfl⟩ := List.mem_map.mp inside
    exact ⟨f, field, .inl (Value.isNone_iff.mp none)⟩
  · have equal : Value.eqAll (k.key other) (k.key row) = true :=
      eqAll_map fun f field => by rw [Value.beq_swap, same f field]
    have violates : k.violated row others = true := by
      rw [Constraint.violated, Bool.eq_false_iff.mpr missing, Bool.not_false, Bool.true_and]
      exact List.any_eq_true.mpr ⟨other, member, equal⟩
    rw [kept] at violates
    cases violates

/-- A row that is put between others, in place of one of them, is related to those before and after it. -/
theorem pairwise_replaced {R : Row → Row → Prop} {before after : List Row} (rest : (before ++ after).Pairwise R)
    (left : ∀ x ∈ before, R x row) (right : ∀ x ∈ after, R row x) : (before ++ row :: after).Pairwise R := by
  obtain ⟨first, last, cross⟩ := List.pairwise_append.mp rest
  refine List.pairwise_append.mpr ⟨first, List.pairwise_cons.mpr ⟨right, last⟩, fun x member => ?_⟩
  exact List.forall_mem_cons.mpr ⟨left x member, cross x member⟩

/-! What a call leaves as it is. -/

/-- Everything of a store but its rows and sequences is the same. -/
structure Alike (s s' : Store) : Prop where
  shapes : s'.shapes = s.shapes
  indexes : s'.indexes = s.indexes

theorem constraints_eq (alike : Alike s s') : s'.constraints c name = s.constraints c name := by
  rw [constraints, constraints, alike.indexes]

theorem shape_eq {v : Value} (known : s.shapes.get? v.plainDisplay = some ref) (found : s.shape cs v = .ok c) :
    c = cs.get ref := by
  obtain ⟨other, there, rfl⟩ := shape_parts found
  rw [known] at there
  cases there
  rfl

namespace Write

variable {w : Write} {outcome : Except Error Value}

theorem alike (done : w.run s cs = (outcome, s')) :
    Alike s s' ∧ s'.committed = s.committed ∧ ∀ other, other ≠ w.table → s'.rows other = s.rows other := by
  cases outcome with
  | error e =>
    obtain ⟨sequences, -, rfl⟩ := run_error done
    exact ⟨⟨rfl, rfl⟩, rfl, fun _ _ => rfl⟩
  | ok answer =>
    obtain ⟨sequences, -, rfl⟩ := run_ok done
    refine ⟨⟨rfl, rfl⟩, rfl, fun other apart => ?_⟩
    rw [rows_setRows, if_neg (by simpa using apart)]
    rfl

/-- A relation of two rows that holds whenever they are apart is kept by the rows of a collection: a row that is
    written is apart from all others. -/
theorem pairwise_table {R : Row → Row → Prop} (apart : ∀ a b, Apart k.fields a b → R a b)
    (known : s.shapes.get? w.table = some ref) (constrained : k ∈ s.constraints (cs.get ref) w.table)
    (done : w.run s cs = (outcome, s')) (before : (s.rows w.table).Pairwise R) : (s'.rows w.table).Pairwise R := by
  cases outcome with
  | error e =>
    obtain ⟨sequences, -, rfl⟩ := run_error done
    exact before
  | ok answer =>
    cases w with
    | create collection data =>
      obtain ⟨r, created, -⟩ := create_ok done
      obtain ⟨c, given, sequences, shaped, -, -, unique, rfl⟩ := create_parts created
      cases shape_eq known shaped
      have others := apart_of_violated (checkUnique_cases unique k constrained)
      rw [table, rows_setRows, if_pos (beq_self_eq_true _)]
      refine List.pairwise_append.mpr ⟨before, List.pairwise_singleton _ _, fun other member x last => ?_⟩
      rw [List.mem_singleton.mp last]
      exact apart _ _ (others other member).symm
    | save collection key data =>
      obtain ⟨c, first, row, after, updated, shaped, found, -, unique, rfl⟩ := save_parts (replacing_ok done)
      cases shape_eq known shaped
      obtain ⟨left, right⟩ :=
        List.forall_mem_append.mp (apart_of_violated (checkUnique_cases unique k constrained))
      rw [table, rows_setRows, if_pos (beq_self_eq_true _)]
      rw [table, (locate_cases found).1] at before
      have rest := before.sublist (List.Sublist.append_left (List.sublist_cons_self row after) first)
      exact pairwise_replaced rest (fun x member => apart _ _ (left x member).symm)
        fun x member => apart _ _ (right x member)
    | remove collection key =>
      obtain ⟨first, row, after, found, rfl⟩ := remove_parts (replacing_ok done)
      rw [table, rows_setRows, if_pos (beq_self_eq_true _)]
      rw [table, (locate_cases found).1] at before
      exact before.sublist (List.Sublist.append_left (List.sublist_cons_self row after) first)

theorem pairwise_run {R : Row → Row → Prop} (apart : ∀ a b, Apart k.fields a b → R a b)
    (known : s.shapes.get? name = some ref) (constrained : k ∈ s.constraints (cs.get ref) name)
    (done : w.run s cs = (outcome, s')) (before : (s.rows name).Pairwise R) : (s'.rows name).Pairwise R := by
  -- a write leaves the rows of other collections as they are
  by_cases here : name = w.table
  · subst here
    exact pairwise_table apart known constrained done before
  · rw [(alike done).2.2 name here]
    exact before

/-- A write keeps the keys of the rows of its collection unique. -/
theorem distinct_run (known : s.shapes.get? name = some ref)
    (constrained : k ∈ s.constraints (cs.get ref) name) (done : w.run s cs = (outcome, s'))
    (before : Distinct k.fields (s.rows name)) : Distinct k.fields (s'.rows name) := by
  rw [distinct_iff_pairwise] at before ⊢
  exact pairwise_run (fun _ _ apart => apart) known constrained done before

end Write

/-- A write, or the end of a transaction. -/
inductive Step where
  | write (w : Write)
  | commit
  | rollback

def Step.run (s : Store) (cs : Catalog) : Step → Except Error Value × Store
  | .write w => w.run s cs
  | .commit => (.ok .none, s.commit)
  | .rollback => (.ok .none, s.rollback)

theorem Step.alike (x : Step) (s : Store) (cs : Catalog) : Alike s (x.run s cs).2 := by
  cases x with
  | write w => exact (Write.alike rfl).1
  | commit => exact ⟨rfl, rfl⟩
  | rollback => exact ⟨rfl, rfl⟩

/-- A collection with a key, and with a relation of its rows, and of its committed rows, as they stand. -/
structure Related (cs : Catalog) (ref : CollectionRef) (name : String) (k : Constraint) (R : Row → Row → Prop)
    (s : Store) : Prop where
  known : s.shapes.get? name = some ref
  constrained : k ∈ s.constraints (cs.get ref) name
  working : (s.rows name).Pairwise R
  committed : (rowsOf s.committed name).Pairwise R

/-- Each step keeps a relation that holds whenever two rows are apart in the key, whether it succeeds or fails. -/
theorem Related.step {R : Row → Row → Prop} {x : Step} (apart : ∀ a b, Apart k.fields a b → R a b)
    (related : Related cs ref name k R s) : Related cs ref name k R (x.run s cs).2 := by
  have same := x.alike s cs
  refine ⟨by rw [same.shapes, related.known], by rw [constraints_eq same]; exact related.constrained, ?_, ?_⟩
  · cases x with
    | write w => exact Write.pairwise_run apart related.known related.constrained rfl related.working
    | commit => exact related.working
    | rollback => exact related.committed
  · cases x with
    | write w =>
      have kept : (w.run s cs).2.committed = s.committed := (Write.alike rfl).2.1
      change (rowsOf (w.run s cs).2.committed name).Pairwise R
      rw [kept]
      exact related.committed
    | commit => exact related.working
    | rollback => exact related.committed

/-- A collection with keys that are unique in its rows and in its committed rows. -/
structure Keyed (cs : Catalog) (ref : CollectionRef) (name : String) (ks : List Constraint) (s : Store) :
    Prop where
  known : s.shapes.get? name = some ref
  constrained : s.constraints (cs.get ref) name = ks
  working : ∀ k ∈ ks, Distinct k.fields (s.rows name)
  committed : ∀ k ∈ ks, Distinct k.fields (rowsOf s.committed name)

/-- Each step keeps the keys of a collection unique, whether it succeeds or fails. -/
theorem Keyed.step {ks : List Constraint} {x : Step} (keyed : Keyed cs ref name ks s) :
    Keyed cs ref name ks (x.run s cs).2 := by
  have related : ∀ k ∈ ks, Related cs ref name k (Apart k.fields) (x.run s cs).2 := fun k member =>
    Related.step (fun _ _ apart => apart)
      ⟨keyed.known, by rwa [keyed.constrained], distinct_iff_pairwise.mp (keyed.working k member),
        distinct_iff_pairwise.mp (keyed.committed k member)⟩
  have same := x.alike s cs
  exact ⟨by rw [same.shapes, keyed.known], by rw [constraints_eq same, keyed.constrained],
    fun k member => distinct_iff_pairwise.mpr (related k member).working,
    fun k member => distinct_iff_pairwise.mpr (related k member).committed⟩

end ModelStore.Store
