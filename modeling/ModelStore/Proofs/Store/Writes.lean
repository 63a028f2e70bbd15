import ModelStore.Driver
import ModelStore.Proofs.Store.Rows

/-!
What the writes of a store do to it. Only the rows of the one collection change, and only if the write
succeeds; generated numbers are never given again.
-/

namespace ModelStore.Store

variable {s s' : Store} {cs : Catalog} {name : String} {row r : Row}
  {key data : List (Value × Value)} {c : Collection}

theorem shape_parts {v : Value} (found : s.shape cs v = .ok c) :
    ∃ ref, s.shapes.get? v.plainDisplay = some ref ∧ c = cs.get ref := by
  rcases Outcome.of_map found with ⟨ref, known, rfl⟩
  unfold Collection.lookup at known
  split at known
  · cases known
  · rename_i sought
    cases known
    rcases Option.bind_eq_some_iff.mp sought with ⟨text, named, there⟩
    refine ⟨ref, ?_, rfl⟩
    rw [Value.plainDisplay, named]
    exact there
  · cases known

theorem shape_of_get? {ref : CollectionRef} (known : s.shapes.get? name = some ref) :
    s.shape cs (.str name) = .ok (cs.get ref) := by
  simp only [shape, Collection.lookup, Value.unhashable?, Value.text?, Option.bind_some, known]
  rfl

theorem rows_setRows (table : String) (rows : List Row) :
    (s.setRows name rows).rows table = if table == name then rows else s.rows table := by
  rw [Store.rows, rowsOf, setRows, Assoc.get?_put]
  split <;> rfl

/-- A new row is what is given and generated; it comes last, if it is no second one of any key. -/
theorem create_parts {v : Value} (done : s.create cs v data = (.ok r, s')) :
    ∃ c given sequences, s.shape cs v = .ok c ∧ overlaid c [] data = .ok given ∧
      generate v.display c.fields given s.sequences = (r, sequences) ∧
      s.checkUnique c v.plainDisplay r (s.rows v.plainDisplay) = .ok () ∧
      s' = ({ s with sequences } : Store).setRows v.plainDisplay (s.rows v.plainDisplay ++ [r]) := by
  unfold create at done
  split at done
  · cases done
  · rename_i c shaped
    split at done
    · cases done
    · rename_i given overlay
      dsimp only at done
      split at done
      · cases done
      · rename_i unique
        cases done
        exact ⟨c, given, _, shaped, overlay, rfl, unique, rfl⟩

theorem create_cases (done : s.create cs (.str name) data = (.ok r, s')) :
    ∃ c given sequences, s.shape cs (.str name) = .ok c ∧ overlaid c [] data = .ok given ∧
      Generated c.fields given r ∧ s.checkUnique c name r (s.rows name) = .ok () ∧
      s' = ({ s with sequences } : Store).setRows name (s.rows name ++ [r]) := by
  rcases create_parts done with ⟨c, given, sequences, shaped, overlay, made, unique, same⟩
  have generated := generate_cases name c.fields given s.sequences
  rw [show generate name c.fields given s.sequences = (r, sequences) from made] at generated
  exact ⟨c, given, sequences, shaped, overlay, generated, unique, same⟩

/-- Rows are only created in collections that the store knows. -/
theorem exists_shape_of_create (done : s.create cs (.str name) data = (.ok r, s')) :
    ∃ ref, s.shapes.get? name = some ref := by
  obtain ⟨c, -, -, shaped, -⟩ := create_cases done
  obtain ⟨ref, known, -⟩ := shape_parts shaped
  exact ⟨ref, known⟩

/-- No number of a sequence is given again. -/
def Grows (before after : Assoc String Nat) : Prop :=
  ∀ sequence, (before.get? sequence).getD 0 ≤ (after.get? sequence).getD 0

theorem Grows.refl (m : Assoc String Nat) : Grows m m := fun _ => Nat.le_refl _

theorem Grows.trans {l m n : Assoc String Nat} (first : Grows l m) (second : Grows m n) : Grows l n :=
  fun sequence => Nat.le_trans (first sequence) (second sequence)

theorem grows_put (m : Assoc String Nat) (sequence : String) :
    Grows m (m.put sequence ((m.get? sequence).getD 0 + 1)) := by
  intro other
  rw [Assoc.get?_put]
  split
  · rename_i same
    rw [beq_iff_eq.mp same, Option.getD_some]
    omega
  · exact Nat.le_refl _

theorem grows_generate (table : String) (fs : List CollectionField) (row : Row)
    (sequences : Assoc String Nat) : Grows sequences (generate table fs row sequences).2 := by
  induction fs generalizing row sequences with
  | nil => exact .refl _
  | cons f fs ih =>
    unfold generate
    split
    · dsimp only
      split
      · exact (grows_put sequences _).trans (ih _ _)
      · exact ih row sequences
    · exact ih row sequences

/-- A row that is refused leaves all but the sequences as it was. -/
theorem create_failed {v : Value} {e : Error} (failed : s.create cs v data = (.error e, s')) :
    ∃ sequences, Grows s.sequences sequences ∧ s' = { s with sequences } := by
  unfold create at failed
  split at failed
  · cases failed
    exact ⟨s.sequences, .refl _, rfl⟩
  · split at failed
    · cases failed
      exact ⟨s.sequences, .refl _, rfl⟩
    · dsimp only at failed
      split at failed
      · cases failed
        exact ⟨_, grows_generate _ _ _ _, rfl⟩
      · cases failed

theorem create_error {e : Error} (failed : s.create cs (.str name) data = (.error e, s')) :
    ∃ sequences, s' = { s with sequences } := by
  rcases create_failed failed with ⟨sequences, -, same⟩
  exact ⟨sequences, same⟩

theorem checkUnique_cases {others : List Row} (unique : s.checkUnique c name row others = .ok ()) :
    ∀ k ∈ s.constraints c name, k.violated row others = false := by
  unfold checkUnique at unique
  split at unique
  · cases unique
  · rename_i none
    intro k member
    exact Bool.eq_false_iff.mpr (List.find?_eq_none.mp none k member)

theorem eqAll_map {fs : List String} (same : ∀ k ∈ fs, (row.column k == r.column k) = true) :
    Value.eqAll (fs.map row.column) (fs.map r.column) = true := by
  induction fs with
  | nil => rw [List.map_nil, List.map_nil, Value.eqAll]
  | cons k fs ih =>
    rw [List.map_cons, List.map_cons, Value.eqAll, Bool.and_eq_true]
    exact ⟨same k (List.mem_cons_self ..), ih fun j member => same j (List.mem_cons_of_mem _ member)⟩

/-- A row that was not refused is the only one with its primary key, if no part of that is missing. -/
theorem primaryKey_unique {others : List Row} (unique : s.checkUnique c name row others = .ok ())
    (keyed : c.primaryKey ≠ []) (present : ∀ f ∈ c.primaryKey, (row.column f.name).isNone = false) :
    ∀ other ∈ others, ∃ f ∈ c.primaryKey, (other.column f.name == row.column f.name) = false := by
  intro other member
  have listed : ⟨"primary key", c.primaryKey.map (·.name)⟩ ∈ s.constraints c name := by
    refine List.mem_append_left _ ?_
    rw [primaryKeyConstraint, if_neg (by rwa [List.isEmpty_iff]), List.mem_singleton]
  have kept := checkUnique_cases unique _ listed
  have given : ((c.primaryKey.map (·.name)).map row.column).any Value.isNone = false := by
    rw [List.map_map, List.any_map, List.any_eq_false]
    intro f field missing
    rw [Function.comp_apply, Function.comp_apply, present f field] at missing
    cases missing
  rw [Constraint.violated, Constraint.key, given, Bool.not_false, Bool.true_and, List.any_eq_false] at kept
  cases whole : c.primaryKey.all fun f => other.column f.name == row.column f.name with
  | true =>
    refine (kept other member (eqAll_map fun k inside => ?_)).elim
    rcases List.mem_map.mp inside with ⟨f, field, rfl⟩
    exact List.all_eq_true.mp whole f field
  | false =>
    rcases List.all_eq_false.mp whole with ⟨f, field, differs⟩
    exact ⟨f, field, Bool.eq_false_iff.mpr differs⟩

theorem split_cases {rows before after : List Row}
    (found : split key rows = .ok (some (before, row, after))) :
    rows = before ++ row :: after ∧ hasKey row key = .ok true := by
  induction rows generalizing before with
  | nil => cases found
  | cons x rows ih =>
    rcases Outcome.of_bind found with ⟨has, here, rest⟩
    cases has with
    | true =>
      cases rest
      exact ⟨rfl, here⟩
    | false =>
      rcases Outcome.of_bind rest with ⟨later, further, same⟩
      cases later with
      | none => cases same
      | some parts =>
        cases same
        obtain ⟨rfl, key⟩ := ih further
        exact ⟨rfl, key⟩

theorem split_of_locate {rows before after : List Row}
    (found : locate name rows key = .ok (before, row, after)) :
    split key rows = .ok (some (before, row, after)) := by
  unfold locate at found
  split at found
  · cases found
  · rcases Outcome.of_bind found with ⟨parts, sought, same⟩
    cases parts with
    | none => cases same
    | some parts =>
      cases same
      exact Outcome.of_fault sought

theorem locate_cases {rows before after : List Row}
    (found : locate name rows key = .ok (before, row, after)) :
    rows = before ++ row :: after ∧ hasKey row key = .ok true :=
  split_cases (split_of_locate found)

/-- The first row with the key is written over, if the result is no second one of any key. -/
theorem save_parts {v : Value} (done : s.save cs v key data = .ok s') :
    ∃ c before row after updated, s.shape cs v = .ok c ∧
      locate v.plainDisplay (s.rows v.plainDisplay) key = .ok (before, row, after) ∧
      overlaid c row data = .ok updated ∧
      s.checkUnique c v.plainDisplay updated (before ++ after) = .ok () ∧
      s' = s.setRows v.plainDisplay (before ++ updated :: after) := by
  rcases Outcome.of_bind done with ⟨c, shaped, done⟩
  rcases Outcome.of_bind done with ⟨⟨⟩, -, done⟩
  rcases Outcome.of_bind done with ⟨⟨before, row, after⟩, found, done⟩
  rcases Outcome.of_bind done with ⟨updated, overlay, done⟩
  rcases Outcome.of_bind done with ⟨⟨⟩, unique, done⟩
  cases done
  exact ⟨c, before, row, after, updated, shaped, found, overlay, unique, rfl⟩

theorem save_cases (done : s.save cs (.str name) key data = .ok s') :
    ∃ c before row after updated, s.shape cs (.str name) = .ok c ∧
      s.rows name = before ++ row :: after ∧ hasKey row key = .ok true ∧
      overlaid c row data = .ok updated ∧ s' = s.setRows name (before ++ updated :: after) := by
  rcases save_parts done with ⟨c, before, row, after, updated, shaped, found, overlay, -, same⟩
  obtain ⟨rows, has⟩ := locate_cases found
  exact ⟨c, before, row, after, updated, shaped, rows, has, overlay, same⟩

theorem remove_parts {v : Value} (done : s.remove cs v key = .ok s') :
    ∃ before row after,
      locate v.plainDisplay (s.rows v.plainDisplay) key = .ok (before, row, after) ∧
      s' = s.setRows v.plainDisplay (before ++ after) := by
  rcases Outcome.of_bind done with ⟨⟨⟩, -, done⟩
  rcases Outcome.of_bind done with ⟨⟨before, row, after⟩, found, done⟩
  cases done
  exact ⟨before, row, after, found, rfl⟩

theorem remove_cases (done : s.remove cs (.str name) key = .ok s') :
    ∃ before row after, s.rows name = before ++ row :: after ∧
      s' = s.setRows name (before ++ after) := by
  rcases remove_parts done with ⟨before, row, after, found, same⟩
  exact ⟨before, row, after, (locate_cases found).1, same⟩

end ModelStore.Store

namespace ModelStore.Driver

variable {s : Store} {evaluator : Option Nat} {cs : Catalog} {collection : Value}
  {data : List (Value × Value)} {d : Driver}

theorem create_cases {answer : Except Error Value}
    (done : (Driver.memory s evaluator).create cs collection data = (answer, d)) :
    ∃ outcome s', s.create cs collection data = (outcome, s') ∧ answer = Row.toValue <$> outcome ∧
      d = .memory s' evaluator := by
  cases done
  exact ⟨_, _, rfl, rfl, rfl⟩

theorem save_cases {key : List (Value × Value)}
    (done : (Driver.memory s evaluator).save cs collection key data = .ok d) :
    ∃ s', s.save cs collection key data = .ok s' ∧ d = .memory s' evaluator := by
  rcases Outcome.of_map done with ⟨s', saved, rfl⟩
  exact ⟨s', saved, rfl⟩

theorem remove_cases {key : List (Value × Value)}
    (done : (Driver.memory s evaluator).remove cs collection key = .ok d) :
    ∃ s', s.remove cs collection key = .ok s' ∧ d = .memory s' evaluator := by
  rcases Outcome.of_map done with ⟨s', removed, rfl⟩
  exact ⟨s', removed, rfl⟩

end ModelStore.Driver
