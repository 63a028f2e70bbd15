import ModelStore.Proofs.Store.Writes

/-!
Writes as calls that answer or fail. A write that succeeds makes of the rows of its collection what its
arguments and its answer say; one that fails leaves all rows as they were; and neither takes a number
of a sequence back.
-/

namespace ModelStore

section Lists

variable {β : Type}

theorem set_middle (before after : List β) (old new : β) :
    (before ++ old :: after).set before.length new = before ++ new :: after := by
  simp

theorem eraseIdx_middle (before after : List β) (old : β) :
    (before ++ old :: after).eraseIdx before.length = before ++ after := by
  simp [List.eraseIdx_append]

theorem getElem?_replace (before after : List β) (old new : β) {i : Nat} (apart : i ≠ before.length) :
    (before ++ new :: after)[i]? = (before ++ old :: after)[i]? := by
  rw [← set_middle before after old new, List.getElem?_set_ne apart.symm]

end Lists

theorem Collection.plainDisplay_of_getField {c : Collection} {k : Value} {f : CollectionField}
    (found : c.getField k = .ok f) : f.name = k.plainDisplay := by
  unfold getField lookup at found
  split at found
  · cases found
  · rename_i sought
    cases found
    rcases Option.bind_eq_some_iff.mp sought with ⟨text, named, there⟩
    have same := List.find?_some there
    rw [Value.plainDisplay, named]
    exact beq_iff_eq.mp same
  · cases found

namespace Row

/-- The row with data written over it. -/
def written (row : Row) (data : List (Value × Value)) : Row :=
  data.foldl (fun row e => row.put e.1.plainDisplay e.2) row

/-- Whether the columns of a row equal the values of a key. -/
def carries (row : Row) (key : List (Value × Value)) : Bool :=
  key.all fun e => (e.1.text?.map row.column).getD .none == e.2

end Row

namespace Store

variable {s s' : Store} {cs : Catalog} {c : Collection} {row r : Row} {key data : List (Value × Value)}

theorem written_of_overlaid (done : overlaid c row data = .ok r) : r = row.written data := by
  induction data generalizing row with
  | nil =>
    cases done
    rfl
  | cons e data ih =>
    rcases Outcome.of_bind done with ⟨f, found, done⟩
    rw [Collection.plainDisplay_of_getField found] at done
    exact ih done

theorem carries_of_hasKey {b : Bool} (has : hasKey row key = .ok b) : row.carries key = b := by
  induction key with
  | nil =>
    cases has
    rfl
  | cons e key ih =>
    rcases Outcome.of_bind has with ⟨v, column, has⟩
    rcases Outcome.of_bind column with ⟨⟨⟩, -, same⟩
    cases same
    rw [Row.carries, List.all_cons]
    split at has
    · rename_i equal
      rw [equal, Bool.true_and]
      exact ih has
    · rename_i differs
      cases has
      rw [Bool.eq_false_iff.mpr differs, Bool.false_and]

/-- The row that is found is the first one that carries the key. -/
theorem split_first {rows before after : List Row}
    (found : split key rows = .ok (some (before, row, after))) :
    rows = before ++ row :: after ∧ row.carries key = true ∧ ∀ x ∈ before, x.carries key = false := by
  induction rows generalizing before with
  | nil => cases found
  | cons x rows ih =>
    rcases Outcome.of_bind found with ⟨has, here, rest⟩
    have carried := carries_of_hasKey here
    cases has with
    | true =>
      cases rest
      exact ⟨rfl, carried, List.forall_mem_nil _⟩
    | false =>
      rcases Outcome.of_bind rest with ⟨later, further, same⟩
      cases later with
      | none => cases same
      | some parts =>
        cases same
        obtain ⟨rfl, last, none⟩ := ih further
        exact ⟨rfl, last, List.forall_mem_cons.mpr ⟨carried, none⟩⟩

theorem locate_first {name : String} {rows before after : List Row}
    (found : locate name rows key = .ok (before, row, after)) :
    rows = before ++ row :: after ∧ row.carries key = true ∧ ∀ x ∈ before, x.carries key = false :=
  split_first (split_of_locate found)

theorem hasKey_toEntries (row key : Row) : hasKey row key.toEntries = .ok (row.carries key.toEntries) := by
  induction key with
  | nil => rfl
  | cons e key ih =>
    have column : row.columnOf (.str e.1) = .ok (row.column e.1) := rfl
    change hasKey row ((.str e.1, e.2) :: Row.toEntries key) = .ok (row.carries ((.str e.1, e.2) :: Row.toEntries key))
    simp only [hasKey, column, Bind.bind, Except.bind, Row.carries, List.all_cons]
    rw [show (((Value.str e.1).text?.map row.column).getD .none) = row.column e.1 from rfl]
    cases same : row.column e.1 == e.2 with
    | true => exact ih
    | false => rfl

section Columns

variable {name : String} {key : Row} {rows before after : List Row}

theorem isEmpty_toEntries (given : key ≠ []) : key.toEntries.isEmpty = false := by
  cases key with
  | nil => exact absurd rfl given
  | cons _ _ => rfl

/-- By the values of columns the first row is found that carries them. -/
theorem locate_middle (given : key ≠ []) (none : ∀ x ∈ before, x.carries key.toEntries = false)
    (here : row.carries key.toEntries = true) :
    locate name (before ++ row :: after) key.toEntries = .ok (before, row, after) := by
  have found : split key.toEntries (before ++ row :: after) = .ok (some (before, row, after)) := by
    induction before with
    | nil =>
      rw [List.nil_append, split, hasKey_toEntries, here]
      rfl
    | cons x before ih =>
      obtain ⟨first, rest⟩ := List.forall_mem_cons.mp none
      rw [List.cons_append, split, hasKey_toEntries, first]
      simp only [Bind.bind, Except.bind, ih rest, Bool.false_eq_true, if_false]
      rfl
  unfold locate
  rw [isEmpty_toEntries given, found]
  rfl

theorem locate_absent (given : key ≠ []) (none : ∀ x ∈ rows, x.carries key.toEntries = false) :
    locate name rows key.toEntries = .error (.missing .document (.str (keyText key.toEntries)) (some name) []) := by
  have lacking : split key.toEntries rows = .ok Option.none := by
    induction rows with
    | nil => rfl
    | cons x rows ih =>
      obtain ⟨first, rest⟩ := List.forall_mem_cons.mp none
      rw [split, hasKey_toEntries, first]
      simp only [Bind.bind, Except.bind, ih rest, Bool.false_eq_true, if_false]
      rfl
  unfold locate
  rw [isEmpty_toEntries given, lacking]
  rfl

end Columns

theorem replaceF_first {p : Row → Option Row} {before after : List Row} (here : p row = some r)
    (none : ∀ x ∈ before, p x = none) :
    (before ++ row :: after).replaceF p = before ++ r :: after := by
  induction before with
  | nil => simp [here]
  | cons x before ih =>
    obtain ⟨first, rest⟩ := List.forall_mem_cons.mp none
    simp [first, ih rest]

theorem eraseP_first {p : Row → Bool} {before after : List Row} (here : p row = true)
    (none : ∀ x ∈ before, p x = false) : (before ++ row :: after).eraseP p = before ++ after := by
  rw [List.eraseP_append_right _ fun x member => by simp [none x member], List.eraseP_cons_of_pos here]

/-- A call that writes rows. -/
inductive Write where
  | create (collection : Value) (data : List (Value × Value))
  | save (collection : Value) (key data : List (Value × Value))
  | remove (collection : Value) (key : List (Value × Value))

namespace Write

def table : Write → String
  | .create collection _ | .save collection _ _ | .remove collection _ => collection.plainDisplay

/-- An answer without a value, or an error that leaves the store as it was. -/
def replacing (s : Store) : Except Error Store → Except Error Value × Store
  | .ok s' => (.ok .none, s')
  | .error e => (.error e, s)

/-- The answer of a store, and the store after it. -/
def run (s : Store) (cs : Catalog) : Write → Except Error Value × Store
  | .create collection data => (s.create cs collection data).map (Row.toValue <$> ·) id
  | .save collection key data => replacing s (s.save cs collection key data)
  | .remove collection key => replacing s (s.remove cs collection key)

/-- What a write makes of the rows of its collection, by its answer: it adds the row that it answers, or
    it writes over the first row with the key, or it deletes that. -/
def effect (answer : Value) (rows : List Row) : Write → List Row
  | .create _ _ => rows ++ [Row.ofEntries answer.entryList]
  | .save _ key data => rows.replaceF fun row => if row.carries key then some (row.written data) else none
  | .remove _ key => rows.eraseP (·.carries key)

variable {w : Write} {answer : Value} {e : Error}

theorem replacing_ok {x : Except Error Store} (done : replacing s x = (.ok answer, s')) : x = .ok s' := by
  cases x with
  | error e => cases done
  | ok s'' =>
    cases done
    rfl

theorem replacing_answer {x : Except Error Store} (done : replacing s x = (.ok answer, s')) :
    answer = .none := by
  cases x with
  | error e => cases done
  | ok s'' =>
    cases done
    rfl

theorem replacing_error {x : Except Error Store} (failed : replacing s x = (.error e, s')) : s' = s := by
  cases x with
  | error e =>
    cases failed
    rfl
  | ok s'' => cases failed

theorem create_ok {collection : Value} (done : (create collection data).run s cs = (.ok answer, s')) :
    ∃ r, s.create cs collection data = (.ok r, s') ∧ answer = r.toValue := by
  rw [run] at done
  generalize s.create cs collection data = made at *
  obtain ⟨outcome, s₁⟩ := made
  cases outcome with
  | error e => cases done
  | ok r =>
    cases done
    exact ⟨r, rfl, rfl⟩

theorem ofEntries_toValue (row : Row) : Row.ofEntries row.toValue.entryList = row :=
  Row.ofEntries_toEntries row

/-- A write that succeeds changes the rows of its collection as it says. -/
theorem run_ok (done : w.run s cs = (.ok answer, s')) :
    ∃ sequences, Grows s.sequences sequences ∧
      s' = ({ s with sequences } : Store).setRows w.table (w.effect answer (s.rows w.table)) := by
  cases w with
  | create collection data =>
    obtain ⟨r, created, rfl⟩ := create_ok done
    obtain ⟨c, given, sequences, -, -, made, -, rfl⟩ := create_parts created
    have grown := grows_generate collection.display c.fields given s.sequences
    rw [made] at grown
    exact ⟨sequences, grown, by rw [effect, ofEntries_toValue]; rfl⟩
  | save collection key data =>
    obtain ⟨c, before, row, after, updated, -, found, overlay, -, rfl⟩ := save_parts (replacing_ok done)
    obtain ⟨rows, carried, none⟩ := locate_first found
    refine ⟨s.sequences, .refl _, ?_⟩
    have replaced : (before ++ row :: after).replaceF
        (fun row => if row.carries key then some (row.written data) else Option.none) =
          before ++ updated :: after := by
      refine replaceF_first ?_ fun x member => by rw [if_neg (by simp [none x member])]
      rw [if_pos carried, written_of_overlaid overlay]
    rw [effect, table, rows, replaced]
  | remove collection key =>
    obtain ⟨before, row, after, found, rfl⟩ := remove_parts (replacing_ok done)
    obtain ⟨rows, carried, none⟩ := locate_first found
    exact ⟨s.sequences, .refl _, by rw [effect, table, rows, eraseP_first carried none]⟩

/-- A write that fails leaves all but the sequences as it was. -/
theorem run_error (failed : w.run s cs = (.error e, s')) :
    ∃ sequences, Grows s.sequences sequences ∧ s' = { s with sequences } := by
  cases w with
  | create collection data =>
    rw [run] at failed
    generalize created : s.create cs collection data = made at failed
    obtain ⟨outcome, s₁⟩ := made
    cases outcome with
    | error e =>
      cases failed
      exact create_failed created
    | ok r => cases failed
  | save collection key data => exact ⟨s.sequences, .refl _, replacing_error failed⟩
  | remove collection key => exact ⟨s.sequences, .refl _, replacing_error failed⟩

/-- A created row holds all that is given and not missing. -/
theorem created_row {collection : Value} (done : (create collection data).run s cs = (.ok answer, s')) :
    ∃ row : Row, answer = row.toValue ∧ ∀ k, ((Row.written [] data).column k).isNone = false →
      row.get? k = (Row.written [] data).get? k := by
  obtain ⟨r, created, rfl⟩ := create_ok done
  obtain ⟨c, given, sequences, -, overlay, made, -, -⟩ := create_parts created
  have generated := generate_cases collection.display c.fields given s.sequences
  rw [made, written_of_overlaid overlay] at generated
  exact ⟨r, rfl, generated.kept⟩

end Write

end Store

end ModelStore
