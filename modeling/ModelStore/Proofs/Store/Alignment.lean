import ModelStore.Proofs.Schema.Requests
import ModelStore.Proofs.Store.Uniqueness

/-!
The registers of a store. Collections, indexes, foreign keys, rows and committed rows are kept under the same
names, in whatever order a store is provisioned, written, committed and rolled back; and a row has no columns but
those that its collection declares.
-/

namespace ModelStore

variable {c : Collection} {row r given : Row}

/-- Whether a collection declares all columns of a row. -/
def Row.Within (row : Row) (c : Collection) : Prop := ∀ k ∈ row.keys, c.hasField k = true

namespace Row

theorem within_nil (c : Collection) : Within [] c := List.forall_mem_nil _

theorem Within.put {k : String} {v : Value} (within : row.Within c) (declared : c.hasField k = true) :
    Within (row.put k v) c := by
  intro k' member
  rw [Assoc.keys_put] at member
  split at member
  · exact within k' member
  · rcases List.mem_append.mp member with old | new
    · exact within k' old
    · rwa [List.mem_singleton.mp new]

end Row

theorem Collection.hasField_of_getField {k : Value} {f : CollectionField} (found : c.getField k = .ok f) :
    c.hasField f.name = true := by
  unfold getField lookup at found
  split at found
  · cases found
  · rename_i sought
    cases found
    obtain ⟨text, -, there⟩ := Option.bind_eq_some_iff.mp sought
    exact List.any_eq_true.mpr ⟨f, List.mem_of_find?_eq_some there, beq_self_eq_true _⟩
  · cases found

theorem Assoc.keys_ensure {β : Type} {m : Assoc String β} {k : String} {v : β} :
    (m.ensure k v).keys = if k ∈ m.keys then m.keys else m.keys ++ [k] := by
  have there : m.has k = true ↔ k ∈ m.keys := by rw [has_eq_isSome, get?_isSome_iff]
  unfold ensure
  by_cases member : k ∈ m.keys
  · rw [if_pos (there.mpr member), if_pos member]
  · rw [if_neg (there.not.mpr member), if_neg member, keys, List.map_append]
    rfl

namespace Store

variable {s s' : Store} {cs cs' : Catalog} {named : String → CollectionRef} {name : String} {rows : List Row}
  {ref : CollectionRef}

theorem within_overlaid {data : List (Value × Value)} (done : overlaid c row data = .ok r) (within : row.Within c) :
    r.Within c := by
  induction data generalizing row with
  | nil =>
    cases done
    exact within
  | cons e data ih =>
    rcases Outcome.of_bind done with ⟨f, found, done⟩
    exact ih done (within.put (Collection.hasField_of_getField found))

theorem Generated.within (generated : Generated c.fields given r) (within : given.Within c) : r.Within c := by
  intro k member
  by_cases field : ∃ f ∈ c.fields, f.name = k
  · obtain ⟨f, inside, rfl⟩ := field
    exact List.any_eq_true.mpr ⟨f, inside, beq_self_eq_true _⟩
  · have kept := generated.other k fun f inside called => absurd ⟨f, inside, called⟩ field
    obtain ⟨v, found⟩ := Assoc.exists_of_mem_keys member
    exact within k (Assoc.mem_keys_of_get? (kept ▸ found))

/-- Registers that know the same collections, each name standing for its own, and rows within what these declare. -/
structure Aligned (s : Store) (cs : Catalog) (named : String → CollectionRef) : Prop where
  distinct : s.shapes.keys.Nodup
  own : ∀ name ref, s.shapes.get? name = some ref → ref = named name
  indexes : s.indexes.keys = s.shapes.keys
  foreignKeys : s.foreignKeys.keys = s.shapes.keys
  working : s.working.keys = s.shapes.keys
  committed : s.committed.keys = s.shapes.keys
  rows : ∀ name, ∀ row ∈ s.rows name, row.Within (cs.get (named name))
  committedRows : ∀ name, ∀ row ∈ rowsOf s.committed name, row.Within (cs.get (named name))

namespace Aligned

theorem new (label : String) : ({ label } : Store).Aligned cs named where
  distinct := .nil
  own := fun _ _ none => nomatch none
  indexes := rfl
  foreignKeys := rfl
  working := rfl
  committed := rfl
  rows := fun _ => List.forall_mem_nil _
  committedRows := fun _ => List.forall_mem_nil _

/-- Collections may get further fields. -/
theorem grown (aligned : s.Aligned cs named)
    (fields : ∀ ref name, (cs.get ref).hasField name = true → (cs'.get ref).hasField name = true) :
    s.Aligned cs' named :=
  { aligned with
    rows := fun name row member k column => fields _ k (aligned.rows name row member k column)
    committedRows := fun name row member k column => fields _ k (aligned.committedRows name row member k column) }

theorem ensureCollection (aligned : s.Aligned cs named) (name : String) (called : (named name).name = name) :
    (s.ensureCollection (named name)).Aligned cs named where
  distinct := Assoc.nodup_put aligned.distinct
  own := by
    intro other ref found
    rw [Store.ensureCollection, Assoc.get?_put, called] at found
    split at found
    · rename_i same
      cases found
      rw [beq_iff_eq.mp same]
    · exact aligned.own other ref found
  indexes := by simp only [Store.ensureCollection, Assoc.keys_ensure, Assoc.keys_put, aligned.indexes]
  foreignKeys := by simp only [Store.ensureCollection, Assoc.keys_ensure, Assoc.keys_put, aligned.foreignKeys]
  working := by simp only [Store.ensureCollection, Assoc.keys_ensure, Assoc.keys_put, aligned.working]
  committed := by simp only [Store.ensureCollection, Assoc.keys_ensure, Assoc.keys_put, aligned.committed]
  rows := fun other => by
    rw [Store.rows, Store.ensureCollection, rowsOf_ensure]
    exact aligned.rows other
  committedRows := fun other => by
    rw [Store.ensureCollection, rowsOf_ensure]
    exact aligned.committedRows other

/-- An index or a foreign key is entered for a collection that is known. -/
theorem provision {r : Request} (aligned : s.Aligned cs named)
    (own : ∀ c, r = .collection c → named c.name = c) (done : Driver.provision s cs r = .ok s') :
    s'.Aligned cs named := by
  cases r with
  | collection c =>
    cases done
    have same := own c rfl
    have ensured := aligned.ensureCollection c.name (by rw [same])
    rwa [same] at ensured
  | index c i =>
    obtain ⟨d, shaped, done⟩ := Outcome.of_bind done
    obtain ⟨⟨⟩, -, done⟩ := Outcome.of_bind done
    obtain ⟨ref, known, -⟩ := shape_parts shaped
    have there : c.name ∈ s.indexes.keys := aligned.indexes ▸ Assoc.mem_keys_of_get? known
    split at done
    · cases done
    · cases done
      exact { aligned with indexes := by rw [Assoc.keys_put, if_pos there, aligned.indexes] }
  | foreignKey c k =>
    obtain ⟨d, shaped, done⟩ := Outcome.of_bind done
    obtain ⟨⟨⟩, -, done⟩ := Outcome.of_bind done
    obtain ⟨target, -, done⟩ := Outcome.of_bind done
    obtain ⟨⟨⟩, -, done⟩ := Outcome.of_bind done
    obtain ⟨ref, known, -⟩ := shape_parts shaped
    have there : c.name ∈ s.foreignKeys.keys := aligned.foreignKeys ▸ Assoc.mem_keys_of_get? known
    split at done
    · cases done
    · cases done
      exact { aligned with foreignKeys := by rw [Assoc.keys_put, if_pos there, aligned.foreignKeys] }

/-- Rows that are within their collection may be written in place of those of a collection that is known. -/
theorem setRows (aligned : s.Aligned cs named) (there : name ∈ s.shapes.keys)
    (within : ∀ row ∈ rows, row.Within (cs.get (named name))) : (s.setRows name rows).Aligned cs named :=
  { aligned with
    working := by rw [Store.setRows, Assoc.keys_put, if_pos (aligned.working ▸ there), aligned.working]
    rows := fun other row member => by
      rw [rows_setRows] at member
      split at member
      · rename_i same
        rw [beq_iff_eq.mp same]
        exact within row member
      · exact aligned.rows other row member }

theorem sequenced (aligned : s.Aligned cs named) (sequences : Assoc String Nat) :
    ({ s with sequences } : Store).Aligned cs named := { aligned with }

theorem shape_eq {v : Value} (aligned : s.Aligned cs named) (shaped : s.shape cs v = .ok c) :
    v.plainDisplay ∈ s.shapes.keys ∧ c = cs.get (named v.plainDisplay) := by
  obtain ⟨ref, known, rfl⟩ := shape_parts shaped
  rw [aligned.own _ ref known]
  exact ⟨Assoc.mem_keys_of_get? known, rfl⟩

/-- A write keeps the registers aligned, whether it succeeds or fails. -/
theorem write {x : Write} {outcome : Except Error Value} (aligned : s.Aligned cs named)
    (done : x.run s cs = (outcome, s')) : s'.Aligned cs named := by
  cases outcome with
  | error e =>
    obtain ⟨sequences, -, rfl⟩ := Write.run_error done
    exact aligned.sequenced sequences
  | ok answer =>
    cases x with
    | create collection data =>
      obtain ⟨row, created, -⟩ := Write.create_ok done
      obtain ⟨c, given, sequences, shaped, overlay, made, -, rfl⟩ := create_parts created
      obtain ⟨there, rfl⟩ := aligned.shape_eq shaped
      have generated := generate_cases collection.display (cs.get (named collection.plainDisplay)).fields given
        s.sequences
      rw [made] at generated
      have new := generated.within (within_overlaid overlay (Row.within_nil _))
      exact (aligned.sequenced sequences).setRows there
        (List.forall_mem_append.mpr ⟨aligned.rows _, List.forall_mem_singleton.mpr new⟩)
    | save collection key data =>
      obtain ⟨c, before, row, after, updated, shaped, found, overlay, -, rfl⟩ := save_parts (Write.replacing_ok done)
      obtain ⟨there, rfl⟩ := aligned.shape_eq shaped
      have all := aligned.rows collection.plainDisplay
      rw [(locate_cases found).1] at all
      obtain ⟨first, rest⟩ := List.forall_mem_append.mp all
      obtain ⟨old, last⟩ := List.forall_mem_cons.mp rest
      exact aligned.setRows there (List.forall_mem_append.mpr
        ⟨first, List.forall_mem_cons.mpr ⟨within_overlaid overlay old, last⟩⟩)
    | remove collection key =>
      have removed := Write.replacing_ok done
      obtain ⟨c, shaped, -⟩ := Outcome.of_bind removed
      obtain ⟨before, row, after, found, rfl⟩ := remove_parts removed
      obtain ⟨d, known, -⟩ := Outcome.of_map shaped
      have all := aligned.rows collection.plainDisplay
      rw [(locate_cases found).1] at all
      obtain ⟨first, rest⟩ := List.forall_mem_append.mp all
      exact aligned.setRows (aligned.shape_eq known).1
        (List.forall_mem_append.mpr ⟨first, (List.forall_mem_cons.mp rest).2⟩)

/-- Each step keeps the registers aligned, whether it succeeds or fails. -/
theorem step (aligned : s.Aligned cs named) (x : Step) : (x.run s cs).2.Aligned cs named := by
  cases x with
  | write w => exact aligned.write rfl
  | commit => exact { aligned with committed := aligned.working, committedRows := aligned.rows }
  | rollback => exact { aligned with working := aligned.committed, rows := aligned.committedRows }

/-- A collection that is known has its rows. -/
theorem rows_present (aligned : s.Aligned cs named) (there : name ∈ s.shapes.keys) :
    s.working.get? name = some (s.rows name) ∧ s.committed.get? name = some (rowsOf s.committed name) := by
  obtain ⟨table, working⟩ := Assoc.exists_of_mem_keys (aligned.working ▸ there)
  obtain ⟨table', committed⟩ := Assoc.exists_of_mem_keys (aligned.committed ▸ there)
  rw [Store.rows, rowsOf, working, rowsOf, committed]
  exact ⟨rfl, rfl⟩

/-- Rows are only kept of collections that are known, and within these. -/
theorem table_within (aligned : s.Aligned cs named) (table : (name, rows) ∈ s.working ++ s.committed) :
    ∃ ref, s.shapes.get? name = some ref ∧ ∀ row ∈ rows, row.Within (cs.get ref) := by
  have found : name ∈ s.shapes.keys ∧ (rows = s.rows name ∨ rows = rowsOf s.committed name) := by
    rcases List.mem_append.mp table with table | table
    · have kept := Assoc.get?_of_mem (aligned.working ▸ aligned.distinct) table
      exact ⟨aligned.working ▸ Assoc.mem_keys_of_get? kept, .inl (by rw [Store.rows, rowsOf, kept]; rfl)⟩
    · have kept := Assoc.get?_of_mem (aligned.committed ▸ aligned.distinct) table
      exact ⟨aligned.committed ▸ Assoc.mem_keys_of_get? kept, .inr (by rw [rowsOf, kept]; rfl)⟩
  obtain ⟨there, same⟩ := found
  obtain ⟨ref, known⟩ := Assoc.exists_of_mem_keys there
  refine ⟨ref, known, ?_⟩
  rw [aligned.own name ref known]
  rcases same with rfl | rfl
  · exact aligned.rows name
  · exact aligned.committedRows name

end Aligned

end Store

end ModelStore
