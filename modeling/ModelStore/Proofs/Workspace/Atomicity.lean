import ModelStore.Proofs.Workspace.Calls

/-!
Writes are atomic and local. One that fails changes no row and no declaration, only the counters of a
sequence may have gone on; one that succeeds changes the rows of one collection, at one place.
-/

namespace ModelStore

namespace Store

variable {s s' : Store} {cs : Catalog} {table : String} {fs : List CollectionField} {f : CollectionField}
  {row given : Row} {before after sequences : Assoc String Nat} {x : Write} {answer : Value}
  {outcome : Except Error Value}

/-- What a number of a sequence is that is given between two states of the counters. -/
def Drawn (before after : Assoc String Nat) (sequence : String) (n : Nat) : Prop :=
  (before.get? sequence).getD 0 < n ∧ n ≤ (after.get? sequence).getD 0

theorem Drawn.earlier {sequence : String} {n : Nat} (drawn : Drawn sequences after sequence n)
    (grown : Grows before sequences) : Drawn before after sequence n :=
  ⟨Nat.lt_of_le_of_lt (grown sequence) drawn.1, drawn.2⟩

/-- A field that is missing has a number drawn from the sequence of the first field of its name. -/
def Numbered (table : String) (fs : List CollectionField) (f : CollectionField) (row : Row)
    (before after : Assoc String Nat) : Prop :=
  ∃ g ∈ fs, g.name = f.name ∧ ∃ sequence, sequenceOf table g = some sequence ∧
    ∃ n : Nat, row.get? f.name = some (.int n) ∧ Drawn before after sequence n

theorem Numbered.cons {g : CollectionField} (rest : Numbered table fs f row sequences after)
    (grown : Grows before sequences) : Numbered table (g :: fs) f row before after := by
  obtain ⟨h, member, name, sequence, own, n, value, drawn⟩ := rest
  exact ⟨h, List.mem_cons_of_mem _ member, name, sequence, own, n, value, drawn.earlier grown⟩

/-- The number that is put in a missing field stays there. -/
theorem numbered_put {g : CollectionField} {sequence : String} {next : Nat}
    (found : sequenceOf table g = some sequence) (same : g.name = f.name)
    (counted : next = (sequences.get? sequence).getD 0 + 1) :
    Numbered table (g :: fs) f (generate table fs (row.put g.name (.int next)) (sequences.put sequence next)).1
      sequences (generate table fs (row.put g.name (.int next)) (sequences.put sequence next)).2 := by
  have written : Row.column (row.put g.name (.int next)) g.name = .int next := by
    rw [Row.column, Assoc.get?_put_self, Option.getD_some]
  have kept := (generate_cases table fs (row.put g.name (.int next)) (sequences.put sequence next)).kept
    g.name (by rw [written]; rfl)
  have grown := grows_generate table fs (row.put g.name (.int next)) (sequences.put sequence next) sequence
  rw [Assoc.get?_put_self] at kept grown
  refine ⟨g, List.mem_cons_self .., same, sequence, found, next, same ▸ kept, ?_, grown⟩
  rw [counted]
  exact Nat.lt_succ_self _

theorem generate_numbered (table : String) (fs : List CollectionField) (row : Row)
    (sequences : Assoc String Nat) :
    ∀ f ∈ fs, f.sequence.isPresent = true → (row.column f.name).isNone = true →
      Numbered table fs f (generate table fs row sequences).1 sequences (generate table fs row sequences).2 := by
  induction fs generalizing row sequences with
  | nil => exact List.forall_mem_nil _
  | cons g fs ih =>
    intro f member sequenced missing
    have own := sequenceOf_isSome table g
    rw [generate]
    cases found : sequenceOf table g with
    | none =>
      rw [found] at own
      have later : f ∈ fs := (List.mem_cons.mp member).resolve_left fun here => by
        simp [← here, sequenced] at own
      exact (ih row sequences f later sequenced missing).cons (.refl _)
    | some sequence =>
      dsimp only
      by_cases unset : (row.column g.name).isNone = true
      · rw [if_pos unset]
        by_cases same : g.name = f.name
        · exact numbered_put found same rfl
        · have later : f ∈ fs := (List.mem_cons.mp member).resolve_left fun here => same (here ▸ rfl)
          have apart : Row.column (row.put g.name (.int ((sequences.get? sequence).getD 0 + 1 : Nat))) f.name =
              row.column f.name := by
            rw [Row.column, Assoc.get?_put_ne (Ne.symm same), Row.column]
          exact (ih _ _ f later sequenced (by rw [apart, missing])).cons (grows_put sequences sequence)
      · rw [if_neg unset]
        have later : f ∈ fs := (List.mem_cons.mp member).resolve_left fun here => unset (here ▸ missing)
        exact (ih row sequences f later sequenced missing).cons (.refl _)

/-- Nothing that is declared or committed is different. -/
structure Kept (s s' : Store) : Prop extends Alike s s' where
  foreignKeys : s'.foreignKeys = s.foreignKeys
  committed : s'.committed = s.committed

namespace Write

/-- What a write that succeeds does to the rows of its collection. -/
inductive Applied (cs : Catalog) (s s' : Store) : Write → Value → Prop where
  | created {collection : Value} {data : List (Value × Value)} {ref : CollectionRef} {row : Row}
      (known : s.shapes.get? collection.plainDisplay = some ref)
      (declared : ∀ e ∈ data, ∃ f, (cs.get ref).getField e.1 = .ok f)
      (kept : ∀ k, ((Row.written [] data).column k).isNone = false →
        row.get? k = (Row.written [] data).get? k)
      (others : ∀ k, (∀ f ∈ (cs.get ref).fields, f.name = k → f.sequence.isPresent = false) →
        row.get? k = (Row.written [] data).get? k)
      (numbered : ∀ f ∈ (cs.get ref).fields, f.sequence.isPresent = true →
        ((Row.written [] data).column f.name).isNone = true →
          Numbered collection.display (cs.get ref).fields f row s.sequences s'.sequences)
      (rows : s'.rows collection.plainDisplay = s.rows collection.plainDisplay ++ [row]) :
      Applied cs s s' (.create collection data) row.toValue
  | saved {collection : Value} {key data : List (Value × Value)} {before after : List Row} {row : Row}
      (keyed : key ≠ [])
      (found : s.rows collection.plainDisplay = before ++ row :: after)
      (carried : row.carries key = true) (first : ∀ other ∈ before, other.carries key = false)
      (rows : s'.rows collection.plainDisplay = before ++ row.written data :: after)
      (counters : s'.sequences = s.sequences) :
      Applied cs s s' (.save collection key data) .none
  | removed {collection : Value} {key : List (Value × Value)} {before after : List Row} {row : Row}
      (keyed : key ≠ [])
      (found : s.rows collection.plainDisplay = before ++ row :: after)
      (carried : row.carries key = true) (first : ∀ other ∈ before, other.carries key = false)
      (rows : s'.rows collection.plainDisplay = before ++ after)
      (counters : s'.sequences = s.sequences) :
      Applied cs s s' (.remove collection key) .none

def isCreate : Write → Bool
  | .create _ _ => true
  | _ => false

theorem declared_of_overlaid {c : Collection} {data : List (Value × Value)}
    (done : overlaid c row data = .ok given) : ∀ e ∈ data, ∃ f, c.getField e.1 = .ok f := by
  induction data generalizing row with
  | nil => exact List.forall_mem_nil _
  | cons e data ih =>
    rcases Outcome.of_bind done with ⟨f, found, done⟩
    exact List.forall_mem_cons.mpr ⟨⟨f, found⟩, ih done⟩

theorem key_of_locate {rows front back : List Row} {key : List (Value × Value)}
    (found : locate table rows key = .ok (front, row, back)) : key ≠ [] := by
  rintro rfl
  cases found

theorem rows_of_setRows (s : Store) (table : String) (rows : List Row) : (s.setRows table rows).rows table = rows := by
  rw [rows_setRows, if_pos (beq_self_eq_true _)]

theorem applied (done : x.run s cs = (.ok answer, s')) : x.Applied cs s s' answer := by
  cases x with
  | create collection data =>
    obtain ⟨row, created, rfl⟩ := create_ok done
    obtain ⟨c, given, sequences, shaped, overlay, made, -, rfl⟩ := create_parts created
    obtain ⟨ref, known, rfl⟩ := shape_parts shaped
    have generated := generate_cases collection.display (cs.get ref).fields given s.sequences
    have numbered := generate_numbered collection.display (cs.get ref).fields given s.sequences
    rw [made] at generated numbered
    have declared := declared_of_overlaid overlay
    cases written_of_overlaid overlay
    exact .created known declared generated.kept generated.other numbered (rows_of_setRows ..)
  | save collection key data =>
    cases replacing_answer done
    obtain ⟨c, before, row, after, updated, -, found, overlay, -, rfl⟩ := save_parts (replacing_ok done)
    obtain ⟨rows, carried, first⟩ := locate_first found
    cases written_of_overlaid overlay
    exact .saved (key_of_locate found) rows carried first (rows_of_setRows ..) rfl
  | remove collection key =>
    cases replacing_answer done
    obtain ⟨before, row, after, found, rfl⟩ := remove_parts (replacing_ok done)
    obtain ⟨rows, carried, first⟩ := locate_first found
    exact .removed (key_of_locate found) rows carried first (rows_of_setRows ..) rfl

theorem kept (done : x.run s cs = (outcome, s')) : Kept s s' := by
  cases outcome with
  | error e =>
    obtain ⟨sequences, -, rfl⟩ := run_error done
    exact ⟨⟨rfl, rfl⟩, rfl, rfl⟩
  | ok answer =>
    obtain ⟨sequences, -, rfl⟩ := run_ok done
    exact ⟨⟨rfl, rfl⟩, rfl, rfl⟩

/-- Only a row that was to be created can have drawn numbers when the write fails. -/
theorem failed {e : Error} (done : x.run s cs = (.error e, s')) :
    s'.working = s.working ∧ Grows s.sequences s'.sequences ∧
      (x.isCreate = false → s'.sequences = s.sequences) := by
  obtain ⟨sequences, grown, rfl⟩ := run_error done
  refine ⟨rfl, grown, ?_⟩
  intro other
  cases x with
  | create collection data => cases other
  | save collection key data => exact congrArg Store.sequences (replacing_error done)
  | remove collection key => exact congrArg Store.sequences (replacing_error done)

end Write

end Store

/-- A write through a memory driver fails and changes no rows, or it succeeds and changes those of its
    collection at one place; what is declared or committed stays as it is. -/
theorem Run.write_atomic {w : Workspace} {driver : Nat} {s : Store} {evaluator : Option Nat}
    (driven : w.drivers[driver]? = some (.memory s evaluator)) (x : Store.Write) :
    ∃ outcome s', (x.perform driver).exec w = (outcome, w.withStore driver evaluator s') ∧
      s'.shapes = s.shapes ∧ s'.indexes = s.indexes ∧ s'.foreignKeys = s.foreignKeys ∧
      s'.committed = s.committed ∧ (∀ other, other ≠ x.table → s'.rows other = s.rows other) ∧
      match outcome with
      | .error _ => s'.working = s.working ∧ Store.Grows s.sequences s'.sequences ∧
          (x.isCreate = false → s'.sequences = s.sequences)
      | .ok answer => x.Applied w.layout.collections s s' answer := by
  generalize ran : x.run s w.layout.collections = result
  obtain ⟨outcome, s'⟩ := result
  have kept := Store.Write.kept ran
  have local_ := (Store.Write.alike ran).2.2
  refine ⟨outcome, s', ?_, kept.shapes, kept.indexes, kept.foreignKeys, kept.committed, local_, ?_⟩
  · rw [x.exec_perform driven, ran]
  · cases outcome with
    | error e => exact Store.Write.failed ran
    | ok answer => exact Store.Write.applied ran

theorem Run.write_atomic_account :
    ∃ s' row, ((Accounts.account (.str "a@b")).perform 0).exec Accounts.opened =
        (.ok row.toValue, Accounts.opened.withStore 0 none s') ∧
      s'.committed = Accounts.empty.committed ∧ s'.rows "accounts" = [row] ∧
      row.get? "email" = some (.str "a@b") ∧ ∃ n : Nat, row.get? "id" = some (.int n) ∧ 0 < n := by
  have driven : Accounts.opened.drivers[0]? = some (.memory Accounts.empty none) := rfl
  obtain ⟨outcome, s', done, -, -, -, committed, -, told⟩ :=
    write_atomic driven (Accounts.account (.str "a@b"))
  have accepted : (((Accounts.account (.str "a@b")).perform 0).exec Accounts.opened).1.isOk = true := by
    decide +kernel
  rw [done] at accepted
  cases outcome with
  | error e => cases accepted
  | ok answer =>
    cases told with
    | created known declared kept others numbered rows =>
      cases Option.some.inj known
      have given : (Row.written [] [(.str "email", .str "a@b")]).get? "email" = some (.str "a@b") := rfl
      have email := kept "email" rfl
      obtain ⟨-, -, -, sequence, -, n, id, drawn⟩ := numbered _ (List.mem_cons_self ..) rfl rfl
      exact ⟨s', _, done, committed, rows, email.trans given, n, id, Nat.zero_lt_of_lt drawn.1⟩

end ModelStore
