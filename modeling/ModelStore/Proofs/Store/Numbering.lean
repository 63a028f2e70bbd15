import ModelStore.Proofs.Store.Uniqueness

/-!
The numbers of sequences. A store has one counter for each name of a sequence, and names an anonymous sequence by its
collection and its field, joined by a point. No write but a create moves a counter, and nothing moves it back; so the
numbers of an anonymous sequence are 1, 2, 3, and so on, just if no other field has a sequence of that name.
-/

namespace ModelStore.Store

variable {s s' : Store} {cs : Catalog} {c : Collection} {ref : CollectionRef} {table sequence name : String}
  {f : CollectionField} {fs front back : List CollectionField} {v : Value} {data : List (Value × Value)}

/-- How far a sequence has got. -/
def counter (s : Store) (sequence : String) : Nat := (s.sequences.get? sequence).getD 0

/-- Whether a field draws a number of a sequence for a row. -/
def draws (table sequence : String) (row : Row) (f : CollectionField) : Bool :=
  sequenceOf table f == some sequence && (row.column f.name).isNone

/-- A sequence goes on by one for each field of it that has no value. -/
theorem generate_counter (table sequence : String) (distinct : (fs.map (·.name)).Nodup) (row : Row)
    (sequences : Assoc String Nat) :
    ((generate table fs row sequences).2.get? sequence).getD 0 = (sequences.get? sequence).getD 0 +
      fs.countP (draws table sequence row) := by
  induction fs generalizing row sequences with
  | nil => rfl
  | cons f fs ih =>
    rw [List.map_cons, List.nodup_cons] at distinct
    rw [List.countP_cons, draws, generate]
    cases found : sequenceOf table f with
    | none => simp [ih distinct.2]
    | some other =>
      by_cases missing : (row.column f.name).isNone = true
      · -- the number that is put in the field is none of the columns that are left
        have rest : ∀ g ∈ fs, Row.column (row.put f.name (.int ((sequences.get? other).getD 0 + 1 : Nat))) g.name =
            row.column g.name := by
          intro g member
          have apart : g.name ≠ f.name := fun same => distinct.1 (same ▸ List.mem_map_of_mem member)
          rw [Row.column, Assoc.get?_put_ne apart, Row.column]
        have same : fs.countP (draws table sequence
              (row.put f.name (.int ((sequences.get? other).getD 0 + 1 : Nat)))) =
            fs.countP (draws table sequence row) :=
          List.countP_congr fun g member => by rw [draws, draws, rest g member]
        simp only [missing, if_true, ih distinct.2, same, Assoc.get?_put]
        by_cases here : sequence = other
        · simp [here]
          omega
        · have apart : (other == sequence) = false := by simpa using Ne.symm here
          simp [here, apart]
      · simp [missing, ih distinct.2]

theorem generate_append (row : Row) (sequences : Assoc String Nat) :
    generate table (front ++ back) row sequences =
      generate table back (generate table front row sequences).1 (generate table front row sequences).2 := by
  induction front generalizing row sequences with
  | nil => rfl
  | cons f front ih =>
    rw [List.cons_append, generate, generate]
    split
    · split
      · exact ih _ _
      · exact ih row sequences
    · exact ih row sequences

theorem generate_first (own : sequenceOf table f = some sequence) {row : Row}
    (missing : (row.column f.name).isNone = true) (sequences : Assoc String Nat) :
    (generate table (f :: back) row sequences).1.column f.name =
      .int ((sequences.get? sequence).getD 0 + 1 : Nat) := by
  rw [generate, own]
  simp only [missing, if_true]
  refine Row.column_of_get? (((generate_cases table back _ _).kept f.name ?_).trans Assoc.get?_put_self)
  rw [Row.column, Assoc.get?_put_self]
  rfl

/-- A missing value is the next number of its sequence, after those of the fields before. -/
theorem generate_number (distinct : ((front ++ f :: back).map (·.name)).Nodup)
    (own : sequenceOf table f = some sequence) {row : Row} (missing : (row.column f.name).isNone = true)
    (sequences : Assoc String Nat) :
    (generate table (front ++ f :: back) row sequences).1.column f.name =
      .int ((sequences.get? sequence).getD 0 +
        front.countP (draws table sequence row) + 1 : Nat) := by
  rw [List.map_append, List.map_cons, List.nodup_append] at distinct
  obtain ⟨first, -, apart⟩ := distinct
  have others : ∀ g ∈ front, g.name = f.name → g.sequence.isPresent = false := fun g member same =>
    absurd same (apart _ (List.mem_map_of_mem member) _ (List.mem_cons_self ..))
  have still := (generate_cases table front row sequences).other f.name others
  rw [generate_append, generate_first own (by rwa [Row.column, still]), generate_counter table sequence first]

/-- The row that is to be created: what is given, with the numbers that are drawn for it. -/
def draft (s : Store) (cs : Catalog) (v : Value) (data : List (Value × Value)) : Except Error Row := do
  let c ← s.shape cs v
  let given ← overlaid c [] data
  return (generate v.display c.fields given s.sequences).1

theorem draft_eq {given : Row} (shaped : s.shape cs v = .ok c) (overlay : overlaid c [] data = .ok given) :
    s.draft cs v data = .ok (generate v.display c.fields given s.sequences).1 := by
  rw [draft, shaped]
  simp only [Bind.bind, Except.bind, overlay]
  rfl

/-- A row that is drafted has drawn its numbers, whether it is kept or refused. -/
theorem create_draws {outcome : Except Error Row} (made : s.create cs v data = (outcome, s')) :
    s' = s ∧ (∃ e, outcome = .error e ∧ s.draft cs v data = .error e) ∨
    ∃ c given row, s.shape cs v = .ok c ∧ overlaid c [] data = .ok given ∧ s.draft cs v data = .ok row ∧
      generate v.display c.fields given s.sequences = (row, s'.sequences) ∧ s'.shapes = s.shapes ∧
      (outcome = .ok row ∧ s'.rows v.plainDisplay = s.rows v.plainDisplay ++ [row] ∨
        (∃ e, outcome = .error e) ∧ s'.rows v.plainDisplay = s.rows v.plainDisplay) := by
  unfold create at made
  cases shaped : s.shape cs v with
  | error e =>
    rw [shaped] at made
    cases made
    exact .inl ⟨rfl, e, rfl, by rw [draft, shaped]; rfl⟩
  | ok c =>
    rw [shaped] at made
    dsimp only at made
    cases overlay : overlaid c [] data with
    | error e =>
      rw [overlay] at made
      cases made
      exact .inl ⟨rfl, e, rfl, by simp only [draft, shaped, Bind.bind, Except.bind, overlay]⟩
    | ok given =>
      rw [overlay] at made
      dsimp only at made
      refine .inr ⟨c, given, _, rfl, overlay, draft_eq shaped overlay, ?_⟩
      split at made
      · rename_i e refused
        cases made
        exact ⟨rfl, rfl, .inr ⟨⟨e, rfl⟩, rfl⟩⟩
      · cases made
        exact ⟨rfl, rfl, .inl ⟨rfl, (rows_setRows ..).trans (if_pos (beq_self_eq_true _))⟩⟩

theorem Write.sequences_replacing {x : Except Error Store} (same : ∀ s', x = .ok s' → s'.sequences = s.sequences) :
    (replacing s x).2.sequences = s.sequences := by
  cases x with
  | error e => rfl
  | ok s' => exact same s' rfl

namespace Step

/-- Whether a step names its collection by plain text, no member of a vocabulary. -/
def Plain : Step → Prop
  | .write (.create v _) => v.display = v.plainDisplay
  | _ => True

/-- Whether a step creates a row of a collection without a value for a field. -/
def leavesUnset (c : Collection) (name : String) (f : CollectionField) : Step → Bool
  | .write (.create v data) =>
    v.text? == some name && (overlaid c [] data).toOption.any fun given => (given.column f.name).isNone
  | _ => false

theorem leavesUnset_empty (other : String) :
    (Step.write (.create (.str other) [])).leavesUnset c name f = (other == name) :=
  Bool.and_true _

theorem leavesUnset_create (left : (Step.write (.create v data)).leavesUnset c name f = true) :
    v.text? = some name ∧ ∃ given, overlaid c [] data = .ok given ∧ (given.column f.name).isNone = true := by
  obtain ⟨text, unset⟩ := Bool.and_eq_true_iff.mp left
  obtain ⟨given, overlay, missing⟩ := (Option.any_eq_true _ _).mp unset
  refine ⟨beq_iff_eq.mp text, given, ?_, missing⟩
  cases made : overlaid c [] data with
  | error e =>
    rw [made] at overlay
    cases overlay
  | ok given' =>
    rw [made] at overlay
    cases overlay
    rfl

end Step

/-- The store after steps, whatever each of them answers. -/
def after (s : Store) (cs : Catalog) (run : List Step) : Store := run.foldl (fun s x => (x.run s cs).2) s

/-- A field with an anonymous sequence, of a collection that a store knows. -/
structure Anonymous (s : Store) (cs : Catalog) (name : String) (ref : CollectionRef) (f : CollectionField) : Prop where
  known : s.shapes.get? name = some ref
  field : f ∈ (cs.get ref).fields
  anonymous : f.sequence = .anonymous
  distinct : ∀ other ref, s.shapes.get? other = some ref → ((cs.get ref).fields.map (·.name)).Nodup

/-- Whether no other field that the store knows has a sequence of the name of an anonymous one. -/
def Private (s : Store) (cs : Catalog) (name : String) (f : CollectionField) : Prop :=
  ∀ other ref, s.shapes.get? other = some ref → ∀ g ∈ (cs.get ref).fields,
    sequenceOf other g = some (name ++ "." ++ f.name) → other = name ∧ g.name = f.name

theorem text_of_shape (shaped : s.shape cs v = .ok c) :
    ∃ name ref, v.text? = some name ∧ s.shapes.get? name = some ref ∧ c = cs.get ref := by
  obtain ⟨ref, found, rfl⟩ := Outcome.of_map shaped
  unfold Collection.lookup at found
  split at found
  · cases found
  · rename_i sought
    cases found
    obtain ⟨name, text, known⟩ := Option.bind_eq_some_iff.mp sought
    exact ⟨name, ref, text, known, rfl⟩
  · cases found

theorem shape_of_text (text : v.text? = some name) (known : s.shapes.get? name = some ref) :
    s.shape cs v = .ok (cs.get ref) := by
  have found : Collection.lookup v s.shapes.get?
      (.missing .collection v (some s.label) s.shapes.keys) = .ok ref := by
    cases v <;> cases text <;> simp only [Collection.lookup, Value.unhashable?, Value.text?, Option.bind_some, known]
  rw [shape, found]
  rfl

/-- A create of known columns moves a counter by the fields of its sequence that are left without a value. -/
theorem counter_create {given : Row} {outcome : Except Error Row} (made : s.create cs v data = (outcome, s'))
    (known : s.shapes.get? name = some ref)
    (distinct : ((cs.get ref).fields.map (·.name)).Nodup) (text : v.text? = some name)
    (overlay : overlaid (cs.get ref) [] data = .ok given) (sequence : String) :
    s'.shapes = s.shapes ∧
      s'.counter sequence = s.counter sequence + (cs.get ref).fields.countP (draws v.display sequence given) := by
  have shaped : s.shape cs v = .ok (cs.get ref) := shape_of_text text known
  rcases create_draws made with ⟨-, e, -, failed⟩ | ⟨c, given', row, shaped', overlay', -, drawn, shapes, -⟩
  · rw [draft_eq shaped overlay] at failed
    cases failed
  · cases shaped.symm.trans shaped'
    cases overlay.symm.trans overlay'
    refine ⟨shapes, ?_⟩
    have counted := generate_counter v.display sequence distinct given s.sequences
    rwa [drawn] at counted

namespace Anonymous

variable (own : s.Anonymous cs name ref f)
include own

theorem sequenceOf_eq : sequenceOf name f = some (name ++ "." ++ f.name) := by
  rw [sequenceOf, own.anonymous]

theorem countP_private (priv : s.Private cs name f) {other : String} {ref' : CollectionRef}
    (known : s.shapes.get? other = some ref') (row : Row) :
    (cs.get ref').fields.countP (draws other (name ++ "." ++ f.name) row) =
      if other == name && (row.column f.name).isNone then 1 else 0 := by
  by_cases same : other = name
  · subst same
    cases own.known.symm.trans known
    have only : ∀ g ∈ (cs.get ref).fields,
        draws other (other ++ "." ++ f.name) row g = (g.name == f.name && (row.column f.name).isNone) := by
      intro g member
      rw [draws]
      by_cases called : g.name = f.name
      · have one := List.inj_on_of_nodup_map (own.distinct _ _ own.known) member own.field called
        rw [one, own.sequenceOf_eq, beq_self_eq_true, beq_self_eq_true]
      · have apart : sequenceOf other g ≠ some (other ++ "." ++ f.name) := fun shared =>
          called (priv _ _ known g member shared).2
        rw [beq_eq_false_iff_ne.mpr apart, beq_eq_false_iff_ne.mpr called, Bool.false_and, Bool.false_and]
    rw [List.countP_congr fun g member => by rw [only g member]]
    cases missing : (row.column f.name).isNone with
    | false => simp
    | true =>
      have once := List.count_eq_one_of_mem (own.distinct _ _ own.known) (List.mem_map_of_mem own.field)
      rw [List.count, List.countP_map] at once
      simpa [Function.comp_def] using once
  · rw [beq_eq_false_iff_ne.mpr same, Bool.false_and, if_neg Bool.false_ne_true, List.countP_eq_zero]
    intro g member shared
    exact same (priv _ _ known g member (beq_iff_eq.mp (Bool.and_eq_true_iff.mp shared).1)).1

/-- A step moves the counter of a private sequence by one just if it leaves the field without a value. -/
theorem step (priv : s.Private cs name f) {x : Step} (plain : x.Plain) :
    (x.run s cs).2.shapes = s.shapes ∧ (x.run s cs).2.counter (name ++ "." ++ f.name) =
      s.counter (name ++ "." ++ f.name) + if x.leavesUnset (cs.get ref) name f then 1 else 0 := by
  cases x with
  | commit => exact ⟨rfl, rfl⟩
  | rollback => exact ⟨rfl, rfl⟩
  | write w =>
    refine ⟨(Write.alike rfl).1.shapes, ?_⟩
    cases w with
    | save v key data =>
      refine congrArg (fun m => (Assoc.get? m _).getD 0) (Write.sequences_replacing fun s' done => ?_)
      obtain ⟨-, -, -, -, -, -, -, -, -, rfl⟩ := save_parts done
      rfl
    | remove v key =>
      refine congrArg (fun m => (Assoc.get? m _).getD 0) (Write.sequences_replacing fun s' done => ?_)
      obtain ⟨-, -, -, -, rfl⟩ := remove_parts done
      rfl
    | create v data =>
      change (s.create cs v data).2.counter _ = _
      generalize made : s.create cs v data = result
      obtain ⟨outcome, s'⟩ := result
      rcases create_draws made with ⟨rfl, e, -, failed⟩ | ⟨c, given, row, shaped, overlay, -⟩
      · have none : (Step.write (.create v data)).leavesUnset (cs.get ref) name f = false := by
          refine Bool.eq_false_iff.mpr fun left => ?_
          obtain ⟨text, given, overlay, -⟩ := Step.leavesUnset_create left
          rw [draft_eq (shape_of_text text own.known) overlay] at failed
          cases failed
        rw [none]
        rfl
      · obtain ⟨other, ref', text, known, rfl⟩ := text_of_shape shaped
        have shown : v.display = other := Eq.trans plain (by rw [Value.plainDisplay, text, Option.getD_some])
        rw [(counter_create made known (own.distinct _ _ known) text overlay _).2, shown,
          own.countP_private priv known, Step.leavesUnset, text]
        by_cases same : other = name
        · subst same
          cases own.known.symm.trans known
          rw [overlay]
          simp [Except.toOption]
        · simp [same]

/-- The store after a run has the collections that it had, and its counter has counted the creates. -/
theorem after (priv : s.Private cs name f) {run : List Step} (plain : ∀ x ∈ run, x.Plain) :
    (s.after cs run).shapes = s.shapes ∧ (s.after cs run).counter (name ++ "." ++ f.name) =
      s.counter (name ++ "." ++ f.name) + run.countP (·.leavesUnset (cs.get ref) name f) := by
  induction run generalizing s with
  | nil => exact ⟨rfl, rfl⟩
  | cons x run ih =>
    obtain ⟨here, rest⟩ := List.forall_mem_cons.mp plain
    obtain ⟨shapes, counted⟩ := own.step priv here
    have own' : (x.run s cs).2.Anonymous cs name ref f :=
      ⟨shapes ▸ own.known, own.field, own.anonymous, shapes ▸ own.distinct⟩
    obtain ⟨shapes', counted'⟩ := ih own' (by rwa [Private, shapes]) rest
    refine ⟨shapes'.trans shapes, ?_⟩
    change ((x.run s cs).2.after cs run).counter _ = _
    rw [counted', counted, List.countP_cons]
    omega

/-- A create that leaves the field without a value draws the next number of it, after those of the fields before. -/
theorem number (run : List Step) (same : (s.after cs run).shapes = s.shapes)
    (left : (Step.write (.create v data)).leavesUnset (cs.get ref) name f = true)
    (plain : (Step.write (.create v data)).Plain) :
    ∃ row given front back, (cs.get ref).fields = front ++ f :: back ∧
      overlaid (cs.get ref) [] data = .ok given ∧ (s.after cs run).draft cs v data = .ok row ∧
      row.column f.name = .int ((s.after cs run).counter (name ++ "." ++ f.name) +
        front.countP (draws name (name ++ "." ++ f.name) given) + 1 : Nat) := by
  obtain ⟨text, given, overlay, missing⟩ := Step.leavesUnset_create left
  obtain ⟨front, back, fields⟩ := List.append_of_mem own.field
  have shaped : (s.after cs run).shape cs v = .ok (cs.get ref) := shape_of_text text (same ▸ own.known)
  have shown : v.display = name := Eq.trans plain (by rw [Value.plainDisplay, text, Option.getD_some])
  refine ⟨_, given, front, back, fields, overlay, draft_eq shaped overlay, ?_⟩
  rw [shown, fields]
  exact generate_number (fields ▸ own.distinct _ _ own.known) own.sequenceOf_eq missing _

/-- Numbers that count the creates show that no other field draws any of them. -/
theorem private_of_counts (start : s.counter (name ++ "." ++ f.name) = 0)
    (counts : ∀ run : List Step, (∀ x ∈ run, x.Plain) → ∃ row, (s.after cs run).draft cs (.str name) [] = .ok row ∧
      row.column f.name = .int (run.countP (·.leavesUnset (cs.get ref) name f) + 1 : Nat)) :
    s.Private cs name f := by
  intro other ref' known g member shared
  let first := Step.write (.create (.str other) [])
  have made : s.create cs (.str other) [] = ((s.create cs (.str other) []).1, s.after cs [first]) := rfl
  obtain ⟨shapes, counted⟩ := counter_create made known (own.distinct _ _ known) rfl rfl (name ++ "." ++ f.name)
  obtain ⟨row, given, front, back, fields, overlay, drafted, number⟩ :=
    own.number [first] shapes ((Step.leavesUnset_empty name).trans (beq_self_eq_true _)) rfl
  cases overlay
  obtain ⟨row', drafted', number'⟩ := counts [first] (List.forall_mem_singleton.mpr rfl)
  cases drafted.symm.trans drafted'
  have second : draws other (name ++ "." ++ f.name) [] g = true := by
    rw [draws, shared, beq_self_eq_true]
    rfl
  rw [show (Value.str other).display = other from rfl] at counted
  rw [number, counted, start, List.countP_singleton, Step.leavesUnset_empty] at number'
  have total := Int.ofNat.inj (Value.int.inj number')
  by_cases same : other = name
  · subst same
    cases own.known.symm.trans known
    refine ⟨rfl, ?_⟩
    by_contra apart
    -- the field itself has drawn one of the two numbers, and so none is left for another field
    have itself : draws other (other ++ "." ++ f.name) [] f = true := by
      rw [draws, own.sequenceOf_eq, beq_self_eq_true]
      rfl
    rw [fields, List.countP_append, List.countP_cons_of_pos itself, beq_self_eq_true, if_pos rfl] at total
    have elsewhere : 0 < front.countP (draws other (other ++ "." ++ f.name) []) ∨
        0 < back.countP (draws other (other ++ "." ++ f.name) []) := by
      rw [fields, List.mem_append, List.mem_cons] at member
      rcases member with inside | rfl | inside
      · exact .inl (List.countP_pos_iff.mpr ⟨g, inside, second⟩)
      · exact absurd rfl apart
      · exact .inr (List.countP_pos_iff.mpr ⟨g, inside, second⟩)
    omega
  · rw [beq_eq_false_iff_ne.mpr same, if_neg Bool.false_ne_true] at total
    have drawn := List.countP_pos_iff.mpr ⟨g, member, second⟩
    omega

end Anonymous

/-- The numbers of an anonymous sequence, in the order of the creates that leave its field without a value, be they
    refused or kept, are 1, 2, 3, and so on, whatever else is written, committed and rolled back, just if no other
    field has a sequence of the same name. -/
theorem numbers_from_one (own : s.Anonymous cs name ref f) (start : s.counter (name ++ "." ++ f.name) = 0) :
    (∀ run : List Step, (∀ x ∈ run, x.Plain) → ∀ v data, (Step.write (.create v data)).Plain →
      (Step.write (.create v data)).leavesUnset (cs.get ref) name f = true →
        ∃ row, (s.after cs run).draft cs v data = .ok row ∧
          row.column f.name = .int (run.countP (·.leavesUnset (cs.get ref) name f) + 1 : Nat) ∧
          ∀ answer s', (s.after cs run).create cs v data = (.ok answer, s') → answer = row) ↔
      s.Private cs name f := by
  constructor
  · intro counts
    refine own.private_of_counts start fun run plain => ?_
    obtain ⟨row, drafted, number, -⟩ := counts run plain (.str name) [] rfl
      ((Step.leavesUnset_empty name).trans (beq_self_eq_true _))
    exact ⟨row, drafted, number⟩
  · intro priv run plain v data named left
    obtain ⟨shapes, counted⟩ := own.after priv plain
    obtain ⟨row, given, front, back, fields, overlay, drafted, number⟩ := own.number run shapes left named
    have none : front.countP (draws name (name ++ "." ++ f.name) given) = 0 := by
      rw [List.countP_eq_zero]
      intro g member drawn
      have inside : g ∈ (cs.get ref).fields := fields ▸ List.mem_append_left _ member
      have called := (priv _ _ own.known g inside (beq_iff_eq.mp (Bool.and_eq_true_iff.mp drawn).1)).2
      have distinct := own.distinct _ _ own.known
      rw [fields, List.map_append, List.nodup_append] at distinct
      exact distinct.2.2 _ (List.mem_map_of_mem member) _ (List.mem_map_of_mem (List.mem_cons_self ..)) called
    refine ⟨row, drafted, ?_, fun answer s' made => ?_⟩
    · rw [number, counted, none, start, Nat.zero_add, Nat.add_zero]
    · rcases create_draws made with ⟨-, e, failed, -⟩ | ⟨c, given, row', -, -, drafted', -, -, kept⟩
      · cases failed
      · cases drafted.symm.trans drafted'
        rcases kept with ⟨same, -⟩ | ⟨⟨e, failed⟩, -⟩
        · exact Except.ok.inj same
        · cases failed

/-! A shop whose collections have sequences of their own, and one whose names run into each other. -/

namespace Shop

def numberField (name : String) (sequence : Sequence) : CollectionField :=
  { name, type := .integer, rawType := "INTEGER", converter := .integer, primaryKey := true, sequence }

def tickets : Collection where
  name := "tickets"
  fields := [numberField "id" .anonymous, { numberField "part" (.named "ids") with primaryKey := false }]

def parts : Collection where
  name := "parts"
  fields := [numberField "id" .anonymous]

def catalog : Catalog := [tickets, parts]

def opened : Store := { label := "InMemoryDriver", shapes := [("tickets", ⟨0, "tickets"⟩), ("parts", ⟨1, "parts"⟩)] }

/-- The second ticket is rolled back, and the last one is refused, for another one has been given its number. -/
def run : List Step :=
  [.write (.create (.str "tickets") []), .commit, .write (.create (.str "tickets") []), .rollback,
    .write (.create (.str "tickets") [(.str "id", .int 3)]), .write (.create (.str "parts") []),
    .write (.create (.str "tickets") [(.str "part", .int 1)])]

def log : Collection where
  name := "log"
  fields := [numberField "entry.number" .anonymous]

def entries : Collection where
  name := "log.entry"
  fields := [numberField "number" .anonymous]

def clashing : Store where
  label := "InMemoryDriver"
  shapes := [("log", ⟨0, "log"⟩), ("log.entry", ⟨1, "log.entry"⟩)]

end Shop

open Shop in
theorem numbers_from_one_tickets : ∃ row, (opened.after catalog run).draft catalog (.str "tickets") [] = .ok row ∧
    row.column "id" = .int 4 := by
  have distinct : ∀ e ∈ opened.shapes, ((catalog.get e.2).fields.map (·.name)).Nodup := by decide +kernel
  have apart : ∀ e ∈ opened.shapes, ∀ g ∈ (catalog.get e.2).fields,
      sequenceOf e.1 g = some ("tickets" ++ "." ++ "id") → e.1 = "tickets" ∧ g.name = "id" := by
    decide +kernel
  have own : opened.Anonymous catalog "tickets" ⟨0, "tickets"⟩ (numberField "id" .anonymous) :=
    ⟨rfl, List.mem_cons_self .., rfl, fun other ref there => distinct _ (Assoc.mem_of_get? there)⟩
  have plain : ∀ x ∈ run, x.Plain := by
    simp only [run, List.forall_mem_cons]
    exact ⟨rfl, trivial, rfl, trivial, rfl, rfl, rfl, List.forall_mem_nil _⟩
  obtain ⟨row, drafted, number, -⟩ := (numbers_from_one own rfl).mpr
    (fun other ref there => apart _ (Assoc.mem_of_get? there)) run plain (.str "tickets") [] rfl (by decide +kernel)
  have three : run.countP (·.leavesUnset (catalog.get ⟨0, "tickets"⟩) "tickets" (numberField "id" .anonymous)) = 3 := by
    decide +kernel
  exact ⟨row, drafted, number.trans (by rw [three]; rfl)⟩

open Shop in
/-- The first row of a collection gets a second number, for the first one was drawn by a row of another collection. -/
theorem not_numbers_from_one : clashing.Anonymous [log, entries] "log.entry" ⟨1, "log.entry"⟩
      (numberField "number" .anonymous) ∧ clashing.sequences = [] ∧
    (clashing.create [log, entries] (.str "log.entry") []).1 = .ok [("number", .int 1)] ∧
    ((clashing.create [log, entries] (.str "log") []).2.create [log, entries] (.str "log.entry") []).1 =
      .ok [("number", .int 2)] := by
  have distinct : ∀ e ∈ clashing.shapes, ((Catalog.get [log, entries] e.2).fields.map (·.name)).Nodup := by
    decide +kernel
  exact ⟨⟨rfl, List.mem_singleton_self _, rfl, fun other ref there => distinct _ (Assoc.mem_of_get? there)⟩,
    rfl, rfl, rfl⟩

end ModelStore.Store
