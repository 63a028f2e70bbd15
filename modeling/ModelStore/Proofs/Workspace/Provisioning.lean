import ModelStore.Proofs.Schema.Consistency
import ModelStore.Proofs.Workspace.Calls

/-!
Schemas provisioned by a memory driver. All is provided just if the schema is consistent; whatever comes of it, the
stored rows stay as they are, and to provide again what was provided changes nothing.
-/

namespace ModelStore

open Schema

variable {w : Workspace} {driver : Nat} {s : Store} {evaluator : Option Nat} {journal : List Event}
  {schema : Schema} {r : Request} {rs : List Request} {phase : Phase}

/-- The workspace with another store in a driver, and another journal. -/
def Workspace.withProvided (w : Workspace) (driver : Nat) (evaluator : Option Nat) (s : Store)
    (journal : List Event) : Workspace :=
  { w.withStore driver evaluator s with journal }

theorem Workspace.withProvided_self (driven : w.drivers[driver]? = some (.memory s evaluator)) :
    w.withProvided driver evaluator s w.journal = w := by
  rw [withProvided, withStore_self driven]

theorem Workspace.withProvided_withProvided (s s' : Store) (journal journal' : List Event) :
    (w.withProvided driver evaluator s journal).withProvided driver evaluator s' journal' =
      w.withProvided driver evaluator s' journal' := by
  simp only [withProvided, withStore, List.set_set]

/-- Requests of one phase stay ready while they are granted. -/
theorem Store.Ready.provided_alike {cs : Catalog} (ready : s.Ready r) (alike : ∀ r' ∈ rs, r'.phase = r.phase) :
    (s.provided cs rs).Ready r := by
  cases r with
  | collection c => exact trivial
  | index c i | foreignKey c k =>
    exact ready.provided fun r' member same => nomatch (alike r' member).symm.trans same

namespace Schema

theorem map_snd_numbered (rs : List Request) : (numbered rs).map Prod.snd = rs := by
  rw [numbered, List.map_snd_zip (by rw [List.length_range])]

/-- Answers are found again by the numbers of their requests. -/
theorem filterMap_lookup (f : Request → Except Error Unit) (rs : List Request) :
    ((numbered rs).filterMap fun c => ((numbered rs).map fun c => (c.1, f c.2)).lookup c.1) = rs.map f := by
  let answers : Assoc Nat (Except Error Unit) := (numbered rs).map fun c => (c.1, f c.2)
  have distinct : answers.keys.Nodup := by
    simp only [answers, Assoc.keys, List.map_map]
    exact numbers_nodup rs
  have own : ∀ c ∈ numbered rs, answers.lookup c.1 = some (f c.2) := fun c member =>
    Assoc.get?_of_mem distinct (List.mem_map_of_mem (f := fun c : Job => (c.1, f c.2)) member)
  calc ((numbered rs).filterMap fun c => answers.lookup c.1)
      = (numbered rs).filterMap (some ∘ fun c => f c.2) := List.filterMap_congr own
    _ = ((numbered rs).map Prod.snd).map f := by rw [List.filterMap_eq_map, List.map_map]; rfl
    _ = rs.map f := by rw [map_snd_numbered]

theorem verdict_answers (cs : Catalog) (phase : Phase) (rs : List Request) :
    verdict phase (rs.map (Request.answer cs)) = match rs.filterMap (·.fault? cs) with
      | [] => .ok ()
      | e :: es => .error (.syncFailed phase.text (e :: es)) := by
  have errors : (rs.map (Request.answer cs)).filterMap errorOf? = rs.filterMap (·.fault? cs) := by
    rw [List.filterMap_map]
    refine List.filterMap_congr fun r _ => ?_
    rw [Function.comp_apply, Request.answer]
    cases r.fault? cs <;> rfl
  change (match (rs.map (Request.answer cs)).filterMap errorOf? with
    | [] => Except.ok ()
    | e :: es => Except.error (Error.syncFailed phase.text (e :: es))) = _
  rw [errors]

/-- What comes of a closed schema: the faults of the first phase that has any. -/
def report (cs : Catalog) (s : Schema) : Except Error Unit :=
  match s.faults cs .indexes, s.faults cs .foreignKeys with
  | e :: es, _ => .error (.syncFailed "indexes" (e :: es))
  | [], e :: es => .error (.syncFailed "foreign keys" (e :: es))
  | [], [] => .ok ()

theorem report_ok_iff {cs : Catalog} : schema.report cs = .ok () ↔
    schema.faults cs .indexes = [] ∧ schema.faults cs .foreignKeys = [] := by
  unfold report
  cases schema.faults cs .indexes with
  | cons e es => exact iff_of_false nofun fun none => nomatch none.1
  | nil =>
    cases schema.faults cs .foreignKeys with
    | cons e es => exact iff_of_false nofun fun none => nomatch none.2
    | nil => exact iff_of_true rfl ⟨rfl, rfl⟩

theorem fault?_of_report {cs : Catalog} (succeeded : schema.report cs = .ok ()) (member : r ∈ schema.demands cs) :
    r.fault? cs = none := by
  obtain ⟨indexes, foreignKeys⟩ := report_ok_iff.mp succeeded
  rcases List.mem_append.mp member with here | later
  · exact List.filterMap_eq_nil_iff.mp (faults_collections cs schema) r here
  · rcases List.mem_append.mp later with here | here
    · exact List.filterMap_eq_nil_iff.mp indexes r here
    · exact List.filterMap_eq_nil_iff.mp foreignKeys r here

/-- Once the collections are provided, what is asked of them is ready. -/
theorem ready_provided {cs : Catalog} (built : schema.Built) (parts : ∀ c ∈ schema.members, (cs.get c).Built)
    (closed : schema.Closed cs) (s : Store) :
    (∀ r ∈ schema.requests cs .indexes, (s.provided cs (schema.requests cs .collections)).Ready r) ∧
      ∀ r ∈ schema.requests cs .foreignKeys, (s.provided cs (schema.requests cs .collections)).Ready r := by
  have distinct := nodup_places built parts
  rw [demands, List.map_append] at distinct
  have known : ∀ c ∈ schema.members,
      (s.provided cs (schema.requests cs .collections)).shapes.get? c.name = some c := fun c member =>
    (Store.has_provided (List.nodup_append.mp distinct).1 s (List.mem_map_of_mem member) rfl).1
  refine ⟨fun r member => ?_, fun r member => ?_⟩
  · obtain ⟨c, inside, i, own, rfl⟩ := mem_indexes.mp member
    exact ⟨known c inside, (parts c inside).labelled.1.named _ (List.mem_map_of_mem own)⟩
  · obtain ⟨c, inside, k, own, rfl⟩ := mem_foreignKeys.mp member
    have target := known _ (List.mem_of_find?_eq_some (closed c inside k own))
    exact ⟨known c inside, target, (parts c inside).labelled.2.named _ (List.mem_map_of_mem own)⟩

end Schema

namespace Run

theorem exec_ensure_ready (driven : w.drivers[driver]? = some (.memory s evaluator)) (ready : s.Ready r) :
    ∃ journal, (ensure driver r).exec w = (r.answer w.layout.collections,
      w.withProvided driver evaluator (s.provided w.layout.collections [r]) journal) := by
  obtain ⟨journal, made⟩ := exec_ensure (r := r) driven
  rw [Store.provision_eq w.layout.collections ready] at made
  rw [made, Request.answer, Store.provided_cons]
  cases r.fault? w.layout.collections with
  | some e =>
    refine ⟨w.journal, congrArg (Prod.mk _) ?_⟩
    change w = w.withStore driver evaluator s
    rw [Workspace.withStore_self driven]
  | none => exact ⟨journal, rfl⟩

/-- Requests that are ready and of one phase are answered one after another, each for its own fault. -/
theorem takeTurns_provisioner (driven : w.drivers[driver]? = some (.memory s evaluator)) (jobs : List Job)
    (s' : Store) (journal : List Event) (ready : ∀ c ∈ jobs, s'.Ready c.2) (alike : ∀ c ∈ jobs, c.2.phase = phase) :
    ∃ journal', takeTurns (provisioner driver) (inSequence jobs) (w.withProvided driver evaluator s' journal) =
      (jobs.map fun c => (c.1, c.2.answer w.layout.collections),
        w.withProvided driver evaluator (s'.provided w.layout.collections (jobs.map Prod.snd)) journal') := by
  induction jobs generalizing s' journal with
  | nil => exact ⟨journal, rfl⟩
  | cons c jobs ih =>
    rw [List.forall_mem_cons] at ready alike
    have held : (w.withProvided driver evaluator s' journal).drivers[driver]? = some (.memory s' evaluator) :=
      Workspace.driven_withStore driven s'
    obtain ⟨noted, first⟩ := exec_ensure_ready held ready.1
    rw [Workspace.withProvided_withProvided] at first
    obtain ⟨journal', rest⟩ := ih (s'.provided w.layout.collections [c.2]) noted
      (fun d member => (ready.2 d member).provided_alike (List.forall_mem_singleton.mpr
        (alike.1.trans (alike.2 d member).symm))) alike.2
    refine ⟨journal', ?_⟩
    have turns : inSequence (c :: jobs) = (.start, c) :: (.finish, c) :: inSequence jobs := rfl
    have finished : (provisioner driver).finish c (w.withProvided driver evaluator s' journal) =
        (c.2.answer w.layout.collections,
          w.withProvided driver evaluator (s'.provided w.layout.collections [c.2]) noted) := first
    have step : takeTurns (provisioner driver) ((.finish, c) :: inSequence jobs)
        (w.withProvided driver evaluator s' journal) =
          ((c.1, c.2.answer w.layout.collections) :: (takeTurns (provisioner driver) (inSequence jobs)
            (w.withProvided driver evaluator (s'.provided w.layout.collections [c.2]) noted)).1,
          (takeTurns (provisioner driver) (inSequence jobs)
            (w.withProvided driver evaluator (s'.provided w.layout.collections [c.2]) noted)).2) := by
      simp only [takeTurns, Bind.bind, StateT.bind, finished]
      rfl
    rw [turns]
    refine Eq.trans ?_ (step.trans ?_)
    · rfl
    · rw [rest]
      rfl

theorem outcomes_provisioner (driven : w.drivers[driver]? = some (.memory s evaluator)) (s' : Store)
    (journal : List Event) (ready : ∀ r ∈ rs, s'.Ready r) (alike : ∀ r ∈ rs, r.phase = phase) :
    ∃ journal', Schema.outcomes (provisioner driver) rs (w.withProvided driver evaluator s' journal) =
      (rs.map (Request.answer w.layout.collections),
        w.withProvided driver evaluator (s'.provided w.layout.collections rs) journal') := by
  have inside : ∀ c ∈ numbered rs, c.2 ∈ rs := fun c member =>
    map_snd_numbered rs ▸ List.mem_map_of_mem (f := Prod.snd) member
  obtain ⟨journal', turns⟩ := takeTurns_provisioner driven (numbered rs) s' journal
    (fun c member => ready _ (inside c member)) fun c member => alike _ (inside c member)
  have scheduled : takeTurns (provisioner driver) ((provisioner driver).schedule (numbered rs))
      (w.withProvided driver evaluator s' journal) = _ := turns
  refine ⟨journal', ?_⟩
  rw [map_snd_numbered] at scheduled
  simp only [Schema.outcomes, Bind.bind, StateT.bind, scheduled]
  exact congrArg (·, w.withProvided driver evaluator (s'.provided w.layout.collections rs) journal')
    (filterMap_lookup (Request.answer w.layout.collections) rs)

/-- A phase is answered with the faults of its requests, if there are any; the others are granted. -/
theorem runPhase_provisioner (driven : w.drivers[driver]? = some (.memory s evaluator)) (s' : Store)
    (journal : List Event) (ready : ∀ r ∈ rs, s'.Ready r) (alike : ∀ r ∈ rs, r.phase = phase) :
    ∃ journal', runPhase (provisioner driver) phase rs (w.withProvided driver evaluator s' journal) =
      (verdict phase (rs.map (Request.answer w.layout.collections)),
        w.withProvided driver evaluator (s'.provided w.layout.collections rs) journal') := by
  cases rs with
  | nil => exact ⟨journal, rfl⟩
  | cons r rs =>
    obtain ⟨noted, done⟩ := outcomes_provisioner driven s' (journal ++ [.ensuring phase (r :: rs).length]) ready alike
    have ends := conclude_eq (provisioner driver) phase (r :: rs).length
      ((r :: rs).map (Request.answer w.layout.collections))
      (w.withProvided driver evaluator (s'.provided w.layout.collections (r :: rs)) noted)
    have run : runPhase (provisioner driver) phase (r :: rs) (w.withProvided driver evaluator s' journal) =
        conclude (provisioner driver) phase (r :: rs).length
          ((Schema.outcomes (provisioner driver) (r :: rs) (w.withProvided driver evaluator s'
            (journal ++ [.ensuring phase (r :: rs).length]))).1.filterMap errorOf?)
          (Schema.outcomes (provisioner driver) (r :: rs) (w.withProvided driver evaluator s'
            (journal ++ [.ensuring phase (r :: rs).length]))).2 := rfl
    rw [done] at run
    rw [run, ← ends]
    generalize ((r :: rs).map (Request.answer w.layout.collections)).filterMap errorOf? = errors
    cases errors with
    | nil => exact ⟨noted, rfl⟩
    | cons e es => exact ⟨noted ++ [.failing phase (e :: es).length (r :: rs).length], rfl⟩

/-- A closed schema is provided phase by phase, up to the first phase with a fault. -/
theorem sync_provisioner (driven : w.drivers[driver]? = some (.memory s evaluator)) (built : schema.Built)
    (parts : ∀ c ∈ schema.members, (w.layout.collections.get c).Built) (closed : schema.Closed w.layout.collections)
    (s' : Store) (journal : List Event) :
    ∃ rs journal', schema.sync (provisioner driver) (w.withProvided driver evaluator s' journal) =
        (schema.report w.layout.collections,
          w.withProvided driver evaluator (s'.provided w.layout.collections rs) journal') ∧
      (schema.report w.layout.collections = .ok () → rs = schema.demands w.layout.collections) := by
  obtain ⟨indexes, foreignKeys⟩ := ready_provided built parts closed s'
  have resolved : schema.foreignTarget? w.layout.collections = none :=
    (foreignTarget?_cases schema w.layout.collections).elim And.right fun other => (other.1 closed).elim
  obtain ⟨journal₁, first⟩ := runPhase_provisioner driven s' journal
    (fun r member => by obtain ⟨c, -, rfl⟩ := List.mem_map.mp member; trivial)
    fun r (member : r ∈ schema.requests w.layout.collections .collections) => phase_of_mem _ member
  obtain ⟨journal₂, second⟩ := runPhase_provisioner driven _ journal₁ indexes fun r => phase_of_mem _
  obtain ⟨journal₃, third⟩ := runPhase_provisioner driven _ journal₂
    (fun r member => (foreignKeys r member).provided fun r' other same => by
      cases (phase_of_mem .indexes other).symm.trans same) fun r => phase_of_mem _
  rw [verdict_answers, ← faults] at first second third
  rw [faults_collections] at first
  rw [sync_closed resolved, runPhases_passed rfl first, report]
  rw [← Store.provided_append] at second third
  rw [← Store.provided_append, List.append_assoc] at third
  cases bad : schema.faults w.layout.collections .indexes with
  | cons e es =>
    rw [bad] at second
    exact ⟨_, journal₂, runPhases_failed rfl second, fun ok => by cases ok⟩
  | nil =>
    rw [bad] at second
    rw [runPhases_passed rfl second]
    cases broken : schema.faults w.layout.collections .foreignKeys with
    | cons e es =>
      rw [broken] at third
      exact ⟨_, journal₃, runPhases_failed rfl third, fun ok => by cases ok⟩
    | nil =>
      rw [broken] at third
      exact ⟨_, journal₃, runPhases_passed rfl third, fun _ => rfl⟩

/-- A memory driver provides just the consistent schemas. Otherwise it reports the first foreign key to a
    collection outside of the schema, before anything is done, or every index with a missing field, or else every
    foreign key with one. In any case no row changes, and to provide again what was provided changes nothing. -/
theorem sync_consistent (driven : w.drivers[driver]? = some (.memory s evaluator)) (id : Nat)
    (built : (w.layout.schema id).Built)
    (parts : ∀ c ∈ (w.layout.schema id).members, (w.layout.collections.get c).Built) :
    ∃ outcome s' journal,
      (syncSchema id driver).exec w = (outcome, w.withProvided driver evaluator s' journal) ∧
      (outcome = .ok () ↔ (w.layout.schema id).Consistent w.layout.collections) ∧
      (¬(w.layout.schema id).Closed w.layout.collections → s' = s ∧
        ∃ c ∈ (w.layout.schema id).members, ∃ k ∈ (w.layout.collections.get c).foreignKeys,
          (w.layout.schema id).find? k.target.collection.name ≠ some k.target.collection ∧
          outcome = .error (foreignTarget c k)) ∧
      ((w.layout.schema id).Closed w.layout.collections →
        outcome = (w.layout.schema id).report w.layout.collections) ∧
      s.SameData s' ∧
      (outcome = .ok () → ∃ journal', (syncSchema id driver).exec (w.withProvided driver evaluator s' journal) =
        (.ok (), w.withProvided driver evaluator s' journal')) := by
  generalize named : w.layout.schema id = schema at built parts
  have entered : ∀ s' journal, (syncSchema id driver).exec (w.withProvided driver evaluator s' journal) =
      schema.sync (provisioner driver) (w.withProvided driver evaluator s' journal) := by
    intro s' journal
    rw [← named]
    rfl
  have start := entered s w.journal
  rw [Workspace.withProvided_self driven] at start
  rcases foreignTarget?_cases schema w.layout.collections with ⟨closed, -⟩ | ⟨outside, c, k, refused⟩
  · obtain ⟨rs, journal, done, whole⟩ := sync_provisioner driven built parts closed s w.journal
    rw [Workspace.withProvided_self driven] at done
    refine ⟨_, _, journal, start.trans done, ?_, fun other => (other closed).elim, fun _ => rfl,
      Store.sameData_provided _ s rs, fun succeeded => ?_⟩
    · rw [consistent_iff, report_ok_iff]
      exact (and_iff_right closed).symm
    · -- all that the schema asks for is there, so that every request of the second run is met
      have met : ∀ r ∈ schema.demands w.layout.collections, (s.provided w.layout.collections rs).Has r := by
        intro r member
        rw [whole succeeded]
        exact Store.has_provided (nodup_places built parts) s member (fault?_of_report succeeded member)
      obtain ⟨rs', journal', again, whole'⟩ :=
        sync_provisioner driven built parts closed (s.provided w.layout.collections rs) journal
      rw [whole' succeeded, Store.provided_of_has met, succeeded] at again
      exact ⟨journal', (entered _ _).trans again⟩
  · have stopped := sync_open (p := provisioner driver) (x := w) refused
    obtain ⟨d, inside, l, key, other, same⟩ := foreignTarget?_eq_some refused
    refine ⟨_, s, w.journal, start.trans (stopped.trans (by rw [Workspace.withProvided_self driven])), ?_,
      fun _ => ⟨rfl, d, inside, l, key, other, congrArg _ same⟩, fun closed => (outside closed).elim, .refl s, nofun⟩
    exact iff_of_false nofun fun consistent => outside consistent.closed

end Run

/-! Authors with the books that they like best, and books with their authors. -/

namespace Press

def authors : CollectionRef := ⟨0, "authors"⟩

def books : CollectionRef := ⟨1, "books"⟩

def field (name : String) : CollectionField := { name, type := .string, rawType := "VARCHAR", converter := .string }

def byFavourite : CollectionIndex := ⟨some "authors.favourite", ["favourite"], false⟩

def favourite : CollectionForeignKey := ⟨some "authors.favourite", "favourite", ⟨books, "id"⟩⟩

def author : CollectionForeignKey := ⟨some "books.author", "author", ⟨authors, "id"⟩⟩

def catalog : Catalog :=
  [{ name := "authors", fields := [field "id", field "favourite"], indexes := [byFavourite],
     foreignKeys := [favourite] },
   { name := "books", fields := [field "id", field "author"], foreignKeys := [author] }]

/-- A store that knows the authors only, with one author who has just found a favourite. -/
def store : Store where
  label := "InMemoryDriver"
  shapes := [("authors", authors)]
  committed := [("authors", [[("id", .str "a")]])]
  working := [("authors", [[("id", .str "a"), ("favourite", .str "b")]])]

def opened : Workspace where
  layout := { collections := catalog, schemas := [⟨[authors, books]⟩] }
  drivers := [.memory store none]

theorem schema_built : (opened.layout.schema 0).Built :=
  .insert (.insert .empty (c := authors) rfl) (c := books) rfl

theorem parts_built : ∀ c ∈ (opened.layout.schema 0).members, (opened.layout.collections.get c).Built := by
  refine List.forall_mem_cons.mpr ⟨?_, List.forall_mem_singleton.mpr ?_⟩
  · exact .foreignKey (k := favourite) (.index (i := byFavourite)
      (.field (f := field "favourite") (.field (f := field "id") (.empty "authors") rfl) rfl) rfl) rfl
  · exact .foreignKey (k := author)
      (.field (f := field "author") (.field (f := field "id") (.empty "books") rfl) rfl) rfl

theorem consistent : (opened.layout.schema 0).Consistent opened.layout.collections := by
  refine consistent_iff.mpr ⟨?_, rfl, rfl⟩
  refine List.forall_mem_cons.mpr ⟨?_, List.forall_mem_singleton.mpr ?_⟩
  · exact List.forall_mem_singleton.mpr rfl
  · exact List.forall_mem_singleton.mpr rfl

end Press

/-- Both collections are provided, though each refers to the other; the author stays, committed and not. -/
theorem Run.sync_consistent_press : ∃ s' journal,
    (syncSchema 0 0).exec Press.opened = (.ok (), Press.opened.withProvided 0 none s' journal) ∧
    Store.rowsOf s'.committed "authors" = [[("id", .str "a")]] ∧
    Store.rowsOf s'.working "authors" = [[("id", .str "a"), ("favourite", .str "b")]] ∧
    ∃ journal', (syncSchema 0 0).exec (Press.opened.withProvided 0 none s' journal) =
      (.ok (), Press.opened.withProvided 0 none s' journal') := by
  have driven : Press.opened.drivers[0]? = some (.memory Press.store none) := rfl
  obtain ⟨outcome, s', journal, done, succeeds, -, -, data, again⟩ :=
    sync_consistent driven 0 Press.schema_built Press.parts_built
  cases succeeds.mpr Press.consistent
  exact ⟨s', journal, done, data.committed "authors", data.working "authors", again rfl⟩

end ModelStore
