import ModelStore.Proofs.Workspace.Listing
import ModelStore.Proofs.Workspace.Reached

/-!
Finding by a filter. What a filter finds through a mapping is what it is true of among all instances that
the mapping finds, in the same order.
-/

namespace ModelStore

variable {w : Workspace} {driver schema : Nat} {ref : CollectionRef} {m : Mapping} {filter : Value}
  {rows : List Row} {xs : List Entity}

/-- Whether the instance that a row is restored as satisfies a filter. -/
def Layout.admits (l : Layout) (m : Mapping) (ref : CollectionRef) (filter : Value)
    (row : Row) : Bool :=
  match l.restore m ref (row.document ref.name) with
  | .ok y => y.satisfies filter
  | .error _ => false

namespace Run

theorem exists_restored {l : Layout} (each : ∀ row ∈ rows, ∃ y, l.restore m ref (row.document ref.name) = .ok y) :
    ∃ xs, Restored l m ref (rows.map (·.document ref.name)) xs := by
  induction rows with
  | nil => exact ⟨[], .nil⟩
  | cons row rows ih =>
    rcases each row (List.mem_cons_self ..) with ⟨y, restored⟩
    rcases ih fun r member => each r (List.mem_cons_of_mem _ member) with ⟨ys, rest⟩
    exact ⟨y :: ys, .cons ⟨rfl, restored⟩ rest⟩

/-- A condition on rows that is one on their instances selects the same of both. -/
theorem restored_filter {l : Layout} {p : Row → Bool} {p' : Entity → Bool}
    (restored : Restored l m ref (rows.map (·.document ref.name)) xs)
    (same : ∀ row ∈ rows, ∀ y, l.restore m ref (row.document ref.name) = .ok y → p row = p' y) :
    Restored l m ref ((rows.filter p).map (·.document ref.name)) (xs.filter p') := by
  induction rows generalizing xs with
  | nil =>
    cases restored
    exact .nil
  | cons row rows ih =>
    cases restored with
    | cons first rest =>
      rename_i y ys
      have later := ih rest fun r member => same r (List.mem_cons_of_mem _ member)
      rw [List.filter_cons, List.filter_cons, same row (List.mem_cons_self ..) y first.2]
      split
      · exact .cons first later
      · exact later

/-- The instances that a filter finds are those of the rows that the mapping covers of which it is true. -/
theorem list_restored {s : Store} {evaluator : Option Nat} (kept : w.Keeps driver schema ref)
    (member : m ∈ w.layout.family ref) (driven : w.drivers[driver]? = some (.memory s evaluator))
    (regular : s.Regular w.layout ref) (standard : (w.evaluatorOf (.memory s evaluator)).Standard)
    (suits : Filter.suits m.compares .none filter = true) (solid : Filter.isSolid filter = true)
    (restored : Restored w.layout m ref (((s.rows ref.name).filter m.covers).map (·.document ref.name)) xs) :
    entitiesOf ((listEntities m filter).exec w) = some (xs.filter (·.satisfies filter)) := by
  have sound := kept.hierarchy.declared.sound
  rcases Layout.mem_family.mp member with ⟨known, stored⟩
  obtain ⟨c, stores⟩ := kept.stores
  have fits := kept.hierarchy.fits m member
  have own_driver := kept.hierarchy.declared.driver_eq m known
  rcases Mapping.clauses_of_compares sound known fits suits solid with ⟨cs, found, told⟩
  -- the truth of the filter of a row is the one of the instance that it is restored as
  let p := w.layout.admits m ref filter
  have each : ∀ row ∈ s.rows ref.name, m.covers row = true →
      (w.evaluatorOf (.memory s evaluator)).satisfiesAll row.columnOf cs = .ok (p row) := by
    intro row inside covers
    rcases kept.hierarchy.exists_restored stores member (regular.working row inside) covers with
      ⟨y, restored, describes⟩
    have same : p row = y.satisfies filter := by
      simp only [p, Layout.admits, restored]
    rw [same]
    exact told _ row y standard describes
  obtain ⟨q, parsed, selected⟩ := Mapping.find_of_clauses evaluator (o := {}) (sound.each _ known) standard.equates
    regular.provisioned rfl found each
  have all : Store.slice 0 (-1) ((s.rows ref.name).filter fun row => m.covers row && p row) =
      ((s.rows ref.name).filter m.covers).filter p := by
    rw [List.filter_filter]
    refine List.filter_congr fun row _ => Bool.and_comm ..
  have documents : Restored w.layout m ref
      ((((s.rows ref.name).filter m.covers).filter p).map (·.document ref.name))
      (xs.filter (·.satisfies filter)) :=
    restored_filter restored fun row _ y same => by simp only [p, Layout.admits, same]
  rw [← all] at documents
  exact exec_listEntities (sound.isHierarchy known) stored (sound.getElem?_id known) parsed
    (own_driver.symm ▸ driven) selected documents

/-- Writing an instance, a new one or one that may be there. -/
def writeEntity (m : Mapping) (fresh : Bool) (v : Value) : Run Unit :=
  if fresh then createEntity m v else saveEntity m v

/-- A mapping writes an instance, all of whose values are of the types of its attributes. -/
structure Writes (m : Mapping) (fresh : Bool) (w : Workspace) (id : Nat) (w' : Workspace) : Prop where
  typed : ∃ x own, w.entities[id]? = some x ∧ w.layout.mappingFor m x = .ok own ∧ own.Typed x fresh
  done : ∃ name, (writeEntity m fresh (.object (.entity id name))).exec w = (.ok (), w')

namespace Writes

variable {w' : Workspace} {fresh : Bool} {id : Nat}

theorem of_check {name : String}
    (typed : (w.entities[id]?.any fun x => match w.layout.mappingFor m x with
      | .ok own => decide (own.Typed x fresh)
      | .error _ => false) = true)
    (done : ((writeEntity m fresh (.object (.entity id name))).exec w).1.toBool = true) :
    Writes m fresh w id ((writeEntity m fresh (.object (.entity id name))).exec w).2 := by
  refine ⟨?_, name, exec_ok done⟩
  rcases (Option.any_eq_true ..).mp typed with ⟨x, given, typed⟩
  split at typed
  · rename_i own mapped
    exact ⟨x, own, given, mapped, of_decide_eq_true typed⟩
  · cases typed

theorem reached (writes : Writes m fresh w id w') (before : w.Reached driver schema ref)
    (member : m ∈ w.layout.family ref) : w'.Reached driver schema ref := by
  obtain ⟨⟨x, own, given, mapped, typed⟩, name, done⟩ := writes
  have all : ∀ p, w.layout.mappingFor m x = .ok p → p.Typed x fresh := by
    intro p mapped'
    cases mapped.symm.trans mapped'
    exact typed
  cases fresh with
  | true => exact .create before member given all done
  | false => exact .save before member given all done

theorem layout (writes : Writes m fresh w id w') (before : w.Reached driver schema ref)
    (member : m ∈ w.layout.family ref) : w'.layout = w.layout := by
  obtain ⟨⟨x, own, given, mapped, typed⟩, name, done⟩ := writes
  have kept := before.keeps
  have declared := kept.hierarchy.declared
  obtain ⟨s, evaluator, driven, -⟩ := kept.regular
  cases fresh with
  | true =>
    rcases Workspace.create_cases declared member driven given done with
      rfl | ⟨own, row, answer, s', -, -, -, -, layout, -⟩
    · rfl
    · exact layout
  | false =>
    rcases Workspace.save_cases declared member driven given done with
      ⟨rfl, -⟩ | ⟨own, row, key, s', -, -, -, -, -, rfl⟩
    · rfl
    · rfl

end Writes

end Run

namespace Zoo

open Run

def animal : Model where
  name := "Animal"
  lineage := ["Animal"]
  validated := true
  attributes := [⟨"id", .int, false, none⟩, ⟨"name", .str, false, none⟩]
  frozen := false

def cat : Model where
  name := "Cat"
  lineage := ["Cat", "Animal"]
  validated := true
  attributes := animal.attributes
  frozen := false

def dog : Model where
  name := "Dog"
  lineage := ["Dog", "Animal"]
  validated := true
  attributes := animal.attributes ++ [⟨"tag", .int, true, some (.int 5)⟩]
  frozen := false

/-- Not every dog has a tag, but a puppy may need one. -/
def puppy (nullable : Bool) : Model where
  name := "Puppy"
  lineage := ["Puppy", "Dog", "Animal"]
  validated := true
  attributes := animal.attributes ++ [⟨"tag", .int, nullable, some (.int 5)⟩]
  frozen := false

def field (name type : String) (key : Bool) : Value :=
  .dict [(.str "name", .str name), (.str "type", .str type), (.str "primary_key", .bool key)]

def animals : Declaration where
  kind := .hierarchy
  model := animal.toValue
  driver := .object (.driver .memory 0)
  schema := .object (.schema 0)
  fields := .tuple [field "id" "integer" true, field "name" "string" false]
  discriminator := .str "kind"
  collection := .str "animals"

def cats : Declaration where
  kind := .hierarchy
  model := cat.toValue
  driver := .object (.driver .memory 0)
  schema := .object (.schema 0)
  parent := .object (.mapping .hierarchy 0 "Animal")
  values := .dict [(.str "kind", .str "cat")]

def dogs (key : Bool) : Declaration where
  kind := .hierarchy
  model := dog.toValue
  driver := .object (.driver .memory 0)
  schema := .object (.schema 0)
  fields := .tuple [field "tag" "integer" key]
  discriminator := .str "breed"
  parent := .object (.mapping .hierarchy 0 "Animal")
  values := .dict [(.str "kind", .str "dog")]

def puppies (nullable : Bool) : Declaration where
  kind := .hierarchy
  model := (puppy nullable).toValue
  driver := .object (.driver .memory 0)
  schema := .object (.schema 0)
  parent := .object (.mapping .hierarchy 2 "Dog")
  values := .dict [(.str "kind", .str "dog"), (.str "breed", .str "puppy")]

def models (nullable : Bool) : List Model := [animal, cat, dog, puppy nullable]

/-- The mappings of the zoo, with the tag as a further key and with puppies that need no tag or not. -/
def layout (key nullable : Bool) : Layout :=
  let drivers := [Driver.ofEvaluator none]
  let ms := models nullable
  (((({ schemas := [{}] } : Layout).after ms drivers animals).after ms drivers cats).after ms drivers
    (dogs key)).after ms drivers (puppies nullable)

def collection : CollectionRef := ⟨0, "animals"⟩

theorem declared (key nullable : Bool) : (layout key nullable).Declared 0 0 := by
  refine .after (.after (.after (.after (.start rfl rfl) rfl ?_) rfl ?_) rfl ?_) rfl ?_
  all_goals cases key <;> cases nullable <;> decide +kernel

theorem differ (key nullable : Bool) : (layout key nullable).SiblingsDiffer collection := by
  apply Layout.siblingsDiffer_of_nodup
  cases key <;> cases nullable <;> decide +kernel

theorem fits (key nullable : Bool) : ∀ m ∈ (layout key nullable).family collection, m.Fits := by
  cases key <;> cases nullable <;> decide +kernel

theorem keysOnTop (nullable : Bool) : (layout false nullable).KeysOnTop collection := by
  unfold Layout.KeysOnTop
  cases nullable <;> decide +kernel

theorem uniform (key : Bool) : (layout key true).Uniform collection := by
  unfold Layout.Uniform
  cases key <;> decide +kernel

theorem length_family (key nullable : Bool) : 2 < ((layout key nullable).family collection).length := by
  cases key <;> cases nullable <;> decide +kernel

theorem hierarchy (nullable : Bool) : (layout false nullable).Hierarchy 0 0 collection :=
  ⟨declared false nullable, differ false nullable, fits false nullable, keysOnTop nullable⟩

/-- The mapping of all animals. -/
def top (key nullable : Bool) : Mapping :=
  ((layout key nullable).family collection).get ⟨0, Nat.zero_lt_of_lt (length_family key nullable)⟩

/-- The mapping of the dogs. -/
def middle (key nullable : Bool) : Mapping :=
  ((layout key nullable).family collection).get ⟨2, length_family key nullable⟩

theorem top_mem (key nullable : Bool) : top key nullable ∈ (layout key nullable).family collection :=
  List.get_mem ..

theorem middle_mem (key nullable : Bool) : middle key nullable ∈ (layout key nullable).family collection :=
  List.get_mem ..

/-- A new zoo beside some animals. The first evaluator compares texts without regard to case. -/
def opened (key nullable : Bool) (evaluator : Option Nat) (xs : List Entity) : Workspace where
  layout := layout key nullable
  models := models nullable
  drivers := [.memory (({ label := "InMemoryDriver" } : Store).ensureCollection collection) evaluator]
  evaluators := [Evaluator.default.register .eq Comparator.equalIgnoringCase]
  entities := xs

def whiskers (id : Int) (name : String) : Entity := ⟨cat, [("id", .int id), ("name", .str name)]⟩

def rex (m : Model) (id : Int) (tag : Value) : Entity :=
  ⟨m, [("id", .int id), ("name", .str "Rex"), ("tag", tag)]⟩

/-- What has no other tag than the usual one, unless it is the first one. -/
def untagged : Value :=
  .dict [(.str "tag", .dict [(.str "$in", .list [.none, .int 5])]), (.str "$not", .dict [(.str "id", .int 1)])]

end Zoo

namespace Run

/-- Filtering in the store is filtering the instances, whatever was written through the hierarchy. -/
theorem list_filter (reached : w.Reached driver schema ref) (member : m ∈ w.layout.family ref)
    (standard : ∀ d, w.drivers[driver]? = some d → (w.evaluatorOf d).Standard)
    (suits : Filter.suits m.compares .none filter = true) (solid : Filter.isSolid filter = true) :
    ∃ xs, entitiesOf ((listEntities m (.dict [])).exec w) = some xs ∧
      entitiesOf ((listEntities m filter).exec w) = some (xs.filter (·.satisfies filter)) := by
  have kept := reached.keeps
  obtain ⟨s, evaluator, driven, regular⟩ := kept.regular
  obtain ⟨c, stores⟩ := kept.stores
  obtain ⟨xs, restored⟩ : ∃ xs, Restored w.layout m ref
      (((s.rows ref.name).filter m.covers).map (·.document ref.name)) xs := by
    refine exists_restored fun row inside => ?_
    rcases List.mem_filter.mp inside with ⟨there, covers⟩
    rcases kept.hierarchy.exists_restored stores member (regular.working row there) covers with ⟨y, done, -⟩
    exact ⟨y, done⟩
  have everything : entitiesOf ((listEntities m (.dict [])).exec w) = some (xs.filter (·.satisfies (.dict []))) :=
    list_restored kept member driven regular (standard _ driven) rfl rfl restored
  have whole : xs.filter (·.satisfies (.dict [])) = xs := List.filter_eq_self.mpr fun _ _ => rfl
  rw [whole] at everything
  exact ⟨xs, everything, list_restored kept member driven regular (standard _ driven) suits solid restored⟩

theorem standard_of_default
    (plain : (w.drivers[driver]?.all fun d => match d with
      | .memory _ none => true
      | _ => false) = true) :
    ∀ d, w.drivers[driver]? = some d → (w.evaluatorOf d).Standard := by
  intro d driven
  rw [driven, Option.all_some] at plain
  split at plain
  · exact fun _ _ _ => rfl
  · cases plain

/-- A dog without a tag is found among dogs. -/
theorem list_filter_dogs : ∃ w xs, w.Reached 0 0 Zoo.collection ∧
    entitiesOf ((listEntities (Zoo.middle false true) (.dict [])).exec w) = some xs ∧ xs.length = 2 ∧
      entitiesOf ((listEntities (Zoo.middle false true) Zoo.untagged).exec w) =
        some (xs.filter (·.satisfies Zoo.untagged)) ∧
      (xs.filter (·.satisfies Zoo.untagged)).length = 1 := by
  let top := Zoo.top false true
  let w₀ := Zoo.opened false true none
    [Zoo.whiskers 1 "Tom", Zoo.rex Zoo.dog 2 .none, Zoo.rex (Zoo.puppy true) 3 (.int 7)]
  let w₁ := ((writeEntity top true (.object (.entity 0 "Cat"))).exec w₀).2
  let w₂ := ((writeEntity top true (.object (.entity 1 "Dog"))).exec w₁).2
  let w₃ := ((writeEntity top true (.object (.entity 2 "Puppy"))).exec w₂).2
  have first : Writes top true w₀ 0 w₁ := .of_check (by decide +kernel) (by decide +kernel)
  have second : Writes top true w₁ 1 w₂ := .of_check (by decide +kernel) (by decide +kernel)
  have third : Writes top true w₂ 2 w₃ := .of_check (by decide +kernel) (by decide +kernel)
  have opened : w₀.Reached 0 0 Zoo.collection :=
    .start (Zoo.hierarchy true) (Zoo.uniform false) (Zoo.top_mem false true) rfl rfl rfl rfl
  have member : top ∈ w₀.layout.family Zoo.collection := Zoo.top_mem false true
  have layout₁ := first.layout opened member
  have reached₁ := first.reached opened member
  have layout₂ := (second.layout reached₁ (layout₁ ▸ member)).trans layout₁
  have reached₂ := second.reached reached₁ (layout₁ ▸ member)
  have layout₃ := (third.layout reached₂ (layout₂ ▸ member)).trans layout₂
  have reached₃ := third.reached reached₂ (layout₂ ▸ member)
  have inside : Zoo.middle false true ∈ w₃.layout.family Zoo.collection := layout₃ ▸ Zoo.middle_mem false true
  have suits : Filter.suits (Zoo.middle false true).compares .none Zoo.untagged = true := by decide +kernel
  obtain ⟨xs, all, some_⟩ := list_filter reached₃ inside (standard_of_default (by decide +kernel)) suits
    (by decide +kernel)
  have two : (entitiesOf ((listEntities (Zoo.middle false true) (.dict [])).exec w₃)).map (·.length) = some 2 := by
    decide +kernel
  have one : (entitiesOf ((listEntities (Zoo.middle false true) Zoo.untagged).exec w₃)).map (·.length) =
      some 1 := by
    decide +kernel
  rw [all] at two
  rw [some_] at one
  exact ⟨w₃, xs, reached₃, all, Option.some.inj two, some_, Option.some.inj one⟩

/-- Whether a filter of a mapping finds other instances than those of which it is true. -/
def Misses (w : Workspace) (m : Mapping) (filter : Value) : Prop :=
  Filter.suits m.compares .none filter = true ∧ Filter.isSolid filter = true ∧
    ¬∃ xs, entitiesOf ((listEntities m (.dict [])).exec w) = some xs ∧
      entitiesOf ((listEntities m filter).exec w) = some (xs.filter (·.satisfies filter))

theorem misses_of_check (suits : Filter.suits m.compares .none filter = true)
    (solid : Filter.isSolid filter = true)
    (other : ((entitiesOf ((listEntities m (.dict [])).exec w)).all fun xs =>
      (entitiesOf ((listEntities m filter).exec w)).all fun ys =>
        ys.length != (xs.filter (·.satisfies filter)).length) = true) : Misses w m filter := by
  refine ⟨suits, solid, ?_⟩
  rintro ⟨xs, all, found⟩
  rw [all, found, Option.all_some, Option.all_some, bne_self_eq_false] at other
  cases other

/-- Whether a filter misses after two instances have been written to the empty table of a hierarchy, which
    may have keys below its top, and models that do not agree on what may be missing. -/
structure Strays (w : Workspace) (driver schema : Nat) (ref : CollectionRef) (t m : Mapping) (fresh : Bool)
    (filter : Value) : Prop where
  declared : w.layout.Declared driver schema
  differ : w.layout.SiblingsDiffer ref
  fits : ∀ m ∈ w.layout.family ref, m.Fits
  top : t ∈ w.layout.family ref
  member : m ∈ w.layout.family ref
  empty : ∃ s evaluator, w.drivers[driver]? = some (.memory s evaluator) ∧
    s.shapes.get? ref.name = some ref ∧ s.rows ref.name = []
  written : ∃ w₁ w₂, Writes t true w 0 w₁ ∧ Writes t fresh w₁ 1 w₂ ∧ Misses w₂ m filter

theorem strays_zoo {key nullable fresh : Bool} {evaluator : Option Nat} {xs : List Entity} {w₁ w₂ : Workspace}
    (inside : m ∈ (Zoo.layout key nullable).family Zoo.collection)
    (first : Writes (Zoo.top key nullable) true (Zoo.opened key nullable evaluator xs) 0 w₁)
    (second : Writes (Zoo.top key nullable) fresh w₁ 1 w₂) (misses : Misses w₂ m filter) :
    Strays (Zoo.opened key nullable evaluator xs) 0 0 Zoo.collection (Zoo.top key nullable) m fresh filter where
  declared := Zoo.declared key nullable
  differ := Zoo.differ key nullable
  fits := Zoo.fits key nullable
  top := Zoo.top_mem key nullable
  member := inside
  empty := ⟨_, _, rfl, rfl, rfl⟩
  written := ⟨w₁, w₂, first, second, misses⟩

/-- What a key below the top leaves out of a row is not found by its default; an instance that may miss a
    value spoils the row of one that may not; and an evaluator may compare texts without regard to case. -/
theorem not_list_filter :
    (∃ w t m filter, Strays w 0 0 Zoo.collection t m false filter ∧ w.layout.Uniform Zoo.collection ∧
      ∀ d, w.drivers[0]? = some d → (w.evaluatorOf d).Standard) ∧
    (∃ w t m filter, Strays w 0 0 Zoo.collection t m false filter ∧ w.layout.KeysOnTop Zoo.collection ∧
      ∀ d, w.drivers[0]? = some d → (w.evaluatorOf d).Standard) ∧
    ∃ w t m filter, Strays w 0 0 Zoo.collection t m true filter ∧ w.layout.Uniform Zoo.collection ∧
      w.layout.KeysOnTop Zoo.collection := by
  have usual : ∀ key nullable xs d, (Zoo.opened key nullable none xs).drivers[0]? = some d →
      ((Zoo.opened key nullable none xs).evaluatorOf d).Standard :=
    fun key nullable xs => standard_of_default rfl
  refine ⟨?_, ?_, ?_⟩
  · let w₀ := Zoo.opened true true none [Zoo.whiskers 1 "Tom", Zoo.rex Zoo.dog 1 .none]
    let w₁ := ((writeEntity (Zoo.top true true) true (.object (.entity 0 "Cat"))).exec w₀).2
    have first : Writes (Zoo.top true true) true w₀ 0 w₁ := .of_check (by decide +kernel) (by decide +kernel)
    have second : Writes (Zoo.top true true) false w₁ 1
        ((writeEntity (Zoo.top true true) false (.object (.entity 1 "Dog"))).exec w₁).2 :=
      .of_check (by decide +kernel) (by decide +kernel)
    refine ⟨w₀, Zoo.top true true, Zoo.middle true true, .dict [(.str "tag", .int 5)], ?_, Zoo.uniform true, usual _ _ _⟩
    exact strays_zoo (Zoo.middle_mem true true) first second
      (misses_of_check (by decide +kernel) (by decide +kernel) (by decide +kernel))
  · let w₀ := Zoo.opened false false none [Zoo.rex (Zoo.puppy false) 1 (.int 1), Zoo.rex Zoo.dog 1 .none]
    let w₁ := ((writeEntity (Zoo.top false false) true (.object (.entity 0 "Puppy"))).exec w₀).2
    have first : Writes (Zoo.top false false) true w₀ 0 w₁ := .of_check (by decide +kernel) (by decide +kernel)
    have second : Writes (Zoo.top false false) false w₁ 1
        ((writeEntity (Zoo.top false false) false (.object (.entity 1 "Dog"))).exec w₁).2 :=
      .of_check (by decide +kernel) (by decide +kernel)
    refine ⟨w₀, Zoo.top false false, Zoo.middle false false, .dict [(.str "tag", .int 5)], ?_, Zoo.keysOnTop false, usual _ _ _⟩
    exact strays_zoo (Zoo.middle_mem false false) first second
      (misses_of_check (by decide +kernel) (by decide +kernel) (by decide +kernel))
  · let w₀ := Zoo.opened false true (some 0) [Zoo.whiskers 1 "tom", Zoo.whiskers 2 "Tom"]
    let w₁ := ((writeEntity (Zoo.top false true) true (.object (.entity 0 "Cat"))).exec w₀).2
    have first : Writes (Zoo.top false true) true w₀ 0 w₁ := .of_check (by decide +kernel) (by decide +kernel)
    have second : Writes (Zoo.top false true) true w₁ 1
        ((writeEntity (Zoo.top false true) true (.object (.entity 1 "Cat"))).exec w₁).2 :=
      .of_check (by decide +kernel) (by decide +kernel)
    refine ⟨w₀, Zoo.top false true, Zoo.top false true, .dict [(.str "name", .str "Tom")], ?_, Zoo.uniform false,
      Zoo.keysOnTop true⟩
    exact strays_zoo (Zoo.top_mem false true) first second
      (misses_of_check (by decide +kernel) (by decide +kernel) (by decide +kernel))

end Run

end ModelStore
