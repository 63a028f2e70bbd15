import ModelStore.Proofs.Workspace.Filtering

/-!
The mapping that creates an instance: the first one, level by level, of exactly the class of the instance, and else
the mapping that is asked. This is the most specific one unless a class in between is mapped; and what only other
mappings know of the instance is not stored.
-/

namespace ModelStore

namespace Model

/-- The classes of a program, the last one in front: each has a name of its own, and derives from nothing or from
    a class that was defined before. -/
inductive Program : List Model → Prop where
  | nil : Program []
  | derive {ms : List Model} {base : Option Model} {name : String} (program : Program ms)
      (known : ∀ b ∈ base, b ∈ ms) (fresh : ∀ a ∈ ms, a.name ≠ name) (validated : Bool) (own : List Attribute)
      (frozen : Option Bool) : Program (Model.derive base name validated own frozen :: ms)

variable {ms : List Model} {a b : Model} {base : Option Model} {name k : String} {validated : Bool}
  {own : List Attribute} {frozen : Option Bool}

theorem name_derive : (derive base name validated own frozen).name = name := by
  cases base <;> rfl

theorem mem_lineage_derive : k ∈ (derive base name validated own frozen).lineage ↔
    k = name ∨ ∃ b ∈ base, k ∈ b.lineage := by
  cases base <;> simp [derive]

theorem isA_iff : a.isA k = true ↔ k ∈ a.lineage :=
  List.contains_iff_mem

namespace Program

theorem eq_of_name (program : Program ms) (first : a ∈ ms) (second : b ∈ ms) (same : a.name = b.name) : a = b := by
  induction program with
  | nil => cases first
  | derive program known fresh validated own frozen ih =>
    rcases List.mem_cons.mp first with rfl | first <;> rcases List.mem_cons.mp second with rfl | second
    · rfl
    · exact absurd (same.symm.trans name_derive) (fresh b second)
    · exact absurd (same.trans name_derive) (fresh a first)
    · exact ih first second

theorem isA_self (program : Program ms) (member : a ∈ ms) : a.isA a.name = true := by
  induction program with
  | nil => cases member
  | derive program known fresh validated own frozen ih =>
    rcases List.mem_cons.mp member with rfl | member
    · exact isA_iff.mpr (mem_lineage_derive.mpr (.inl name_derive))
    · exact ih member

/-- A class derives from classes of the program only. -/
theorem exists_of_isA (program : Program ms) (member : a ∈ ms) (derived : a.isA k = true) : ∃ b ∈ ms, b.name = k := by
  induction program generalizing a with
  | nil => cases member
  | derive program known fresh validated own frozen ih =>
    rcases List.mem_cons.mp member with rfl | member
    · rcases mem_lineage_derive.mp (isA_iff.mp derived) with rfl | ⟨b, given, above⟩
      · exact ⟨_, List.mem_cons_self .., name_derive⟩
      · obtain ⟨c, there, same⟩ := ih (known b given) (isA_iff.mpr above)
        exact ⟨c, List.mem_cons_of_mem _ there, same⟩
    · obtain ⟨c, there, same⟩ := ih member derived
      exact ⟨c, List.mem_cons_of_mem _ there, same⟩

theorem antisymm (program : Program ms) (first : a ∈ ms) (second : b ∈ ms) (derived : a.isA b.name = true)
    (back : b.isA a.name = true) : a = b := by
  induction program with
  | nil => cases first
  | @derive ms base name program known fresh validated own frozen ih =>
    -- nothing that was defined before derives from the last class
    have last : ∀ c ∈ ms, c.isA name = true → False := fun c before derives => by
      obtain ⟨d, there, same⟩ := program.exists_of_isA before derives
      exact fresh d there same
    rcases List.mem_cons.mp first with rfl | first <;> rcases List.mem_cons.mp second with rfl | second
    · rfl
    · rw [name_derive] at back
      exact (last b second back).elim
    · rw [name_derive] at derived
      exact (last a first derived).elim
    · exact ih first second

end Program

end Model

namespace Layout

variable {l : Layout} {ms : List Model} {schema : Nat} {m p q own : Mapping} {ref : CollectionRef} {c : Collection}
  {x : Entity} {f g : MappingField} {row : Row}

/-- No mapping from `m` on is of a proper subclass of the class of a mapping, if the instance is one of it. -/
def MostSpecific (l : Layout) (m : Mapping) (x : Entity) (own : Mapping) : Prop :=
  ∀ p ∈ l.subtree m, x.model.isA p.model.name = true → p.model.isA own.model.name = true →
    p.model.name = own.model.name

/-- The mappings from one on extend each other as their classes derive from each other. -/
def Mirrors (l : Layout) (m : Mapping) : Prop :=
  ∀ p ∈ l.subtree m, ∀ q ∈ l.subtree m, p.model.isA q.model.name = true ↔ Below l q p

theorem Tree.self_mem_subtree (tree : l.Tree) (known : m ∈ l.mappings) : m ∈ l.subtree m :=
  tree.mem_subtree known .self

/-- An instance is created by a mapping of its class, or by the one that is asked if there is none. -/
theorem mappingFor_own (done : l.mappingFor m x = .ok own) :
    (own ∈ l.subtree m ∧ own.model.name = x.model.name) ∨
      (own = m ∧ x.model.isA m.model.name = true ∧ ∀ p ∈ l.subtree m, p.model.name ≠ x.model.name) := by
  unfold mappingFor at done
  split at done
  · rename_i p found
    cases done
    have same := List.find?_some found
    exact .inl ⟨List.mem_of_find?_eq_some found, beq_iff_eq.mp same⟩
  · rename_i none
    split at done
    · rename_i derived
      cases done
      exact .inr ⟨rfl, derived, fun p member same => List.find?_eq_none.mp none p member (beq_iff_eq.mpr same)⟩
    · cases done

theorem mappingFor_asked (none : ∀ p ∈ l.subtree m, p.model.name ≠ x.model.name)
    (derived : x.model.isA m.model.name = true) : l.mappingFor m x = .ok m := by
  have unmapped : (l.subtree m).find? (fun p => p.model.name == x.model.name) = Option.none :=
    List.find?_eq_none.mpr fun p listed same => none p listed (beq_iff_eq.mp same)
  simp only [mappingFor, unmapped, derived, if_true]

section Choice

variable (program : Model.Program ms) (defined : x.model ∈ ms) (done : l.mappingFor m x = .ok own)

include program defined done

theorem isA_own : x.model.isA own.model.name = true := by
  rcases mappingFor_own done with ⟨-, same⟩ | ⟨rfl, derived, -⟩
  · rw [same]
    exact program.isA_self defined
  · exact derived

variable (mapped : ∀ p ∈ l.subtree m, p.model ∈ ms)

include mapped

/-- The mapping that is chosen is the most specific one, if the class of the instance is mapped, or if no class
    between it and the class of the mapping that is asked is. -/
theorem mostSpecific_iff : l.MostSpecific m x own ↔
    (∃ p ∈ l.subtree m, p.model.name = x.model.name) ∨ ∀ p ∈ l.subtree m,
      x.model.isA p.model.name = true → p.model.isA m.model.name = true → p.model.name = m.model.name := by
  rcases mappingFor_own done with ⟨member, same⟩ | ⟨rfl, -, none⟩
  · refine iff_of_true (fun p inside instance_ derives => ?_) (.inl ⟨own, member, same⟩)
    rw [same] at derives ⊢
    exact congrArg Model.name (program.antisymm (mapped p inside) defined derives instance_)
  · exact ⟨.inr, fun either => either.resolve_left fun ⟨p, inside, same⟩ => none p inside same⟩

/-- Where the mappings mirror their classes, all mappings that the instance is of are above the most specific one. -/
theorem Tree.below_own (tree : l.Tree) (known : m ∈ l.mappings) (mirrors : l.Mirrors m)
    (most : l.MostSpecific m x own) (inside : p ∈ l.subtree m) (instance_ : x.model.isA p.model.name = true) :
    Below l p own := by
  have top := tree.self_mem_subtree known
  rcases mappingFor_own done with ⟨member, same⟩ | ⟨rfl, -, -⟩
  · refine (mirrors own member p inside).mp ?_
    rwa [program.eq_of_name (mapped own member) defined same]
  · -- what extends the mapping that is asked is of its class, and so above it as well
    have derives := (mirrors p inside own top).mpr (tree.below_of_mem_subtree inside)
    have same := most p inside instance_ derives
    refine (mirrors own top p inside).mp ?_
    rw [same]
    exact program.isA_self (mapped _ top)

end Choice

theorem Stores.field_ne_column (stores : l.Stores schema ref c) (first : p ∈ l.family ref) (second : q ∈ l.family ref)
    (field : f ∈ p.fields) (column : q.column = some g) : f.name ≠ g.name := by
  have distinct := stores.names_distinct
  rw [Layout.columns, List.map_flatMap, List.nodup_flatMap] at distinct
  have here : f.name ∈ p.columns.map (·.name) := List.mem_map_of_mem (List.mem_append_right _ field)
  have there : g.name ∈ q.columns.map (·.name) := by
    refine List.mem_map_of_mem (List.mem_append_left _ ?_)
    rw [column]
    exact List.mem_singleton_self g
  intro same
  -- the columns of one mapping differ from each other, and from those of any other mapping
  by_cases one : p = q
  · subst one
    have own := distinct.1 p first
    rw [Level.columns, column, Option.toList_some, List.map_append] at own
    exact (List.nodup_append.mp own).2.2 g.name (List.mem_singleton_self _) f.name (List.mem_map_of_mem field)
      same.symm
  · have swap : Std.Symm (Function.onFun List.Disjoint fun q : Mapping => q.columns.map (·.name)) :=
      ⟨fun _ _ disjoint => disjoint.symm⟩
    exact distinct.2.forall first second one here (same ▸ there)

/-- What another mapping declares has no value in a row, unless it is generated for every row. -/
theorem Sound.dropped (sound : l.Sound schema) (stores : l.Stores schema ref c) (member : own ∈ l.family ref)
    (creates : own.Creates c x row) (inside : p ∈ l.family ref) (field : f ∈ p.fields) (other : f ∉ own.allFields) :
    row.get? f.name = none ∨ ∃ n : Nat, row.get? f.name = some (.int n) := by
  have column := sound.field_mem_columns inside (mem_allFields_self field)
  cases found : row.get? f.name with
  | none => exact .inl rfl
  | some v =>
    have fields : ∀ g ∈ own.allFields, g.name ≠ f.name := fun g mapped same =>
      other (stores.eq_of_name (sound.field_mem_columns member mapped) column same ▸ mapped)
    -- what has a value is the discriminator of a mapping above, and no field
    have values : f.name ∉ own.values.keys := fun value => by
      obtain ⟨a, above, open_⟩ := ((sound.each own (mem_family.mp member).1).valued f.name).mp value
      obtain ⟨q, inside', rfl, -⟩ := sound.exists_link member (List.mem_append_left _ above)
      obtain ⟨raw, _, -, shape⟩ := (sound.each q (mem_family.mp inside').1).column q.toLevel q.self_mem_chain
      rw [open_, Option.map_some] at shape
      exact stores.field_ne_column inside inside' field shape rfl
    obtain ⟨-, -, -, -, n, rfl⟩ := creates.other f.name v found fields values
    exact .inr ⟨n, rfl⟩

end Layout

namespace Run

variable {w w' : Workspace} {ms : List Model} {driver schema : Nat} {m : Mapping} {ref : CollectionRef} {id : Nat}
  {name : String} {x : Entity}

theorem mapped_of_created (hierarchy : m.isHierarchy = true) (given : w.entities[id]? = some x)
    (done : (createEntity m (.object (.entity id name))).exec w = (.ok (), w')) :
    ∃ own, w.layout.mappingFor m x = .ok own := by
  unfold createEntity at done
  simp only [hierarchy, Bool.not_true, Bool.false_eq_true, if_false] at done
  rw [exec_bind_ok (exec_instanceOf given), exec_bind_ok (exec_get w)] at done
  rcases bind_cases done with ⟨e, -, failed⟩ | ⟨own, _, mapped, -⟩
  · cases failed
  · exact ⟨own, (ofExcept_cases mapped).1⟩

/-- An instance is created by the first mapping of its class, or by the one that is asked if there is none. This is
    the most specific one unless a class in between is mapped; and if the mappings mirror their classes, the most
    specific one knows all that is mapped for the classes of the instance. The row has what is mapped along the chain
    of the mapping that creates it, and nothing that other mappings declare. -/
theorem created_by_class (declared : w.layout.Declared driver schema) (member : m ∈ w.layout.family ref)
    (given : w.entities[id]? = some x) (program : Model.Program ms) (defined : x.model ∈ ms)
    (classes : ∀ p ∈ w.layout.subtree m, p.model ∈ ms)
    (done : (createEntity m (.object (.entity id name))).exec w = (.ok (), w')) :
    ∃ own, w.layout.mappingFor m x = .ok own ∧ own ∈ w.layout.subtree m ∧ x.model.isA own.model.name = true ∧
      ((∃ p ∈ w.layout.subtree m, p.model.name = x.model.name) → own.model.name = x.model.name) ∧
      ((∀ p ∈ w.layout.subtree m, p.model.name ≠ x.model.name) → own = m) ∧
      (w.layout.MostSpecific m x own ↔ (∃ p ∈ w.layout.subtree m, p.model.name = x.model.name) ∨
        ∀ p ∈ w.layout.subtree m, x.model.isA p.model.name = true → p.model.isA m.model.name = true →
          p.model.name = m.model.name) ∧
      (w.layout.Mirrors m → w.layout.MostSpecific m x own → ∀ p ∈ w.layout.subtree m,
        x.model.isA p.model.name = true → ∀ f ∈ p.fields, f ∈ own.allFields) ∧
      ∀ s evaluator, w.drivers[driver]? = some (.memory s evaluator) → s.shapes.get? ref.name = some ref →
        ∃ row s', w'.drivers[driver]? = some (.memory s' evaluator) ∧ s'.rows ref.name = s.rows ref.name ++ [row] ∧
          (∀ k v, own.values.get? k = some v → row.get? k = some (.str v)) ∧
          (∀ f ∈ own.allFields, f.unset x = false →
            ∃ raw, f.conversion.toRaw (x.get f.ref) = .ok raw ∧ row.get? f.name = some raw) ∧
          (∀ p ∈ w.layout.subtree m, ∀ f ∈ p.fields, f ∉ own.allFields →
            row.get? f.name = none ∨ ∃ n : Nat, row.get? f.name = some (.int n)) := by
  have sound := declared.sound
  have known := (Layout.mem_family.mp member).1
  obtain ⟨c, stores⟩ := sound.exists_stores member
  obtain ⟨own, mapped⟩ := mapped_of_created (sound.isHierarchy known) given done
  have below := sound.mappingFor_cases mapped
  refine ⟨own, mapped, sound.mem_subtree known below, Layout.isA_own program defined mapped, ?_, ?_,
    Layout.mostSpecific_iff program defined mapped classes, fun mirrors most p listed instance_ f field => ?_,
    fun s evaluator driven provisioned => ?_⟩
  · rintro ⟨p, listed, same⟩
    exact (Layout.mappingFor_own mapped).elim (·.2) fun ⟨_, _, absent⟩ => absurd same (absent p listed)
  · intro absent
    exact (Layout.mappingFor_own mapped).elim (fun ⟨listed, same⟩ => absurd same (absent own listed)) (·.1)
  · exact sound.mem_allFields_of_below ((sound.below_of_mem_subtree listed).mem known)
      (sound.below_own program defined mapped classes known mirrors most listed instance_) field
  · obtain ⟨own', row, back, x', s', journal, mapped', inside, creates, -, -, -, rows, -, rfl⟩ :=
      Workspace.created_cases declared member stores driven provisioned given done
    cases mapped.symm.trans mapped'
    refine ⟨row, s', Workspace.driven_of_set driven rfl, rows, creates.value, creates.field, fun p listed f field => ?_⟩
    exact sound.dropped stores inside creates (sound.family_below member (sound.below_of_mem_subtree listed)) field

end Run

/-! A zoo whose puppies have no mapping of their own. -/

namespace Zoo

open Run

def unbred : Layout :=
  let drivers := [Driver.ofEvaluator none]
  ((({ schemas := [{}] } : Layout).after (models true) drivers animals).after (models true) drivers cats).after
    (models true) drivers (dogs false)

theorem unbred_declared : unbred.Declared 0 0 :=
  .after (.after (.after (.start rfl rfl) rfl (by decide +kernel)) rfl (by decide +kernel)) rfl (by decide +kernel)

theorem length_unbred : 0 < (unbred.family collection).length := by decide +kernel

def all : Mapping := (unbred.family collection).get ⟨0, length_unbred⟩

theorem all_mem : all ∈ unbred.family collection := List.get_mem ..

def holding (x : Entity) : Workspace := { opened false true none [x] with layout := unbred }

/-- The classes of the zoo, as they derive from each other. -/
def classes : List Model :=
  let animal := Model.derive none "Animal" true animal.attributes none
  let dog := Model.derive (some animal) "Dog" true [⟨"tag", .int, true, some (.int 5)⟩] none
  [Model.derive (some dog) "Puppy" true [] none, dog, Model.derive (some animal) "Cat" true [] none, animal]

theorem models_unbred : unbred.mappings.map (·.model) = [animal, cat, dog] := by
  with_unfolding_all rfl

theorem mapped : ∀ p ∈ unbred.subtree all, p.model ∈ classes := by
  intro p listed
  have known := (unbred_declared.sound.below_of_mem_subtree listed).mem (Layout.mem_family.mp all_mem).1
  have member : p.model ∈ unbred.mappings.map (·.model) := List.mem_map_of_mem known
  rw [models_unbred] at member
  simp only [List.mem_cons, List.not_mem_nil, or_false] at member
  rcases member with same | same | same <;> rw [same]
  · exact .tail _ (.tail _ (.tail _ (.head _)))
  · exact .tail _ (.tail _ (.head _))
  · exact .tail _ (.head _)

theorem program : Model.Program classes :=
  .derive (.derive (.derive (.derive .nil (by simp) (by simp) ..) (by simp) (by simp [Model.derive]) ..)
    (by simp) (by simp [Model.derive]) ..) (by simp) (by simp [Model.derive]) ..

/-- The names of the columns of the rows after an animal was created. -/
def stored (x : Entity) : List (List String) :=
  let w := ((createEntity all (.object (.entity 0 x.model.name))).exec (holding x)).2
  (((w.drivers[0]?.bind Driver.store?).map (·.rows "animals")).getD []).map Assoc.keys

end Zoo

namespace Run

/-- A dog is created by the mapping of the dogs, with its tag. -/
theorem created_by_class_dogs : ∃ own row s', (createEntity Zoo.all (.object (.entity 0 "Dog"))).exec
      (Zoo.holding (Zoo.rex Zoo.dog 1 (.int 7))) = (.ok (), s') ∧
    Zoo.unbred.mappingFor Zoo.all (Zoo.rex Zoo.dog 1 (.int 7)) = .ok own ∧ own.model.name = "Dog" ∧
    Zoo.unbred.MostSpecific Zoo.all (Zoo.rex Zoo.dog 1 (.int 7)) own ∧
    ((s'.drivers[0]?.bind Driver.store?).map (·.rows "animals")) = some [row] ∧
    ∀ f ∈ own.allFields, f.unset (Zoo.rex Zoo.dog 1 (.int 7)) = false →
      ∃ raw, f.conversion.toRaw ((Zoo.rex Zoo.dog 1 (.int 7)).get f.ref) = .ok raw ∧ row.get? f.name = some raw := by
  have done := exec_ok (a := createEntity Zoo.all (.object (.entity 0 "Dog")))
    (w := Zoo.holding (Zoo.rex Zoo.dog 1 (.int 7))) (by decide +kernel)
  obtain ⟨own, mapped, -, -, same, -, most, -, stored⟩ :=
    created_by_class Zoo.unbred_declared Zoo.all_mem rfl Zoo.program (.tail _ (.head _)) Zoo.mapped done
  obtain ⟨row, s', driven, rows, -, fields, -⟩ := stored _ _ rfl rfl
  have listed : ∃ p ∈ Zoo.unbred.subtree Zoo.all, p.model.name = "Dog" := by decide +kernel
  refine ⟨own, row, _, done, mapped, same listed, most.mpr (.inl listed), ?_, fields⟩
  rw [driven]
  exact congrArg some rows

/-- A puppy is created by the mapping of all animals although dogs are mapped, and its tag and its kind are lost. -/
theorem not_created_most_specific :
    ((createEntity Zoo.all (.object (.entity 0 "Puppy"))).exec
        (Zoo.holding (Zoo.rex (Zoo.puppy true) 1 (.int 7)))).1 = .ok () ∧
      Zoo.unbred.mappingFor Zoo.all (Zoo.rex (Zoo.puppy true) 1 (.int 7)) = .ok Zoo.all ∧
      (∃ p ∈ Zoo.unbred.subtree Zoo.all, (Zoo.puppy true).isA p.model.name = true ∧
        p.model.isA Zoo.all.model.name = true ∧ p.model.name ≠ Zoo.all.model.name ∧
        p.fields.map (·.name) = ["tag"] ∧ p.values = [("kind", "dog")]) ∧
      Zoo.stored (Zoo.rex (Zoo.puppy true) 1 (.int 7)) = [["id", "name"]] ∧
      Zoo.stored (Zoo.rex Zoo.dog 1 (.int 7)) = [["id", "name", "tag", "kind"]] := by
  have unmapped : ∀ p ∈ Zoo.unbred.subtree Zoo.all, p.model.name ≠ "Puppy" := by decide +kernel
  have animal : (Zoo.puppy true).isA Zoo.all.model.name = true := by decide +kernel
  exact ⟨by rw [exec_ok (by decide +kernel)], Layout.mappingFor_asked unmapped animal, by decide +kernel,
    by decide +kernel, by decide +kernel⟩

end Run

end ModelStore
