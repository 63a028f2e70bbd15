import ModelStore.Proofs.Workspace.Filled
import ModelStore.Proofs.Workspace.Hits

/-!
Writes and the rows that a mapping finds. An instance is saved and removed by its key alone: what is written over or
deleted is the first row with that key, of whatever class it is. If it is of the class of the instance, it is one that
the mapping finds, and it keeps its discriminators; otherwise saving turns it into a row of that class.
-/

namespace ModelStore

open Layout (Below)

variable {l : Layout} {driver schema : Nat} {ref : CollectionRef} {c : Collection} {s : Store} {m own p : Mapping}
  {x : Entity} {row old new : Row} {k : String} {w w' : Workspace} {v : Value} {outcome : Except Error Unit}

namespace Layout

/-- Whether a row has text, or nothing, in each discriminator column of a hierarchy. -/
def Classed (l : Layout) (ref : CollectionRef) (row : Row) : Prop :=
  ∀ p ∈ l.family ref, ∀ k, p.discriminator = some k → row.get? k = none ∨ ∃ t, row.get? k = some (.str t)

theorem Sound.classed_of_creates (sound : l.Sound schema) (stores : l.Stores schema ref c) (member : own ∈ l.family ref)
    (creates : own.Creates c x row) : l.Classed ref row := by
  intro p inside k open_
  by_cases given : k ∈ own.values.keys
  · obtain ⟨t, value⟩ := Assoc.exists_of_mem_keys given
    exact .inr ⟨t, creates.value k t value⟩
  cases found : row.get? k with
  | none => exact .inl rfl
  | some v =>
    -- a discriminator is no field, and it has no sequence that could have generated a value
    obtain ⟨f, column, rfl, -, absent⟩ := sound.exists_discriminator_column inside p.self_mem_chain open_
    have apart : ∀ g ∈ own.allFields, g.name ≠ f.name := fun g field name =>
      stores.field_ne_discriminator sound member inside field (name ▸ open_)
    obtain ⟨d, listed, name, sequence, -⟩ := creates.other f.name v found apart given
    rw [stores.sequence_of_name column d listed name] at sequence
    rw [show f.toCollectionField.sequence = .absent from absent] at sequence
    cases sequence

/-- A saved row has the discriminator values of the mapping that it was saved by, and the others that it had. -/
theorem Sound.get?_saved_discriminator (sound : l.Sound schema) (stores : l.Stores schema ref c)
    (member : own ∈ l.family ref) (writes : own.Writes x false row)
    (column : ∀ k, new.get? k = (if k ∈ own.keyNames then none else row.get? k).or (old.get? k))
    (inside : p ∈ l.family ref) (open_ : p.discriminator = some k) :
    new.get? k = ((own.values.get? k).map Value.str).or (old.get? k) := by
  rw [column, if_neg (stores.not_mem_keyNames sound member inside open_)]
  cases value : own.values.get? k with
  | some t => rw [writes.value k t value, Option.map_some]
  | none =>
    have apart : ∀ f ∈ own.allFields, f.name ≠ k := fun f field name =>
      stores.field_ne_discriminator sound member inside field (name ▸ open_)
    rw [writes.other k apart (Assoc.get?_eq_none_iff.mp value), Option.map_none]

theorem Classed.saved (classed : l.Classed ref old) (sound : l.Sound schema) (stores : l.Stores schema ref c)
    (member : own ∈ l.family ref) (writes : own.Writes x false row)
    (column : ∀ k, new.get? k = (if k ∈ own.keyNames then none else row.get? k).or (old.get? k)) :
    l.Classed ref new := by
  intro p inside k open_
  rw [sound.get?_saved_discriminator stores member writes column inside open_]
  cases own.values.get? k with
  | none => simpa using classed p inside k open_
  | some t => exact .inr ⟨t, rfl⟩

end Layout

namespace Workspace

open Run

/-- Whatever is written through the mappings of a hierarchy, the discriminators of its rows are texts. -/
theorem Worked.classed (worked : w.Worked driver schema ref) :
    w.Serves driver schema ref fun l s => s.All ref (l.Classed ref) := by
  induction worked with
  | start declared inhabited driven provisioned working committed =>
    exact ⟨declared, ⟨_, inhabited⟩, _, _, driven, provisioned, working ▸ List.forall_mem_nil _,
      committed ▸ List.forall_mem_nil _⟩
  | create _ member done serves =>
    exact serves.createAll member done fun _ _ _ _ _ stores _ _ inside creates =>
      serves.declared.sound.classed_of_creates stores inside creates
  | save _ member done serves =>
    exact serves.saveAll member done fun _ _ _ _ _ _ _ stores _ _ inside writes column before =>
      before.saved serves.declared.sound stores inside writes column
  | remove _ member done serves => exact serves.removeAll member done
  | commit _ done serves => exact serves.keep (fun s _ all => ⟨s.commit, rfl, all.commit⟩) done
  | rollback _ done serves => exact serves.keep (fun s _ all => ⟨s.rollback, rfl, all.rollback⟩) done
  | other _ layout same serves => exact serves.otherAll layout same

end Workspace

namespace Run

open Workspace

end Run

/-! A zoo with a dog, a cat, or both, and a cat at hand that has the number of the dog. -/

namespace Zoo

/-- A new zoo beside a dog and two cats, of which the first has the number of the dog. -/
def fresh : Workspace := opened false true none [rex dog 1 (.int 7), whiskers 1 "Tom", whiskers 2 "Tim"]

/-- The kinds of the animals in the store, and which of them are found among the cats. -/
def kinds (w : Workspace) : List (Option String × Bool) :=
  (w.table 0 collection.name).map fun row => ((row.get? "kind").bind Value.text?, (side false true).covers row)

end Zoo

namespace Run

end Run

end ModelStore
