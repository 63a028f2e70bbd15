import ModelStore.Proofs.Mapping.Parsing
import ModelStore.Proofs.Workspace.Calls
import ModelStore.Proofs.Workspace.Filtering
import ModelStore.Proofs.Workspace.Grown

/-!
The chains of all mappings that are ever declared. However deep a mapping is in a hierarchy, it has a value for
the discriminator of each ancestor, the same as the mappings between them, and none of its attributes hides
another one.
-/

namespace ModelStore

open Declaration

namespace Mapping

variable {m : Mapping} {schema : Nat}

theorem Sound.keys_known (sound : m.Sound schema) : m.known.keys = m.keysBy (·.ref) := by
  rw [← map_allColumns (·.ref) sound.column fun _ _ _ => rfl, sound.known_eq, Assoc.keys, List.map_map]
  rfl

theorem Sound.known_discriminator {a : Level} {k : String} (sound : m.Sound schema) (link : a ∈ m.chain)
    (open_ : a.discriminator = some k) :
    ∃ f, a.column = some f ∧ f.name = k ∧ f.ref = k ∧ m.known.get? k = some f := by
  obtain ⟨raw, c, -, shape⟩ := sound.column a link
  rw [open_, Option.map_some] at shape
  have column : textField raw c k ∈ m.allColumns :=
    List.mem_flatMap.mpr ⟨a, link, List.mem_append_left _ (Option.mem_toList.mpr shape)⟩
  exact ⟨_, shape, rfl, rfl, sound.known_column column⟩

end Mapping

theorem Run.createQuery_restricted {m : Mapping} {schema : Nat} {ref : CollectionRef} (sound : m.Sound schema)
    (stored : m.collection = some ref) (w : Workspace) :
    ∃ q, (createQuery m).exec w = (.ok q, w) ∧ q.whereClause = .and m.restrictions := by
  obtain ⟨branches, created, tree⟩ := Mapping.createQuery_eq sound ref
  refine ⟨{ collection := ref, label := ref.name, branches, stack := [0] }, ?_, tree.freeze (Nat.le_add_left _ _)⟩
  have hierarchy : m.isHierarchy = true := beq_iff_eq.mpr sound.kind
  rw [createQuery, exec_bind_ok (exec_collectionOf stored w), if_pos hierarchy, created]
  rfl

namespace Workspace

variable {w : Workspace}

theorem Grown.chained (grown : w.Grown) : ∀ m ∈ w.layout.mappings, m.Chained ∧ m.Inherits :=
  grown.of_linked fun linked above =>
    ⟨linked.chained fun p found => (above p found).1, linked.inherits fun p found => (above p found).2⟩

end Workspace

namespace Run

variable {w w' : Workspace} {d : Declaration} {h : Handle}

/-- Every mapping that is accepted has a well-formed chain, whatever was declared before. In a hierarchy each
    discriminator and each field of the chain then has an entry of its own among the attributes, and the query of
    the mapping has a condition for every ancestor. -/
theorem chain_of_declare (grown : w.Grown)
    (handles : ∀ p, d.parentIn w.layout = some p → d.parent = .object p.handle)
    (done : (declare d).exec w = (.ok h, w')) :
    ∃ m, w'.layout.mappings = w.layout.mappings ++ [m] ∧ m.handle = h ∧ m.kind = d.kind ∧
      m.ancestors = ((d.parentIn w.layout).map Mapping.chain).getD [] ∧
      (∀ a ∈ m.ancestors, ∃ k, a.discriminator = some k) ∧
      (∀ k, k ∈ m.values.keys ↔ ∃ a ∈ m.ancestors, a.discriminator = some k) ∧
      (∀ a ∈ m.ancestors, ∀ k v, a.values.get? k = some v → m.values.get? k = some v) ∧
      m.discriminators.Nodup ∧
      (∀ k ∈ m.discriminators, ∀ f ∈ m.allFields, f.name ≠ k ∧ f.ref ≠ k) ∧
      (m.allFields.map (·.name)).Nodup ∧ (m.allFields.map (·.ref)).Nodup ∧
      (m.kind = .hierarchy →
        m.known.keys = m.keysBy (·.ref) ∧ m.known.keys.Nodup ∧
        (∀ f ∈ m.allFields, m.known.get? f.ref = some f) ∧
        (∀ a ∈ m.chain, ∀ k, a.discriminator = some k →
          ∃ f, a.column = some f ∧ f.name = k ∧ f.ref = k ∧ m.known.get? k = some f) ∧
        ∀ w, ∃ q, (createQuery m).exec w = (.ok q, w) ∧ q.whereClause = .and m.restrictions) := by
  have grown' : w'.Grown := .declare grown handles done
  rcases mappings_of_declare done with ⟨-, e, failed⟩ | ⟨m, added, answered, linked, kind, -⟩
  · cases failed
  have member : m ∈ w'.layout.mappings := added ▸ List.mem_append_right _ (List.mem_singleton_self m)
  obtain ⟨chained, inherits⟩ := grown'.chained m member
  obtain ⟨discriminators, names, apart⟩ := Mapping.keysBy_cases chained.names
  obtain ⟨-, refs, apart'⟩ := Mapping.keysBy_cases chained.refs
  refine ⟨m, added, answered h rfl, kind, linked.ancestors, chained.extensible, chained.valued, inherits,
    discriminators, fun k own f declared => ⟨apart k own f declared, apart' k own f declared⟩, names, refs,
    fun hierarchy => ?_⟩
  obtain ⟨sound, ref, stored⟩ := grown'.sound m member hierarchy
  refine ⟨sound.keys_known, sound.keys_known ▸ chained.refs, fun f declared => ?_, fun a link k open_ => ?_,
    createQuery_restricted sound stored⟩
  · exact sound.known_column (Layout.mem_allColumns_of_mem_allFields declared)
  · exact sound.known_discriminator link open_

end Run

/-! Puppies, which extend the dogs, which extend the animals. -/

namespace Zoo

/-- The mappings that are declared before the one of the puppies. -/
def bred : Workspace :=
  Run.after [Run.declare animals, Run.declare cats, Run.declare (dogs false)]
    { layout := { schemas := [{}] }, models := models true, drivers := [.ofEvaluator none] }

theorem bred_grown : bred.Grown := by
  refine .declared (d := dogs false) (.declared (d := cats) (.declared (d := animals) (.start rfl) ?_) ?_) ?_
  all_goals decide +kernel

end Zoo

theorem Run.chain_of_declare_puppies : ∃ h w' m, (declare (Zoo.puppies true)).exec Zoo.bred = (.ok h, w') ∧
    w'.layout.mappings.getLast? = some m ∧ m.discriminators = ["kind", "breed"] ∧
    m.values = [("kind", "dog"), ("breed", "puppy")] ∧
    m.known.keys = m.keysBy (·.ref) ∧ m.keysBy (·.ref) = ["kind", "id", "name", "breed", "tag"] ∧
    ∃ q, (createQuery m).exec w' = (.ok q, w') ∧ q.whereClause = .and m.restrictions := by
  have handles := Declaration.parent_of_named (d := Zoo.puppies true) (l := Zoo.bred.layout) (by decide +kernel)
  have accepted : ((declare (Zoo.puppies true)).exec Zoo.bred).1.toBool = true := by decide +kernel
  have made : ((declare (Zoo.puppies true)).exec Zoo.bred).2.layout.mappings.getLast?.all (fun m =>
      m.discriminators == ["kind", "breed"] && m.values == [("kind", "dog"), ("breed", "puppy")] &&
        m.keysBy (·.ref) == ["kind", "id", "name", "breed", "tag"] && m.isHierarchy) = true := by
    decide +kernel
  cases done : (declare (Zoo.puppies true)).exec Zoo.bred with
  | mk outcome w' =>
    rw [done] at accepted made
    cases outcome with
    | error e => cases accepted
    | ok h =>
      obtain ⟨m, added, -, -, -, -, -, -, -, -, -, -, attributes⟩ := chain_of_declare Zoo.bred_grown handles done
      have last : w'.layout.mappings.getLast? = some m := by rw [added, List.getLast?_concat]
      rw [last, Option.all_some] at made
      simp only [Bool.and_eq_true, beq_iff_eq] at made
      obtain ⟨⟨⟨discriminators, values⟩, keys⟩, hierarchy⟩ := made
      obtain ⟨known, -, -, -, created⟩ := attributes (beq_iff_eq.mp hierarchy)
      exact ⟨h, w', m, rfl, last, discriminators, values, known, keys, created w'⟩

end ModelStore
