import ModelStore.Proofs.Mapping.Siblings
import ModelStore.Proofs.Workspace.Chains
import ModelStore.Proofs.Workspace.Origins

/-!
The mapping of a document in any hierarchy that comes about by declarations. Nothing keeps two mappings that
extend the same one from having the same value; the document of the later one then leads to the earlier one.
-/

namespace ModelStore

open Declaration

namespace Layout

variable {l l' : Layout} {m : Mapping} {models : List Model} {drivers : List Driver} {d : Declaration}

/-- What a planned mapping adds to the mappings of a hierarchy, whatever driver and schema it is on. -/
theorem linked_of_plan {p : Plan} (kind : d.kind = .hierarchy) (planned : l.plan models drivers d = .ok p) :
    p.mapping.id = l.mappings.length ∧
      (p.mapping.ancestors = [] ∨ ∃ q ∈ l.mappings, p.mapping.Extends q) := by
  obtain ⟨described, parent, indexes, facts⟩ := plan_cases planned
  have given := describe_cases facts.described
  have follows := follows_of_plan kind facts
  refine ⟨by rw [facts.mapping]; exact given.number, ?_⟩
  cases parent with
  | none => exact .inl follows.ancestors
  | some q =>
    have known := mem_of_parentIn given.parent_eq.symm
    obtain ⟨stored, -⟩ := place_child facts.place
    refine .inr ⟨q, known, follows.ancestors, ?_, fun k v => follows.inherited⟩
    rw [facts.mapping, stored]

end Layout

namespace Workspace

variable {w w' : Workspace}

/-- Hierarchies hang together, on any drivers and schemas. -/
theorem Grown.tree (grown : w.Grown) (only : ∀ m ∈ w.layout.mappings, m.kind = .hierarchy) : w.layout.Tree := by
  induction grown with
  | start none => exact Layout.tree_of_empty none
  | other before same ih => exact (ih (same ▸ only)).congr same
  | declare before handles done ih =>
    have after := Grown.declare before handles done
    rcases Run.mappings_of_declare done with ⟨same, -⟩ | ⟨m, added, -, -, kind, plan, -⟩
    · exact (ih (same ▸ only)).congr same
    · have each := only
      rw [added] at each
      obtain ⟨old, new⟩ := List.forall_mem_append.mp each
      have hierarchy := kind.symm.trans (new m (List.mem_singleton_self m))
      obtain ⟨p, planned, rfl⟩ := plan hierarchy
      obtain ⟨number, linked⟩ := Layout.linked_of_plan hierarchy planned
      have tree := ih old
      refine ⟨added ▸ tree.numbered_append number,
        fun x member => ⟨_, (after.sound x member (only x member)).1⟩, added ▸ tree.linked_append ?_⟩
      exact linked.imp_right fun ⟨q, known, extends_⟩ => ⟨q, known, number ▸ tree.id_lt known, extends_⟩

/-- A document leads from any mapping that it has the values of to one that it has the values of. That is its own
    mapping exactly if each mapping on the way is the first of its siblings with its value, and so for all mappings
    exactly if no two siblings have the same value. -/
theorem Grown.resolves_iff (grown : w.Grown) (only : ∀ m ∈ w.layout.mappings, m.kind = .hierarchy) :
    (∀ t ∈ w.layout.mappings, ∀ fs, Layout.Matches fs t →
      ∃ b, w.layout.resolve t fs = .ok b ∧ Layout.Below w.layout t b ∧ Layout.Matches fs b) ∧
    (∀ t ∈ w.layout.mappings, ∀ m, Layout.Below w.layout t m → ∀ fs, m.Tells fs →
      (w.layout.resolve t fs = .ok m ↔
        ∀ p c, Layout.Below w.layout t p → c ∈ w.layout.children p → Layout.Below w.layout c m →
          w.layout.Leads p c)) ∧
    ((∀ p ∈ w.layout.mappings, ∀ k, p.discriminator = some k →
        ∀ a ∈ w.layout.children p, ∀ b ∈ w.layout.children p, a.values.get? k = b.values.get? k → a = b) ↔
      ∀ t ∈ w.layout.mappings, ∀ m, Layout.Below w.layout t m → ∀ fs, m.Tells fs →
        w.layout.resolve t fs = .ok m) := by
  have tree := grown.tree only
  refine ⟨fun t known fs here => tree.descend_matches known here _, fun t known m below fs tells => ?_,
    tree.siblings_iff⟩
  exact tree.resolve_iff known below tells

/-- The document of a cat leads to the cats also from the animals. -/
theorem Grown.resolves_iff_cats : Zoo.bred.Grown ∧ (∀ m ∈ Zoo.bred.layout.mappings, m.kind = .hierarchy) ∧
    ∃ t ∈ Zoo.bred.layout.mappings, ∃ m ∈ Zoo.bred.layout.children t, m.signature = [("kind", [.str "cat"])] ∧
      Zoo.bred.layout.resolve t m.signature = .ok m := by
  have only : ∀ m ∈ Zoo.bred.layout.mappings, m.kind = .hierarchy := by decide +kernel
  have first : ∃ t ∈ Zoo.bred.layout.mappings, ∃ m ∈ Zoo.bred.layout.children t,
      m.values = [("kind", "cat")] := by decide +kernel
  have differ : ∀ p ∈ Zoo.bred.layout.mappings, ∀ a ∈ Zoo.bred.layout.children p,
      ∀ b ∈ Zoo.bred.layout.children p, ∀ k ∈ p.discriminator, a.values.get? k = b.values.get? k →
        a.id = b.id := by decide +kernel
  obtain ⟨t, known, m, child, values⟩ := first
  have tree := Zoo.bred_grown.tree only
  obtain ⟨_, own⟩ := tree.formed m (Layout.mem_of_mem_children child)
  refine ⟨Zoo.bred_grown, only, t, known, m, child, by rw [Mapping.signature, values]; rfl, ?_⟩
  refine (resolves_iff Zoo.bred_grown only).2.2.mp (fun p inside k open_ a left b right same => ?_) t known m
    (.child .self child) m.signature own.chained.tells_signature
  exact tree.eq_of_id (Layout.mem_of_mem_children left) (Layout.mem_of_mem_children right)
    (differ p inside a left b right k open_ same)

end Workspace

namespace Zoo

/-- Lions that have the kind of the cats. -/
def prides : Declaration := { lions with values := .dict [(.str "kind", .str "cat")] }

def mixed : Workspace :=
  Run.after [Run.declare animals, Run.declare cats, Run.declare prides]
    { layout := { schemas := [{}] }, models := [animal, cat, lion], drivers := [.ofEvaluator none] }

theorem mixed_grown : mixed.Grown := by
  refine .declared (d := prides) (.declared (d := cats) (.declared (d := animals) (.start rfl) ?_) ?_) ?_
  all_goals decide +kernel

end Zoo

/-- The lions are accepted beside the cats, and the document of a lion leads from the animals to the cats. -/
theorem Workspace.not_resolves : Zoo.mixed.Grown ∧ (∀ m ∈ Zoo.mixed.layout.mappings, m.kind = .hierarchy) ∧
    ∃ t ∈ Zoo.mixed.layout.mappings, ∃ a ∈ Zoo.mixed.layout.children t, ∃ b ∈ Zoo.mixed.layout.children t,
      a.model.name = "Cat" ∧ b.model.name = "Lion" ∧ t.discriminator = some "kind" ∧
        a.values = [("kind", "cat")] ∧ b.values = [("kind", "cat")] ∧ b.Tells b.signature ∧
        Zoo.mixed.layout.resolve t b.signature = .ok a := by
  have only : ∀ m ∈ Zoo.mixed.layout.mappings, m.kind = .hierarchy := by decide +kernel
  have family : ∃ t ∈ Zoo.mixed.layout.mappings, ∃ a ∈ Zoo.mixed.layout.children t,
      ∃ b ∈ Zoo.mixed.layout.children t, a.model.name = "Cat" ∧ b.model.name = "Lion" ∧
        t.discriminator = some "kind" ∧ a.values = [("kind", "cat")] ∧ b.values = [("kind", "cat")] ∧
        (Zoo.mixed.layout.resolve t [("kind", [.str "cat"])]).toOption.map (·.id) = some a.id := by
    decide +kernel
  obtain ⟨t, known, a, left, b, right, first, second, open_, own, same, led⟩ := family
  have tree := Zoo.mixed_grown.tree only
  obtain ⟨_, sound⟩ := tree.formed b (Layout.mem_of_mem_children right)
  have signature : b.signature = [("kind", [.str "cat"])] := by
    rw [Mapping.signature, same]
    rfl
  refine ⟨Zoo.mixed_grown, only, t, known, a, left, b, right, first, second, open_, own, same,
    sound.chained.tells_signature, ?_⟩
  rw [signature]
  cases done : Zoo.mixed.layout.resolve t [("kind", [.str "cat"])] with
  | error e =>
    rw [done] at led
    cases led
  | ok m =>
    rw [done] at led
    have inside := (tree.descend_below _ done).mem known
    rw [tree.eq_of_id inside (Layout.mem_of_mem_children left) (Option.some.inj led)]

end ModelStore
