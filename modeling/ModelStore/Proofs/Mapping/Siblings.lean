import ModelStore.Proofs.Conversion
import ModelStore.Proofs.Mapping.Descent

/-!
Mappings that cannot be told apart. The document of a mapping leads to it exactly if no mapping on the way has an
earlier sibling of the same value, and so for all mappings exactly if siblings have different values everywhere.
-/

namespace ModelStore

namespace Layout

variable {l : Layout} {s t m p c a b : Mapping} {fs : FieldValues} {k : String}

theorem Tree.descend_below (tree : l.Tree) (fuel : Nat) (done : l.descend fs fuel t = .ok m) : Below l t m := by
  induction fuel generalizing t with
  | zero =>
    cases done
    exact .self
  | succ fuel ih =>
    unfold descend at done
    cases open_ : t.discriminator with
    | none =>
      simp only [open_] at done
      cases done
      exact .self
    | some k =>
      simp only [open_] at done
      cases found : l.nextMapping? t k fs with
      | none =>
        simp only [found] at done
        cases done
        exact .self
      | some c =>
        have child := (nextMapping?_cases found).1
        have hierarchy := tree.isHierarchy (mem_of_mem_children child)
        simp only [found, hierarchy, if_true] at done
        exact .trans (.child .self child) (ih done)

/-- There is no way from a mapping to itself. -/
theorem Tree.not_between (tree : l.Tree) (known : t ∈ l.mappings) (above : Below l t p) (child : c ∈ l.children p) :
    ¬Below l c t := by
  intro below
  have inside := above.mem known
  have first := above.id_le tree known
  have lower := (tree.extends_of_child inside child).2
  have last := below.id_le tree (mem_of_mem_children child)
  omega

theorem Tree.leads_of_descend (tree : l.Tree) (known : t ∈ l.mappings) (own : Matches fs m) (fuel : Nat)
    (done : l.descend fs fuel t = .ok m) (above : Below l t p) (child : c ∈ l.children p) (below : Below l c m) :
    l.Leads p c := by
  induction fuel generalizing t with
  | zero =>
    cases done
    exact (tree.not_between known above child below).elim
  | succ fuel ih =>
    unfold descend at done
    cases open_ : t.discriminator with
    | none =>
      simp only [open_] at done
      cases done
      exact (tree.not_between known above child below).elim
    | some k =>
      simp only [open_] at done
      cases found : l.nextMapping? t k fs with
      | none =>
        simp only [found] at done
        cases done
        exact (tree.not_between known above child below).elim
      | some next =>
        have sibling := (nextMapping?_cases found).1
        have inside := mem_of_mem_children sibling
        simp only [found, tree.isHierarchy inside, if_true] at done
        have down := tree.descend_below fuel done
        rcases above.cases_head with rfl | ⟨first, start, rest⟩
        · -- the way to the mapping starts with the child that is chosen
          cases tree.child_unique known child sibling below down
          intro j open_'
          cases open_.symm.trans open_'
          rw [← tree.nextMapping?_eq known child open_ (own.of_below below tree inside), found]
        · have below' := rest.trans (.trans (.child .self child) below)
          cases tree.child_unique known start sibling below' down
          exact ih inside done rest

end Layout

/-- A document with the discriminator values of a mapping, and with none for the discriminator of its own. -/
def Mapping.Tells (m : Mapping) (fs : FieldValues) : Prop :=
  Layout.Matches fs m ∧ ∀ k, m.discriminator = some k → fs.first k = .none

/-- The document that has the discriminator values of a mapping and nothing else. -/
def Mapping.signature (m : Mapping) : FieldValues := m.values.map fun e => (e.1, [.str e.2])

namespace Mapping

variable {m : Mapping}

theorem first_signature (k : String) : m.signature.first k = .ofOption .str (m.values.get? k) := by
  have mapped : m.signature.get? k = (m.values.get? k).map fun v => [Value.str v] :=
    Assoc.get?_map fun v => [Value.str v]
  rw [FieldValues.first, mapped]
  cases m.values.get? k <;> rfl

theorem Chained.get?_discriminator (chained : m.Chained) {k : String} (open_ : m.discriminator = some k) :
    m.values.get? k = none := by
  cases given : m.values.get? k with
  | none => rfl
  | some v =>
    obtain ⟨a, above, same⟩ := (chained.valued k).mp (Assoc.mem_keys_of_get? given)
    have names := chained.names
    rw [keysBy, chain, List.flatMap_append, List.flatMap_singleton] at names
    have first : k ∈ m.ancestors.flatMap (Level.keysBy (·.name)) :=
      List.mem_flatMap.mpr ⟨a, above, List.mem_append_left _ (Option.mem_toList.mpr same)⟩
    have second : k ∈ m.toLevel.keysBy (·.name) := List.mem_append_left _ (Option.mem_toList.mpr open_)
    exact ((List.nodup_append.mp names).2.2 k first k second rfl).elim

theorem Chained.tells_signature (chained : m.Chained) : m.Tells m.signature := by
  refine ⟨fun k v given => ?_, fun k open_ => ?_⟩
  · rw [first_signature, given]
    exact str_beq_self v
  · rw [first_signature, chained.get?_discriminator open_]
    rfl

end Mapping

namespace Layout

variable {l : Layout} {t m : Mapping} {fs : FieldValues}

/-- The document of a mapping leads to it exactly if each mapping on the way is the first one with its value. -/
theorem Tree.resolve_iff (tree : l.Tree) (known : t ∈ l.mappings) (below : Below l t m) (tells : m.Tells fs) :
    l.resolve t fs = .ok m ↔ ∀ p c, Below l t p → c ∈ l.children p → Below l c m → l.Leads p c :=
  ⟨fun done _ _ above child below => tree.leads_of_descend known tells.1 _ done above child below,
    tree.resolve_of_leads known below tells.1 tells.2⟩

/-- All documents lead to their mappings exactly if no two siblings have the same value. -/
theorem Tree.siblings_iff (tree : l.Tree) :
    (∀ p ∈ l.mappings, ∀ k, p.discriminator = some k → ∀ a ∈ l.children p, ∀ b ∈ l.children p,
      a.values.get? k = b.values.get? k → a = b) ↔
    ∀ t ∈ l.mappings, ∀ m, Below l t m → ∀ fs, m.Tells fs → l.resolve t fs = .ok m := by
  constructor
  · intro differ t known m below fs tells
    refine (tree.resolve_iff known below tells).mpr fun p c above child _ => leads_of_unique child ?_
    exact fun k open_ d sibling => differ p (above.mem known) k open_ d sibling c child
  · intro resolves p known k open_ a first b second same
    have leads : ∀ c ∈ l.children p, l.Leads p c := by
      intro c child
      obtain ⟨_, own⟩ := tree.formed c (mem_of_mem_children child)
      have below : Below l p c := .child .self child
      have tells := own.chained.tells_signature
      exact (tree.resolve_iff known below tells).mp (resolves p known c below _ tells) p c .self child .self
    have chosen := leads a first k open_
    rw [same, leads b second k open_] at chosen
    exact (Option.some.inj chosen).symm

end Layout

end ModelStore
