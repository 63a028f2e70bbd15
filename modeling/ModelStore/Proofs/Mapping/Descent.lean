import Mathlib
import ModelStore.Mapping.Reading
import ModelStore.Mapping.Writing
import ModelStore.Proofs.Mapping.Hierarchy
import ModelStore.Proofs.Value.Equality

/-!
Going down a hierarchy, in two ways: the mappings that are listed level by level, from which the one
of an instance is chosen, and the walk along the discriminators of a document. The first one comes to
every mapping below, and the second one to the mapping whose discriminator values the document has.
-/

namespace ModelStore.Layout

variable {l : Layout} {s t m p c a b : Mapping}

/-- The mapping itself and those that extend it, directly or not. -/
inductive Below (l : Layout) (s : Mapping) : Mapping → Prop where
  | self : Below l s s
  | child {p c : Mapping} (above : Below l s p) (child : c ∈ l.children p) : Below l s c

/-! Links. -/

theorem mem_of_mem_children (child : c ∈ l.children p) : c ∈ l.mappings :=
  (List.mem_filter.mp child).1

theorem Tree.extends_of_child (tree : l.Tree) (known : p ∈ l.mappings)
    (child : c ∈ l.children p) : c.Extends p ∧ p.id < c.id := by
  rcases List.mem_filter.mp child with ⟨member, linked⟩
  rcases tree.linked c member with top | ⟨q, known', lower, extends_⟩
  · simp only [Mapping.parent?, top, List.getLast?_nil, Option.any_none, Bool.false_eq_true] at linked
  · have last : c.parent? = some q.toLevel := by
      rw [Mapping.parent?, extends_.ancestors, Mapping.chain, List.getLast?_concat]
    rw [last, Option.any_some, beq_iff_eq] at linked
    cases tree.eq_of_id known' known linked
    exact ⟨extends_, lower⟩

theorem child_of_extends (member : c ∈ l.mappings) (extends_ : c.Extends p) : c ∈ l.children p := by
  refine List.mem_filter.mpr ⟨member, ?_⟩
  rw [Mapping.parent?, extends_.ancestors, Mapping.chain, List.getLast?_concat, Option.any_some,
    beq_self_eq_true]

theorem Tree.parent_unique (tree : l.Tree) (first : a ∈ l.mappings) (second : b ∈ l.mappings)
    (child : c ∈ l.children a) (child' : c ∈ l.children b) : a = b := by
  have ancestors := (tree.extends_of_child first child).1.ancestors
  rw [(tree.extends_of_child second child').1.ancestors, Mapping.chain, Mapping.chain] at ancestors
  have last := List.append_inj_right' ancestors rfl
  exact tree.eq_of_id first second (congrArg Level.id (List.singleton_inj.mp last)).symm

theorem Tree.hierarchies (tree : l.Tree) (m : Mapping) :
    (l.children m).filter Mapping.isHierarchy = l.children m := by
  rw [List.filter_eq_self]
  intro c child
  exact tree.isHierarchy (mem_of_mem_children child)

theorem Tree.nodup (tree : l.Tree) : l.mappings.Nodup := by
  rw [List.nodup_iff_pairwise_ne, List.pairwise_iff_getElem]
  intro i j low high less same
  have first := tree.numbered i _ (List.getElem?_eq_getElem low)
  have second := tree.numbered j _ (List.getElem?_eq_getElem high)
  rw [same] at first
  omega

namespace Below

theorem trans (first : Below l s p) (second : Below l p m) : Below l s m := by
  induction second with
  | self => exact first
  | child _ child ih => exact .child ih child

theorem cases_head (below : Below l s m) : m = s ∨ ∃ c ∈ l.children s, Below l c m := by
  induction below with
  | self => exact .inl rfl
  | child above child ih =>
    rcases ih with rfl | ⟨c, first, rest⟩
    · exact .inr ⟨_, child, .self⟩
    · exact .inr ⟨c, first, .child rest child⟩

theorem mem (below : Below l s m) (known : s ∈ l.mappings) : m ∈ l.mappings := by
  cases below with
  | self => exact known
  | child _ child => exact mem_of_mem_children child

theorem id_le (below : Below l s m) (tree : l.Tree) (known : s ∈ l.mappings) : s.id ≤ m.id := by
  induction below with
  | self => exact Nat.le_refl _
  | child above child ih =>
    have lower := (tree.extends_of_child (above.mem known) child).2
    omega

theorem comparable (first : Below l a m) (second : Below l b m) (tree : l.Tree)
    (known : a ∈ l.mappings) (known' : b ∈ l.mappings) : Below l a b ∨ Below l b a := by
  induction first with
  | self => exact .inr second
  | child above child ih =>
    cases second with
    | self => exact .inl (.child above child)
    | child above' child' =>
      cases tree.parent_unique (above.mem known) (above'.mem known') child child'
      exact ih above'

theorem collection (below : Below l s m) (tree : l.Tree) (known : s ∈ l.mappings) :
    m.collection = s.collection := by
  induction below with
  | self => rfl
  | child above child ih =>
    rw [(tree.extends_of_child (above.mem known) child).1.collection, ih]

theorem chain_prefix (below : Below l s m) (tree : l.Tree) (known : s ∈ l.mappings) :
    s.chain <+: m.chain := by
  induction below with
  | self => exact List.prefix_rfl
  | child above child ih =>
    have ancestors := (tree.extends_of_child (above.mem known) child).1.ancestors
    refine ih.trans ?_
    rw [← ancestors]
    exact List.prefix_append _ _

theorem values (below : Below l s m) (tree : l.Tree) (known : s ∈ l.mappings) {k v : String}
    (given : s.values.get? k = some v) : m.values.get? k = some v := by
  induction below with
  | self => exact given
  | child above child ih => exact (tree.extends_of_child (above.mem known) child).1.values k v ih

end Below

/-! Level by level. -/

/-- No mapping is below both. -/
def Apart (l : Layout) (a b : Mapping) : Prop := ∀ x, Below l a x → ¬Below l b x

theorem Tree.not_below_parent (tree : l.Tree) (known : p ∈ l.mappings)
    (child : c ∈ l.children p) : ¬Below l c p := by
  intro below
  have lower := (tree.extends_of_child known child).2
  have upper := below.id_le tree (mem_of_mem_children child)
  omega

/-- What is below two children of a mapping is below one. -/
theorem Tree.child_unique (tree : l.Tree) (known : p ∈ l.mappings) (first : a ∈ l.children p)
    (second : b ∈ l.children p) (below : Below l a m) (below' : Below l b m) : a = b := by
  have separate : ∀ a ∈ l.children p, ∀ b ∈ l.children p, Below l a b → a = b := by
    intro a first b second down
    cases down with
    | self => rfl
    | child above child =>
      cases tree.parent_unique (above.mem (mem_of_mem_children first)) known child second
      exact (tree.not_below_parent known first above).elim
  rcases below.comparable below' tree (mem_of_mem_children first) (mem_of_mem_children second) with down | up
  · exact separate a first b second down
  · exact (separate b second a first up).symm

theorem Tree.apart_children (tree : l.Tree) (known : p ∈ l.mappings) :
    (l.children p).Pairwise (Apart l) := by
  have distinct : (l.children p).Nodup := tree.nodup.filter _
  refine List.Pairwise.imp_of_mem ?_ distinct
  exact fun first second other x below below' => other (tree.child_unique known first second below below')

theorem Tree.apart_queue {ms : List Mapping} (tree : l.Tree) (known : m ∈ l.mappings)
    (apart : (m :: ms).Pairwise (Apart l)) : (ms ++ l.children m).Pairwise (Apart l) := by
  rcases List.pairwise_cons.mp apart with ⟨first, rest⟩
  refine List.pairwise_append.mpr ⟨rest, tree.apart_children known, ?_⟩
  intro a member c child x below below'
  exact first a member x (.trans (.child .self child) below') below

theorem Tree.breadthFirst_below (tree : l.Tree) {fuel : Nat} {ms : List Mapping} :
    ∀ x ∈ l.breadthFirst fuel ms, ∃ q ∈ ms, Below l q x := by
  induction fuel generalizing ms with
  | zero => exact List.forall_mem_nil _
  | succ fuel ih =>
    cases ms with
    | nil => exact List.forall_mem_nil _
    | cons m ms =>
      rw [breadthFirst, tree.hierarchies]
      refine List.forall_mem_cons.mpr ⟨⟨m, List.mem_cons_self .., .self⟩, fun x later => ?_⟩
      rcases ih x later with ⟨q, member, below⟩
      rcases List.mem_append.mp member with queued | child
      · exact ⟨q, List.mem_cons_of_mem _ queued, below⟩
      · exact ⟨m, List.mem_cons_self .., .trans (.child .self child) below⟩

theorem Tree.breadthFirst_nodup (tree : l.Tree) {fuel : Nat} {ms : List Mapping}
    (known : ∀ m ∈ ms, m ∈ l.mappings) (apart : ms.Pairwise (Apart l)) :
    (l.breadthFirst fuel ms).Nodup := by
  induction fuel generalizing ms with
  | zero => exact List.nodup_nil
  | succ fuel ih =>
    cases ms with
    | nil => exact List.nodup_nil
    | cons m ms =>
      rw [breadthFirst, tree.hierarchies]
      have here := known m (List.mem_cons_self ..)
      refine List.nodup_cons.mpr ⟨fun again => ?_, ih ?_ (tree.apart_queue here apart)⟩
      · rcases tree.breadthFirst_below m again with ⟨q, member, below⟩
        rcases List.mem_append.mp member with queued | child
        · exact (List.pairwise_cons.mp apart).1 q queued m .self below
        · exact tree.not_below_parent here child below
      · intro x member
        rcases List.mem_append.mp member with queued | child
        · exact known x (List.mem_cons_of_mem _ queued)
        · exact mem_of_mem_children child

/-- Either all is listed that is below, or as many mappings as the bound allows. -/
theorem Tree.breadthFirst_all (tree : l.Tree) (fuel : Nat) (ms : List Mapping) :
    (l.breadthFirst fuel ms).length = fuel ∨
      ∀ q ∈ ms, ∀ x, Below l q x → x ∈ l.breadthFirst fuel ms := by
  induction fuel generalizing ms with
  | zero => exact .inl rfl
  | succ fuel ih =>
    cases ms with
    | nil => exact .inr (List.forall_mem_nil _)
    | cons m ms =>
      rw [breadthFirst, tree.hierarchies]
      rcases ih (ms ++ l.children m) with full | all
      · exact .inl (by rw [List.length_cons, full])
      · refine .inr (List.forall_mem_cons.mpr ⟨fun x below => ?_, fun q queued x below => ?_⟩)
        · rcases below.cases_head with rfl | ⟨c, child, rest⟩
          · exact List.mem_cons_self ..
          · exact List.mem_cons_of_mem _ (all c (List.mem_append_right _ child) x rest)
        · exact List.mem_cons_of_mem _ (all q (List.mem_append_left _ queued) x below)

/-- All mappings below are listed, each once. -/
theorem Tree.mem_subtree (tree : l.Tree) (known : s ∈ l.mappings) (below : Below l s m) :
    m ∈ l.subtree s := by
  rcases tree.breadthFirst_all l.mappings.length [s] with full | all
  · have inside : l.subtree s ⊆ l.mappings := by
      intro x member
      rcases tree.breadthFirst_below x member with ⟨q, start, below⟩
      rw [List.mem_singleton.mp start] at below
      exact below.mem known
    have distinct : (l.subtree s).Nodup :=
      tree.breadthFirst_nodup (List.forall_mem_singleton.mpr known) (List.pairwise_singleton _ _)
    have whole := (distinct.subperm inside).perm_of_length_le (Nat.le_of_eq full.symm)
    exact whole.mem_iff.mpr (below.mem known)
  · exact all s (List.mem_singleton_self s) m below

theorem Tree.below_of_mem_subtree (tree : l.Tree) (member : m ∈ l.subtree s) : Below l s m := by
  rcases tree.breadthFirst_below m member with ⟨q, start, below⟩
  rwa [List.mem_singleton.mp start] at below

/-- An instance belongs to the mapping of its class, if there is one only. -/
theorem Tree.mappingFor_eq {x : Entity} (tree : l.Tree) (known : s ∈ l.mappings)
    (below : Below l s m) (own : m.model.name = x.model.name)
    (unique : ∀ c ∈ l.mappings, c.collection = m.collection → c.model.name = m.model.name → c = m) :
    l.mappingFor s x = .ok m := by
  have listed := tree.mem_subtree known below
  unfold mappingFor
  cases found : (l.subtree s).find? fun c => c.model.name == x.model.name with
  | none =>
    have absent := List.find?_eq_none.mp found m listed
    rw [own, beq_self_eq_true] at absent
    exact (absent rfl).elim
  | some c =>
    have same := List.find?_some found
    rw [beq_iff_eq, ← own] at same
    have below' := tree.below_of_mem_subtree (List.mem_of_find?_eq_some found)
    have collection := (below'.collection tree known).trans (below.collection tree known).symm
    cases unique c (below'.mem known) collection same
    rfl

theorem Tree.mappingFor_cases {x : Entity} (tree : l.Tree)
    (done : l.mappingFor s x = .ok m) : Below l s m := by
  unfold mappingFor at done
  split at done
  · rename_i c found
    cases done
    exact tree.below_of_mem_subtree (List.mem_of_find?_eq_some found)
  · split at done
    · cases done
      exact .self
    · cases done

/-! Along the discriminators. -/

/-- Whether a document has the discriminator values of a mapping. -/
def Matches (fs : FieldValues) (m : Mapping) : Prop :=
  ∀ k v, m.values.get? k = some v → (Value.str v == fs.first k) = true

/-- Mappings of a collection that extend the same one differ in their values for its discriminator. -/
def SiblingsDiffer (l : Layout) (ref : CollectionRef) : Prop :=
  ∀ p ∈ l.mappings, p.collection = some ref → ∀ k, p.discriminator = some k →
    ∀ a ∈ l.children p, ∀ b ∈ l.children p, a.values.get? k = b.values.get? k → a = b

variable {fs : FieldValues} {k : String}

theorem Tree.exists_value (tree : l.Tree) (known : p ∈ l.mappings)
    (child : c ∈ l.children p) (open_ : p.discriminator = some k) : ∃ v, c.values.get? k = some v := by
  obtain ⟨_, own⟩ := tree.formed c (mem_of_mem_children child)
  have ancestors := (tree.extends_of_child known child).1.ancestors
  have member : p.toLevel ∈ c.ancestors := by
    rw [ancestors, Mapping.chain]
    exact List.mem_append_right _ (List.mem_singleton_self _)
  have present := (own.valued k).mpr ⟨p.toLevel, member, open_⟩
  exact Assoc.exists_of_mem_keys present

/-- Beside those of the parent, a mapping has one value of its own. -/
theorem Tree.value_cases (tree : l.Tree) (known : p ∈ l.mappings)
    (child : c ∈ l.children p) {v : String} (given : c.values.get? k = some v) :
    p.discriminator = some k ∨ p.values.get? k = some v := by
  obtain ⟨_, own⟩ := tree.formed c (mem_of_mem_children child)
  obtain ⟨_, above⟩ := tree.formed p known
  have extends_ := (tree.extends_of_child known child).1
  have present : k ∈ c.values.keys := Assoc.mem_keys_of_get? given
  rcases (own.valued k).mp present with ⟨a, member, open_⟩
  rw [extends_.ancestors, Mapping.chain] at member
  rcases List.mem_append.mp member with inside | last
  · have inherited := (above.valued k).mpr ⟨a, inside, open_⟩
    rcases Assoc.exists_of_mem_keys inherited with ⟨v', value⟩
    cases (extends_.values k v' value).symm.trans given
    exact .inr value
  · rw [List.mem_singleton.mp last] at open_
    exact .inl open_

theorem Tree.matches_child (tree : l.Tree) (known : p ∈ l.mappings)
    (child : c ∈ l.children p) (above : Matches fs p) (open_ : p.discriminator = some k)
    (own : (Value.ofOption .str (c.values.get? k) == fs.first k) = true) : Matches fs c := by
  intro j v given
  rcases tree.value_cases known child given with same | inherited
  · cases open_.symm.trans same
    rwa [given] at own
  · exact above j v inherited

theorem Tree.extensible_of_child (tree : l.Tree) (known : p ∈ l.mappings)
    (child : c ∈ l.children p) : ∃ k, p.discriminator = some k := by
  obtain ⟨_, own⟩ := tree.formed c (mem_of_mem_children child)
  have ancestors := (tree.extends_of_child known child).1.ancestors
  refine own.extensible p.toLevel ?_
  rw [ancestors, Mapping.chain]
  exact List.mem_append_right _ (List.mem_singleton_self _)

theorem Matches.of_below (below : Below l s m) (tree : l.Tree) (known : s ∈ l.mappings)
    (own : Matches fs m) : Matches fs s :=
  fun k v given => own k v (below.values tree known given)

theorem nextMapping?_cases (found : l.nextMapping? p k fs = some c) :
    c ∈ l.children p ∧ (Value.ofOption .str (c.values.get? k) == fs.first k) = true := by
  have same := List.find?_some (p := fun c : Mapping =>
    Value.ofOption .str (c.values.get? k) == fs.first k) found
  exact ⟨List.mem_of_find?_eq_some found, same⟩

/-- The walk ends at a mapping whose discriminator values the document has. -/
theorem Tree.descend_matches (tree : l.Tree) (known : t ∈ l.mappings) (here : Matches fs t)
    (fuel : Nat) : ∃ b, l.descend fs fuel t = .ok b ∧ Below l t b ∧ Matches fs b := by
  induction fuel generalizing t with
  | zero => exact ⟨t, rfl, .self, here⟩
  | succ fuel ih =>
    unfold descend
    cases open_ : t.discriminator with
    | none => exact ⟨t, rfl, .self, here⟩
    | some k =>
      dsimp only
      cases found : l.nextMapping? t k fs with
      | none => exact ⟨t, rfl, .self, here⟩
      | some c =>
        rcases nextMapping?_cases found with ⟨child, same⟩
        have inside := mem_of_mem_children child
        have hierarchy := tree.isHierarchy inside
        have there := tree.matches_child known child here open_ same
        obtain ⟨b, reached, below, final⟩ := ih inside there
        refine ⟨b, ?_, .trans (.child .self child) below, final⟩
        simp only [hierarchy, if_true]
        exact reached

/-- Among the mappings that extend the same one, the first one with its value for the discriminator. -/
def Leads (l : Layout) (p c : Mapping) : Prop :=
  ∀ k, p.discriminator = some k → (l.children p).find? (fun d => d.values.get? k == c.values.get? k) = some c

theorem leads_of_unique (child : c ∈ l.children p)
    (unique : ∀ k, p.discriminator = some k → ∀ d ∈ l.children p, d.values.get? k = c.values.get? k → d = c) :
    l.Leads p c := by
  intro k open_
  cases found : (l.children p).find? fun d => d.values.get? k == c.values.get? k with
  | none => exact (List.find?_eq_none.mp found c child (beq_self_eq_true _)).elim
  | some d =>
    have same := List.find?_some found
    rw [unique k open_ d (List.mem_of_find?_eq_some found) (beq_iff_eq.mp same)]

/-- A document with the values of a child goes on to the first one with its value. -/
theorem Tree.nextMapping?_eq (tree : l.Tree) (known : p ∈ l.mappings) (child : c ∈ l.children p)
    (open_ : p.discriminator = some k) (own : Matches fs c) :
    l.nextMapping? p k fs = (l.children p).find? fun d => d.values.get? k == c.values.get? k := by
  obtain ⟨v, given⟩ := tree.exists_value known child open_
  have told := own k v given
  refine List.find?_congr fun d sibling => ?_
  obtain ⟨v', given'⟩ := tree.exists_value known sibling open_
  rw [given, given', Value.ofOption, Bool.eq_iff_iff, Option.some_beq_some]
  refine ⟨fun same => beq_iff_eq.mpr (Value.str_beq_unique same told), fun same => ?_⟩
  rw [beq_iff_eq.mp same]
  exact told

/-- The document of a mapping leads to it from a mapping above, if each mapping on the way is the first one with
    its value. -/
theorem Tree.descend_eq (tree : l.Tree) (known : t ∈ l.mappings) (below : Below l t m) (own : Matches fs m)
    (last : ∀ k, m.discriminator = some k → fs.first k = .none)
    (leads : ∀ p c, Below l t p → c ∈ l.children p → Below l c m → l.Leads p c) (fuel : Nat)
    (deep : m.ancestors.length ≤ fuel + t.ancestors.length) : l.descend fs fuel t = .ok m := by
  induction fuel generalizing t with
  | zero =>
    rcases below.cases_head with rfl | ⟨c, child, rest⟩
    · rfl
    · have longer := (rest.chain_prefix tree (mem_of_mem_children child)).length_le
      rw [Mapping.chain, Mapping.chain, (tree.extends_of_child known child).1.ancestors] at longer
      simp only [Mapping.chain, List.length_append, List.length_singleton] at longer
      omega
  | succ fuel ih =>
    unfold descend
    rcases below.cases_head with rfl | ⟨c, child, rest⟩
    · cases open_ : m.discriminator with
      | none => rfl
      | some k =>
        have stop : l.nextMapping? m k fs = none := by
          rw [nextMapping?, List.find?_eq_none]
          intro c child
          obtain ⟨v, given⟩ := tree.exists_value known child open_
          rw [given, last k open_, Value.ofOption, Value.str_beq_none]
          exact Bool.false_ne_true
        simp only [stop]
    · obtain ⟨k, open_⟩ := tree.extensible_of_child known child
      have inside := mem_of_mem_children child
      have ancestors := (tree.extends_of_child known child).1.ancestors
      have next : l.nextMapping? t k fs = some c :=
        (tree.nextMapping?_eq known child open_ (own.of_below rest tree inside)).trans (leads t c .self child rest k open_)
      have hierarchy := tree.isHierarchy inside
      simp only [open_, next, hierarchy, if_true]
      refine ih inside rest (fun p d below' => leads p d (.trans (.child .self child) below')) ?_
      rw [ancestors, Mapping.chain, List.length_append, List.length_singleton]
      omega

theorem Tree.depth_le (tree : l.Tree) (known : m ∈ l.mappings) :
    m.ancestors.length ≤ m.id := by
  induction bound : m.id using Nat.strongRecOn generalizing m with
  | ind n ih =>
    rcases tree.linked m known with top | ⟨p, known', lower, extends_⟩
    · rw [top]
      exact Nat.zero_le _
    · have above := ih p.id (bound ▸ lower) known' rfl
      rw [extends_.ancestors, Mapping.chain, List.length_append, List.length_singleton]
      omega

theorem Tree.resolve_of_leads (tree : l.Tree) (known : t ∈ l.mappings) (below : Below l t m) (own : Matches fs m)
    (last : ∀ k, m.discriminator = some k → fs.first k = .none)
    (leads : ∀ p c, Below l t p → c ∈ l.children p → Below l c m → l.Leads p c) : l.resolve t fs = .ok m := by
  have depth := tree.depth_le (below.mem known)
  have bound := tree.id_lt (below.mem known)
  exact tree.descend_eq known below own last leads _ (by omega)

/-- The mapping of a document is found from every mapping above it. -/
theorem Tree.resolve_eq {ref : CollectionRef} (tree : l.Tree) (differ : l.SiblingsDiffer ref)
    (known : t ∈ l.mappings) (stored : t.collection = some ref) (below : Below l t m) (own : Matches fs m)
    (last : ∀ k, m.discriminator = some k → fs.first k = .none) : l.resolve t fs = .ok m := by
  refine tree.resolve_of_leads known below own last fun p c above child _ => ?_
  have stored' := (above.collection tree known).trans stored
  exact leads_of_unique child fun k open_ d sibling => differ p (above.mem known) stored' k open_ d sibling c child

end ModelStore.Layout
