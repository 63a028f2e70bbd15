import ModelStore.Proofs.Workspace.Declaring

/-!
Workspaces in which mappings of all kinds have been declared, on any drivers and schemas, and in which
anything else may have happened. Each mapping of a hierarchy has the discriminator values that it needs.
-/

namespace ModelStore

open Declaration

namespace Declaration

variable {d : Declaration} {l : Layout}

/-- Whether a declaration names the mapping that it extends by its own handle. -/
def namesParent (d : Declaration) (l : Layout) : Bool :=
  (d.parentIn l).all fun p => match d.parent with
    | .object h => h == p.handle
    | _ => false

theorem parent_of_named (named : d.namesParent l = true) :
    ∀ p, d.parentIn l = some p → d.parent = .object p.handle := by
  intro p found
  rw [namesParent, found, Option.all_some] at named
  split at named
  · rename_i h given
    rw [given, beq_iff_eq.mp named]
  · cases named

end Declaration

namespace Run

variable {α β : Type} {w w' : Workspace} {a : Run α} {f : α → Run β}

/-- Whether an operation leaves the mappings as they are. -/
def Steady (a : Run α) : Prop := ∀ w, (a.exec w).2.layout.mappings = w.layout.mappings

namespace Steady

theorem ofExcept (x : Except Error α) : Steady (Run.ofExcept x) := by
  intro w
  rw [exec_ofExcept]

theorem bind (first : Steady a) (next : ∀ x, Steady (f x)) : Steady (a >>= f) := by
  intro w
  have before := first w
  rw [exec_bind]
  cases done : a.exec w with
  | mk outcome w₁ =>
    rw [done] at before
    cases outcome with
    | error e => exact before
    | ok x => exact (next x w₁).trans before

theorem read {f : Workspace → Run β} (next : ∀ w, Steady (f w)) : Steady (get >>= f) :=
  bind (fun _ => rfl) next

theorem forM {xs : List α} {g : α → Run PUnit} (each : ∀ x, Steady (g x)) : Steady (xs.forM g) := by
  induction xs with
  | nil => exact fun _ => rfl
  | cons x xs ih => exact (each x).bind fun _ => ih

theorem addCollection (schema : Nat) (c : Collection) : Steady (Run.addCollection schema c) :=
  bind (a := newCollection c) (fun _ => rfl) fun _ => read fun _ => (ofExcept _).bind fun _ _ => rfl

theorem addField (ref : CollectionRef) (f : CollectionField) : Steady (Run.addField ref f) :=
  read fun _ => (ofExcept _).bind fun _ _ => rfl

theorem addIndex (ref : CollectionRef) (i : CollectionIndex) : Steady (Run.addIndex ref i) :=
  read fun _ => (ofExcept _).bind fun _ _ => rfl

end Steady

/-- Whether an operation adds a mapping, unless it fails with the mappings as they were. -/
def Appends (m : Mapping) (a : Run α) : Prop :=
  ∀ w, ((a.exec w).2.layout.mappings = w.layout.mappings ∧ ∃ e, (a.exec w).1 = .error e) ∨
    (a.exec w).2.layout.mappings = w.layout.mappings ++ [m]

namespace Appends

variable {m : Mapping}

theorem after (first : Steady a) (next : ∀ x, Appends m (f x)) : Appends m (a >>= f) := by
  intro w
  have before := first w
  rw [exec_bind]
  cases done : a.exec w with
  | mk outcome w₁ =>
    rw [done] at before
    cases outcome with
    | error e => exact .inl ⟨before, e, rfl⟩
    | ok x =>
      have last := next x w₁
      rwa [show w₁.layout.mappings = w.layout.mappings from before] at last

theorem andThen (first : Appends m a) (next : ∀ x, Steady (f x)) : Appends m (a >>= f) := by
  intro w
  have before := first w
  rw [exec_bind]
  cases done : a.exec w with
  | mk outcome w₁ =>
    rw [done] at before
    cases outcome with
    | error e => exact before.imp_left fun failed => ⟨failed.1, e, rfl⟩
    | ok x =>
      rcases before with ⟨-, e, failed⟩ | added
      · cases failed
      · exact .inr ((next x w₁).trans added)

theorem addMapping (m : Mapping) : Appends m (Run.addMapping m) := fun _ => .inr rfl

theorem carryOut (p : Plan) : Appends p.mapping (Run.carryOut p) := by
  have rest : Appends p.mapping (do
      p.columns.forM (addField p.ref); p.indexes.forM (addIndex p.ref); Run.addMapping p.mapping) :=
    after (.forM fun _ => .addField _ _) fun _ => after (.forM fun _ => .addIndex _ _) fun _ => addMapping _
  unfold Run.carryOut
  split
  · exact after (.addCollection _ _) fun _ => rest
  · exact rest

end Appends

/-- A declaration fails and leaves the mappings as they are, or it adds the one that it describes. -/
theorem mappings_of_declare {d : Declaration} {outcome : Except Error Handle}
    (done : (declare d).exec w = (outcome, w')) :
    (w'.layout.mappings = w.layout.mappings ∧ ∃ e, outcome = .error e) ∨
      ∃ m, w'.layout.mappings = w.layout.mappings ++ [m] ∧ (∀ h, outcome = .ok h → m.handle = h) ∧
        Layout.Linked m (d.parentIn w.layout) ∧ m.kind = d.kind ∧
        (d.kind = .hierarchy → ∃ p, w.layout.plan w.models w.drivers d = .ok p ∧ m = p.mapping) ∧
        m.id = w.layout.mappings.length := by
  have answered : ∀ {m : Mapping} {a : Run Unit} {e : Event},
      (do a; note e; return m.handle : Run Handle).exec w = (outcome, w') → ∀ h, outcome = .ok h → m.handle = h := by
    rintro m a e done h rfl
    rcases bind_cases done with ⟨e, failed, same⟩ | ⟨⟨⟩, w₁, -, last⟩
    · cases same
    · cases last
      rfl
  have reached : ∀ {m : Mapping} {a : Run Handle}, Appends m a → a.exec w = (outcome, w') →
      (w'.layout.mappings = w.layout.mappings ∧ ∃ e, outcome = .error e) ∨
        w'.layout.mappings = w.layout.mappings ++ [m] := by
    intro m a adds done
    have result := adds w
    rwa [done] at result
  unfold declare at done
  rw [exec_bind_ok (exec_get w)] at done
  cases kind : d.kind with
  | plain =>
    rw [kind] at done
    rcases bind_cases done with ⟨e, failed, same⟩ | ⟨⟨m, parent, indexes⟩, w₁, described, last⟩
    · exact .inl ⟨congrArg (·.layout.mappings) (ofExcept_cases failed).2, e, same⟩
    · obtain ⟨described, rfl⟩ := ofExcept_cases described
      have facts := Layout.describe_cases described
      refine (reached ((Appends.addMapping m).andThen fun _ _ => rfl) last).imp_right fun added => ?_
      exact ⟨m, added, answered last, facts.parent_eq ▸ facts.toLinked, facts.kind.trans kind, nofun, facts.number⟩
  | hierarchy =>
    rw [kind] at done
    rcases bind_cases done with ⟨e, failed, same⟩ | ⟨p, w₁, plan, last⟩
    · exact .inl ⟨congrArg (·.layout.mappings) (ofExcept_cases failed).2, e, same⟩
    · obtain ⟨plan, rfl⟩ := ofExcept_cases plan
      obtain ⟨described, parent, indexes, planned⟩ := Layout.plan_cases plan
      have facts := Layout.describe_cases planned.described
      have follows := Layout.follows_of_plan kind planned
      refine (reached ((Appends.carryOut p).andThen fun _ _ => rfl) last).imp_right fun added => ?_
      exact ⟨p.mapping, added, answered last, facts.parent_eq ▸ follows.toLinked, follows.hierarchy,
        fun _ => ⟨p, plan, rfl⟩, planned.mapping ▸ facts.number⟩

end Run

namespace Workspace

variable {w w' : Workspace} {m : Mapping}

/-- Workspaces whose mappings come about by declarations that name the mappings that they extend by their own
    handles. Everything else may happen as well, as long as it leaves the mappings. -/
inductive Grown : Workspace → Prop where
  | start {w : Workspace} (none : w.layout.mappings = []) : Grown w
  | declare {w w' : Workspace} {d : Declaration} {outcome : Except Error Handle} (before : Grown w)
      (handles : ∀ p, d.parentIn w.layout = some p → d.parent = .object p.handle)
      (done : (Run.declare d).exec w = (outcome, w')) : Grown w'
  | other {w w' : Workspace} (before : Grown w) (same : w'.layout.mappings = w.layout.mappings) : Grown w'

theorem Grown.declared {d : Declaration} (before : w.Grown) (named : d.namesParent w.layout = true) :
    ((Run.declare d).exec w).2.Grown :=
  .declare before (parent_of_named named) rfl

/-- What a mapping has once the one that it extends has it holds of all mappings. -/
theorem Grown.of_linked {P : Mapping → Prop} (grown : w.Grown)
    (keeps : ∀ {m : Mapping} {parent : Option Mapping}, Layout.Linked m parent → (∀ p, parent = some p → P p) → P m) :
    ∀ m ∈ w.layout.mappings, P m := by
  induction grown with
  | start none =>
    rw [none]
    exact List.forall_mem_nil _
  | other before same ih =>
    rw [same]
    exact ih
  | declare before handles done ih =>
    rcases Run.mappings_of_declare done with ⟨same, -⟩ | ⟨m, added, -, linked, -⟩
    · rw [same]
      exact ih
    · rw [added]
      exact List.forall_mem_append.mpr ⟨ih, List.forall_mem_singleton.mpr
        (keeps linked fun p found => ih p (mem_of_parentIn found))⟩

/-- Every mapping of a hierarchy is sound, and stores in a collection. -/
theorem Grown.sound (grown : w.Grown) :
    ∀ m ∈ w.layout.mappings, m.kind = .hierarchy → m.Sound m.schema ∧ ∃ ref, m.collection = some ref := by
  induction grown with
  | start none =>
    rw [none]
    exact List.forall_mem_nil _
  | other before same ih =>
    rw [same]
    exact ih
  | declare before handles done ih =>
    rcases Run.mappings_of_declare done with ⟨same, -⟩ | ⟨m, added, -, -, same, hierarchical, -⟩
    · rw [same]
      exact ih
    · rw [added]
      refine List.forall_mem_append.mpr ⟨ih, List.forall_mem_singleton.mpr fun hierarchy => ?_⟩
      have kind := same.symm.trans hierarchy
      obtain ⟨p, plan, rfl⟩ := hierarchical kind
      obtain ⟨described, parent, indexes, planned⟩ := Layout.plan_cases plan
      have facts := Layout.describe_cases planned.described
      refine ⟨(Layout.follows_of_plan kind planned).sound rfl fun q linked => ⟨q.schema, ?_⟩, p.ref, ?_⟩
      · -- the parent is sound by induction once it is known to be of a hierarchy
        have found := facts.parent_eq.symm.trans linked
        refine (ih q (mem_of_parentIn found) ?_).1
        have given := handles q found
        rcases facts.extends_ kind with none | ⟨id, name, named⟩
        · cases none.symm.trans given
        · have same := named.symm.trans given
          simp only [Mapping.handle, Level.handle, Value.object.injEq, Handle.mapping.injEq] at same
          exact same.1.symm
      · rw [planned.mapping]

/-- Every mapping is found under its number. -/
theorem Grown.getElem?_id (grown : w.Grown) (member : m ∈ w.layout.mappings) :
    w.layout.mappings[m.id]? = some m := by
  have numbered : ∀ (i : Nat) (x : Mapping), w.layout.mappings[i]? = some x → x.id = i := by
    clear member
    induction grown with
    | start none =>
      rw [none]
      exact fun _ _ found => nomatch found
    | other before same ih =>
      rw [same]
      exact ih
    | declare before handles done ih =>
      rcases Run.mappings_of_declare done with ⟨same, -⟩ | ⟨m, added, -, -, -, -, number⟩
      · rw [same]
        exact ih
      · rw [added]
        exact Layout.numbered_append ih number
  obtain ⟨i, found⟩ := List.getElem?_of_mem member
  rwa [numbered i m found]

end Workspace

end ModelStore
