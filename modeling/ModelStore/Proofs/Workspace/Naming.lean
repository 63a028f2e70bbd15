import ModelStore.Proofs.Mapping.Reordering
import ModelStore.Proofs.Workspace.Calls
import ModelStore.Proofs.Workspace.Grown

/-!
The names along the chain of a mapping. The fields of different levels share neither names nor attributes, nor is an
attribute of one the name of the other. Among the fields of one level an attribute may still be the name of a field
after it, and just then there is an order of the fields in which they are not accepted.
-/

namespace ModelStore

open Declaration

namespace MappingField

variable {f g : MappingField}

/-- Fields that share nothing: neither has the name or the attribute of the other one. -/
def Apart (f g : MappingField) : Prop := f.name ≠ g.name ∧ f.ref ≠ g.ref ∧ f.name ≠ g.ref ∧ f.ref ≠ g.name

theorem apart_iff : f.Apart g ↔ Precedes f g ∧ f.ref ≠ g.name := by
  rw [Apart, Precedes, and_assoc, and_assoc]

theorem Apart.symm (apart : f.Apart g) : g.Apart f :=
  ⟨apart.1.symm, apart.2.1.symm, apart.2.2.2.symm, apart.2.2.1.symm⟩

end MappingField

namespace Declaration

variable {l : Level} {chain : List Level} {ms : List MappingField}

/-- What has to be checked again when the fields of a level are put in another order. -/
theorem checkNames_of_perm (checked : checkNames l chain = .ok ()) (perm : ms.Perm l.fields) :
    checkNames { l with fields := ms } chain = .ok () ↔ ms.Pairwise Precedes := by
  obtain ⟨discriminator, fresh, -⟩ := checkNames_iff.mp checked
  rw [checkNames_iff]
  exact ⟨fun again => again.2.2, fun ordered =>
    ⟨discriminator, fun f member => fresh f (perm.mem_iff.mp member), ordered⟩⟩

/-- Where no attribute is the name of a later field, any order of the fields will do. -/
theorem precedes_of_perm {fs : List MappingField} (ordered : ms.Pairwise Precedes)
    (free : ms.Pairwise fun f g => f.ref ≠ g.name) (perm : fs.Perm ms) : fs.Pairwise Precedes := by
  have apart : ms.Pairwise MappingField.Apart := (ordered.and free).imp MappingField.apart_iff.mpr
  exact ((perm.pairwise_iff MappingField.Apart.symm).mpr apart).imp fun apart => (MappingField.apart_iff.mp apart).1

end Declaration

/-- The fields of each level precede each other, and those of different levels are apart. -/
structure Mapping.Separated (m : Mapping) : Prop where
  within : ∀ a ∈ m.chain, a.fields.Pairwise Precedes
  between : m.chain.Pairwise fun a b => ∀ f ∈ a.fields, ∀ g ∈ b.fields, f.Apart g

namespace Mapping.Separated

variable {m : Mapping}

theorem apart_iff (separated : m.Separated) :
    m.allFields.Pairwise MappingField.Apart ↔ ∀ a ∈ m.chain, a.fields.Pairwise fun f g => f.ref ≠ g.name := by
  rw [allFields, List.pairwise_flatMap, and_iff_left separated.between]
  refine forall₂_congr fun a link => ⟨fun apart => apart.imp fun h => (MappingField.apart_iff.mp h).2, fun free => ?_⟩
  exact ((separated.within a link).and free).imp MappingField.apart_iff.mpr

end Mapping.Separated

/-- A declaration keeps the fields of a chain separated. -/
theorem Layout.Linked.separated {m : Mapping} {parent : Option Mapping} (linked : Linked m parent)
    (above : ∀ p, parent = some p → p.Separated) : m.Separated := by
  obtain ⟨-, fresh, ordered⟩ := checkNames_iff.mp linked.names
  have before : (∀ a ∈ m.ancestors, a.fields.Pairwise Precedes) ∧
      m.ancestors.Pairwise fun a b => ∀ f ∈ a.fields, ∀ g ∈ b.fields, f.Apart g := by
    rw [linked.ancestors]
    cases parent with
    | none => exact ⟨List.forall_mem_nil _, .nil⟩
    | some p => exact ⟨(above p rfl).within, (above p rfl).between⟩
  refine ⟨List.forall_mem_append.mpr ⟨before.1, List.forall_mem_singleton.mpr ordered⟩, ?_⟩
  refine List.pairwise_append.mpr ⟨before.2, List.pairwise_singleton _ _, fun a link b last f first g second => ?_⟩
  -- neither name of the new field is in use above
  rw [List.mem_singleton.mp last] at second
  have unused : ∀ n ∈ [g.name, g.ref], n ≠ f.name ∧ n ≠ f.ref := by
    intro n own
    have absent := (not_or.mp (fresh g second n own)).1
    have uses : ∀ k ∈ [f.name, f.ref], k ∈ used a := fun k named =>
      List.mem_append_right _ (List.mem_flatMap.mpr ⟨f, first, named⟩)
    refine ⟨fun same => absent ⟨a, link, uses n ?_⟩, fun same => absent ⟨a, link, uses n ?_⟩⟩ <;> simp [same]
  have name := unused g.name (List.mem_cons_self ..)
  have ref := unused g.ref (List.mem_cons_of_mem _ (List.mem_singleton_self _))
  exact ⟨name.1.symm, ref.2.symm, ref.1.symm, name.2.symm⟩

theorem Workspace.Grown.separated {w : Workspace} (grown : w.Grown) : ∀ m ∈ w.layout.mappings, m.Separated :=
  grown.of_linked Layout.Linked.separated

/-- Whether a declaration gives a mapping, in a workspace as it is. -/
def Declaration.Accepted (d : Declaration) (w : Workspace) : Prop :=
  ∃ h w', (Run.declare d).exec w = (.ok h, w')

namespace Run

variable {w w' : Workspace} {d : Declaration} {h : Handle} {m : Mapping}

theorem accepted_plain_iff (kind : d.kind = .plain) :
    d.Accepted w ↔ ∃ m parent indexes, w.layout.describe w.models w.drivers d = .ok (m, parent, indexes) := by
  constructor
  · rintro ⟨h, w', done⟩
    rw [declare, exec_bind_ok (exec_get w), kind] at done
    rcases bind_cases done with ⟨e, -, failed⟩ | ⟨⟨m, parent, indexes⟩, w₁, described, -⟩
    · cases failed
    · exact ⟨m, parent, indexes, (ofExcept_cases described).1⟩
  · rintro ⟨m, parent, indexes, described⟩
    refine ⟨m.handle, _, Prod.ext ?_ rfl⟩
    rw [declare, exec_bind_ok (exec_get w), kind, described]
    dsimp only
    rw [exec_bind_ok (exec_ofExcept _ w)]
    rfl

theorem accepted_hierarchy_iff (kind : d.kind = .hierarchy) :
    d.Accepted w ↔ ∃ p, w.layout.plan w.models w.drivers d = .ok p := by
  constructor
  · rintro ⟨h, w', done⟩
    rw [declare, exec_bind_ok (exec_get w), kind] at done
    rcases bind_cases done with ⟨e, -, failed⟩ | ⟨p, w₁, planned, -⟩
    · cases failed
    · exact ⟨p, (ofExcept_cases planned).1⟩
  · rintro ⟨p, made⟩
    obtain ⟨described, parent, indexes, planned⟩ := Layout.plan_cases made
    obtain ⟨w₁, written⟩ := carryOut_accepts planned
    refine ⟨p.mapping.handle, _, Prod.ext ?_ rfl⟩
    rw [declare, exec_bind_ok (exec_get w), kind, made]
    dsimp only
    rw [exec_bind_ok (exec_ofExcept _ w), exec_bind_ok written]
    rfl

theorem plan_of_declare (kind : d.kind = .hierarchy) (done : (declare d).exec w = (.ok h, w'))
    (added : w'.layout.mappings = w.layout.mappings ++ [m]) :
    m.kind = .hierarchy ∧ ∃ p, w.layout.plan w.models w.drivers d = .ok p ∧ m = p.mapping := by
  rcases mappings_of_declare done with ⟨-, e, failed⟩ | ⟨m', added', -, -, same, hierarchical, -⟩
  · cases failed
  · obtain rfl : m' = m := List.singleton_inj.mp (List.append_cancel_left (added'.symm.trans added))
    exact ⟨same.trans kind, hierarchical kind⟩

/-- What is added is what was described, with a place in a hierarchy. -/
theorem describe_of_declare (done : (declare d).exec w = (.ok h, w'))
    (added : w'.layout.mappings = w.layout.mappings ++ [m]) :
    ∃ column collection parent indexes,
      w.layout.describe w.models w.drivers d = .ok ({ m with column, collection }, parent, indexes) := by
  cases kind : d.kind with
  | plain =>
    rw [declare, exec_bind_ok (exec_get w), kind] at done
    rcases bind_cases done with ⟨e, -, failed⟩ | ⟨⟨m', parent, indexes⟩, w₁, described, last⟩
    · cases failed
    obtain ⟨described, rfl⟩ := ofExcept_cases described
    cases last
    obtain rfl : m' = m := List.singleton_inj.mp (List.append_cancel_left added)
    exact ⟨m'.column, m'.collection, parent, indexes, described⟩
  | hierarchy =>
    obtain ⟨-, p, made, rfl⟩ := plan_of_declare kind done added
    obtain ⟨described, parent, indexes, planned⟩ := Layout.plan_cases made
    have same : described = { p.mapping with column := described.column, collection := described.collection } := by
      rw [planned.mapping]
    exact ⟨_, _, parent, indexes, planned.described.trans (congrArg (fun m => Except.ok (m, parent, indexes)) same)⟩

theorem describe_of_accepted (accepted : d.Accepted w) :
    ∃ r, w.layout.describe w.models w.drivers d = .ok r := by
  cases kind : d.kind with
  | plain =>
    obtain ⟨m, parent, indexes, described⟩ := (accepted_plain_iff kind).mp accepted
    exact ⟨_, described⟩
  | hierarchy =>
    obtain ⟨p, made⟩ := (accepted_hierarchy_iff kind).mp accepted
    obtain ⟨described, parent, indexes, planned⟩ := Layout.plan_cases made
    exact ⟨_, planned.described⟩

/-- With its fields in another order a mapping is accepted if each of them precedes those after it. -/
theorem accepted_withFields_iff {gs : List Value} {ms : List MappingField} (grown' : w'.Grown)
    (done : (declare d).exec w = (.ok h, w')) (added : w'.layout.mappings = w.layout.mappings ++ [m])
    (made : gs.mapM (augmented ((w.drivers[m.driver]?).getD .minimal)) = .ok ms) (perm : ms.Perm m.fields) :
    (d.withFields gs).Accepted w ↔ ms.Pairwise Precedes := by
  obtain ⟨column, collection, parent, indexes, described⟩ := describe_of_declare done added
  have again := Layout.describe_withFields described made
  rw [← checkNames_of_perm (Layout.describe_cases described).names perm]
  constructor
  · intro accepted
    obtain ⟨r, describes⟩ := describe_of_accepted accepted
    obtain ⟨⟨⟩, checked, -⟩ := Outcome.of_map (again.symm.trans describes)
    exact checked
  · intro checked
    rw [checked] at again
    cases kind : d.kind with
    | plain => exact (accepted_plain_iff (d := d.withFields gs) kind).mpr ⟨_, _, _, again⟩
    | hierarchy =>
      obtain ⟨hierarchy, p, planned, rfl⟩ := plan_of_declare kind done added
      have member : p.mapping ∈ w'.layout.mappings := added ▸ List.mem_append_right _ (List.mem_singleton_self _)
      obtain ⟨sound, -⟩ := grown'.sound p.mapping member hierarchy
      exact (accepted_hierarchy_iff (d := d.withFields gs) kind).mpr
        (Layout.plan_withFields planned described again perm sound)

/-- The fields along the chain of a mapping that is accepted are separated. They are all apart just if on no level
    an attribute is the name of a later field, and the order of its own fields does not matter just if that holds of
    these. -/
theorem declared_apart (grown : w.Grown) (handles : ∀ p, d.parentIn w.layout = some p → d.parent = .object p.handle)
    (done : (declare d).exec w = (.ok h, w')) :
    ∃ m fs, w'.layout.mappings = w.layout.mappings ++ [m] ∧ m.handle = h ∧ d.fields.items = .ok fs ∧
      fs.mapM (augmented ((w.drivers[m.driver]?).getD .minimal)) = .ok m.fields ∧
      m.Separated ∧
      (m.allFields.Pairwise MappingField.Apart ↔ ∀ a ∈ m.chain, a.fields.Pairwise fun f g => f.ref ≠ g.name) ∧
      ((∀ gs : List Value, gs.Perm fs → (d.withFields gs).Accepted w) ↔
        m.fields.Pairwise fun f g => f.ref ≠ g.name) := by
  have grown' : w'.Grown := .declare grown handles done
  rcases mappings_of_declare done with ⟨-, e, failed⟩ | ⟨m, added, answered, -⟩
  · cases failed
  have member : m ∈ w'.layout.mappings := added ▸ List.mem_append_right _ (List.mem_singleton_self m)
  have separated := grown'.separated m member
  obtain ⟨column, collection, parent, indexes, described⟩ := describe_of_declare done added
  obtain ⟨fs, items, made⟩ := (Layout.describe_cases described).fields
  refine ⟨m, fs, added, answered h rfl, items, made, separated, separated.apart_iff, ?_⟩
  have ordered := separated.within m.toLevel m.self_mem_chain
  have each := Outcome.forall₂_of_mapM made
  constructor
  · intro every
    -- the reverse order is enough
    have back := Outcome.mapM_of_forall₂ (List.forall₂_reverse_iff.mpr each)
    have precedes := (accepted_withFields_iff grown' done added back (List.reverse_perm _)).mp
      (every fs.reverse (List.reverse_perm fs))
    exact (List.pairwise_reverse.mp precedes).imp fun precedes => precedes.2.2.symm
  · intro free gs perm
    obtain ⟨ms, each', perm'⟩ := List.perm_comp_forall₂ perm each
    exact (accepted_withFields_iff grown' done added (Outcome.mapM_of_forall₂ each') perm').mpr
      (precedes_of_perm ordered free perm')

end Run

/-! A garage of vehicles, some of which are trucks. -/

namespace Garage

def vehicle : Model where
  name := "Vehicle"
  lineage := ["Vehicle"]
  validated := true
  attributes := [⟨"plate", .str, false, none⟩, ⟨"code", .str, false, none⟩]
  frozen := false

def truck : Model where
  name := "Truck"
  lineage := ["Truck", "Vehicle"]
  validated := true
  attributes := vehicle.attributes ++ [⟨"load", .str, false, none⟩, ⟨"axles", .str, false, none⟩]
  frozen := false

def field (name ref : String) : Value :=
  .dict [(.str "name", .str name), (.str "ref", .str ref), (.str "type", .str "string")]

def vehicles (fields : List Value) : Declaration where
  kind := .hierarchy
  model := vehicle.toValue
  driver := .object (.driver .memory 0)
  schema := .object (.schema 0)
  fields := .tuple fields
  discriminator := .str "kind"

def trucks : Declaration where
  kind := .hierarchy
  model := truck.toValue
  driver := .object (.driver .memory 0)
  schema := .object (.schema 0)
  fields := .tuple [field "weight" "load", field "axles" "axles"]
  parent := .object (.mapping .hierarchy 0 "Vehicle")
  values := .dict [(.str "kind", .str "truck")]

def empty : Workspace :=
  { layout := { schemas := [{}] }, models := [vehicle, truck], drivers := [.ofEvaluator none] }

/-- The garage with the mapping of its vehicles. -/
def opened : Workspace :=
  Run.after [Run.declare (vehicles [field "number" "plate", field "code" "code"])] empty

theorem opened_grown : opened.Grown := .declared (d := vehicles _) (.start rfl) (by decide +kernel)

end Garage

namespace Run

theorem declared_apart_trucks : ∃ h w' m fs, (declare Garage.trucks).exec Garage.opened = (.ok h, w') ∧
    w'.layout.mappings.getLast? = some m ∧ m.allFields.map (·.ref) = ["plate", "code", "load", "axles"] ∧
    m.allFields.Pairwise MappingField.Apart ∧ Garage.trucks.fields.items = .ok fs ∧
    ∀ gs : List Value, gs.Perm fs → (Garage.trucks.withFields gs).Accepted Garage.opened := by
  have handles := parent_of_named (d := Garage.trucks) (l := Garage.opened.layout) (by decide +kernel)
  have accepted : ((declare Garage.trucks).exec Garage.opened).1.toBool = true := by decide +kernel
  have made : ((declare Garage.trucks).exec Garage.opened).2.layout.mappings.getLast?.all (fun m =>
      m.allFields.map (·.ref) == ["plate", "code", "load", "axles"] &&
        decide (∀ a ∈ m.chain, a.fields.Pairwise fun f g => f.ref ≠ g.name)) = true := by
    decide +kernel
  cases done : (declare Garage.trucks).exec Garage.opened with
  | mk outcome w' =>
    rw [done] at accepted made
    cases outcome with
    | error e => cases accepted
    | ok h =>
      obtain ⟨m, fs, added, -, items, -, -, apart, orders⟩ := declared_apart Garage.opened_grown handles done
      have last : w'.layout.mappings.getLast? = some m := by rw [added, List.getLast?_concat]
      rw [last, Option.all_some, Bool.and_eq_true, beq_iff_eq, decide_eq_true_iff] at made
      obtain ⟨refs, free⟩ := made
      exact ⟨h, w', m, fs, rfl, last, refs, apart.mpr free, items, orders.mpr (free m.toLevel m.self_mem_chain)⟩

/-- The attribute of the first field is the name of the second one; the other way round they are refused. -/
theorem not_declared_apart :
    (∃ h w' m f g, (declare (Garage.vehicles [Garage.field "number" "plate", Garage.field "plate" "code"])).exec
        Garage.empty = (.ok h, w') ∧ w'.layout.mappings = [m] ∧ m.allFields = [f, g] ∧ f.ref = g.name) ∧
      ((declare (Garage.vehicles [Garage.field "plate" "code", Garage.field "number" "plate"])).exec
        Garage.empty).1 = .error (duplicateField "plate" "Vehicle") := by
  refine ⟨?_, by cbv⟩
  have accepted : ((declare (Garage.vehicles [Garage.field "number" "plate", Garage.field "plate" "code"])).exec
      Garage.empty).1.toBool = true := by decide +kernel
  have made : ((declare (Garage.vehicles [Garage.field "number" "plate", Garage.field "plate" "code"])).exec
      Garage.empty).2.layout.mappings.map (fun m => m.allFields.map fun f => (f.name, f.ref)) =
        [[("number", "plate"), ("plate", "code")]] := by decide +kernel
  cases done : (declare (Garage.vehicles [Garage.field "number" "plate", Garage.field "plate" "code"])).exec
      Garage.empty with
  | mk outcome w' =>
    rw [done] at accepted made
    cases outcome with
    | error e => cases accepted
    | ok h =>
      obtain ⟨m, only, named⟩ := List.map_eq_singleton_iff.mp made
      obtain ⟨f, fs, fields, first, rest⟩ := List.map_eq_cons_iff.mp named
      obtain ⟨g, rfl, second⟩ := List.map_eq_singleton_iff.mp rest
      exact ⟨h, w', m, f, g, rfl, only, fields, (congrArg Prod.snd first).trans (congrArg Prod.fst second).symm⟩

end Run

end ModelStore
