import ModelStore.Driver
import ModelStore.Proofs.Schema.Phases
import ModelStore.Proofs.Store.Writes

/-!
Requests to provision a store. Whether one is granted depends only on the fields of the collections once these are
known; it changes nothing that is stored, and what is provided stays provided.
-/

namespace ModelStore

/-! Entries of registers, that is by owner and name. -/

namespace Assoc

variable {α β : Type} {m : Assoc String α} {r : Assoc String (Assoc String β)} {k j : String} {v : α}
  {owner name owner' name' : String} {b : β}

theorem put_of_get? (present : get? m k = some v) : put m k v = m := by
  induction m with
  | nil => cases present
  | cons e m ih =>
    rw [get?_cons] at present
    unfold put
    split at present
    · rename_i here
      cases present
      rw [if_pos here]
    · rename_i later
      rw [if_neg later, ih present]

theorem get?_ensure : get? (ensure m k v) j = if j == k then some ((get? m k).getD v) else get? m j := by
  unfold ensure
  by_cases present : has m k = true
  · rw [if_pos present]
    obtain ⟨w, found⟩ := Option.isSome_iff_exists.mp (has_eq_isSome.symm.trans present)
    by_cases here : j = k
    · subst here
      rw [if_pos (beq_self_eq_true j), found, Option.getD_some]
    · rw [if_neg (by simpa using here)]
  · have absent : get? m k = none := by
      rw [has_eq_isSome] at present
      simpa using present
    rw [if_neg present]
    unfold get? at absent ⊢
    rw [List.lookup_append, absent, Option.getD_none]
    by_cases here : j = k
    · subst here
      simp [absent]
    · have other : (j == k) = false := beq_eq_false_iff_ne.mpr here
      simp [List.lookup, other]

theorem has_ensure_self : has (ensure m k v) k = true := by
  rw [has_eq_isSome, get?_ensure, if_pos (beq_self_eq_true k)]
  rfl

theorem has_ensure (present : has m j = true) : has (ensure m k v) j = true := by
  rw [has_eq_isSome] at present
  rw [has_eq_isSome, get?_ensure]
  split
  · rfl
  · exact present

/-- Enters a value in the part of its owner, in place of one of its name. -/
def enter (r : Assoc String (Assoc String β)) (owner name : String) (b : β) : Assoc String (Assoc String β) :=
  put r owner (put ((get? r owner).getD []) name b)

def nested? (r : Assoc String (Assoc String β)) (owner name : String) : Option β :=
  (get? r owner).bind fun part => get? part name

theorem nested?_enter : nested? (enter r owner name b) owner' name' =
    if owner' = owner ∧ name' = name then some b else nested? r owner' name' := by
  rw [nested?, enter, get?_put]
  by_cases same : owner' = owner
  · subst same
    rw [if_pos (beq_self_eq_true owner'), Option.bind_some, get?_put]
    by_cases here : name' = name
    · rw [if_pos (by simpa using here), if_pos ⟨rfl, here⟩]
    · rw [if_neg (by simpa using here), if_neg fun both => here both.2, nested?]
      cases get? r owner' <;> rfl
  · rw [if_neg (by simpa using same), if_neg fun both => same both.1, nested?]

theorem nested?_ensure : nested? (ensure r owner []) owner' name' = nested? r owner' name' := by
  rw [nested?, nested?, get?_ensure]
  split
  · rename_i same
    rw [beq_iff_eq.mp same, Option.bind_some]
    cases get? r owner <;> rfl
  · rfl

theorem has_enter (present : has r owner' = true) : has (enter r owner name b) owner' = true := by
  rw [has_eq_isSome] at present
  rw [has_eq_isSome, enter, get?_put]
  split
  · rfl
  · exact present

theorem enter_of_nested? (present : nested? r owner name = some b) : enter r owner name b = r := by
  obtain ⟨part, own, found⟩ := Option.bind_eq_some_iff.mp present
  rw [enter, own, Option.getD_some, put_of_get? found, put_of_get? own]

end Assoc

/-! Collections. -/

namespace Collection

variable {c : Collection}

/-- The error for a name that no field has. -/
def noField (c : Collection) (name : String) : Error :=
  .missing .field (.str name) (some c.name) c.fieldNames

theorem discard_getField (c : Collection) (name : String) :
    discard (c.getField (.str name)) = if c.hasField name then .ok () else .error (c.noField name) := by
  have known : c.hasField name = (c.fields.find? (·.name == name)).isSome := by
    rw [Bool.eq_iff_iff, hasField, List.any_eq_true, List.find?_isSome]
  rw [known, getField, lookup]
  simp only [Value.unhashable?, Value.text?, Option.bind_some]
  cases c.fields.find? (·.name == name) <;> rfl

theorem forM_discard_getField (c : Collection) (names : List String) :
    (names.forM fun name => discard (c.getField (.str name))) =
      match names.find? fun name => !c.hasField name with
      | some name => .error (c.noField name)
      | none => .ok () := by
  induction names with
  | nil => rfl
  | cons name names ih =>
    rw [List.forM_eq_forM, List.forM_cons, List.find?_cons, discard_getField]
    cases c.hasField name with
    | false => rfl
    | true => exact ih

end Collection

namespace Request

/-- What keeps a request from being granted once its collections are known: the first field that is missing. -/
def fault? (cs : Catalog) : Request → Option Error
  | .collection _ => none
  | .index c i => (i.fields.find? fun name => !(cs.get c).hasField name).map (cs.get c).noField
  | .foreignKey c k =>
    if !(cs.get c).hasField k.field then some ((cs.get c).noField k.field)
    else if !(cs.get k.target.collection).hasField k.target.field then
      some ((cs.get k.target.collection).noField k.target.field)
    else none

def answer (cs : Catalog) (r : Request) : Except Error Unit :=
  match r.fault? cs with
  | some e => .error e
  | none => .ok ()

/-- Where a store keeps what is requested. -/
def place : Request → Phase × String × String
  | .collection c => (.collections, c.name, "")
  | .index c i => (.indexes, c.name, i.name.getD "")
  | .foreignKey c k => (.foreignKeys, c.name, k.name.getD "")

theorem fst_place (r : Request) : r.place.1 = r.phase := by cases r <;> rfl

end Request

namespace Store

variable {s s' : Store} {cs : Catalog} {r r' : Request} {rs : List Request}

/-- The store after a request was granted. -/
def granted (s : Store) : Request → Store
  | .collection c => s.ensureCollection c
  | .index c i => { s with indexes := s.indexes.enter c.name (i.name.getD "") i }
  | .foreignKey c k => { s with foreignKeys := s.foreignKeys.enter c.name (k.name.getD "") k }

/-- The store after requests of which those without a fault were granted. -/
def provided (cs : Catalog) (s : Store) (rs : List Request) : Store :=
  rs.foldl (fun s r => if (r.fault? cs).isNone then s.granted r else s) s

/-- Whether the collections of a request are known, and what is requested of them has a name. -/
def Ready (s : Store) : Request → Prop
  | .collection _ => True
  | .index c i => s.shapes.get? c.name = some c ∧ i.name.isSome = true
  | .foreignKey c k => s.shapes.get? c.name = some c ∧
      s.shapes.get? k.target.collection.name = some k.target.collection ∧ k.name.isSome = true

/-- Whether there is what a request asks for. -/
def Has (s : Store) : Request → Prop
  | .collection c => s.shapes.get? c.name = some c ∧ s.indexes.has c.name = true ∧
      s.foreignKeys.has c.name = true ∧ s.committed.has c.name = true ∧ s.working.has c.name = true
  | .index c i => s.indexes.nested? c.name (i.name.getD "") = some i
  | .foreignKey c k => s.foreignKeys.nested? c.name (k.name.getD "") = some k

/-- Whether the rows of all collections and the counters are the same. -/
structure SameData (s s' : Store) : Prop where
  working : ∀ name, rowsOf s'.working name = rowsOf s.working name
  committed : ∀ name, rowsOf s'.committed name = rowsOf s.committed name
  sequences : s'.sequences = s.sequences
  label : s'.label = s.label
  commits : s'.commits = s.commits
  rollbacks : s'.rollbacks = s.rollbacks
  closed : s'.closed = s.closed

theorem SameData.refl (s : Store) : SameData s s := ⟨fun _ => rfl, fun _ => rfl, rfl, rfl, rfl, rfl, rfl⟩

theorem SameData.trans {s'' : Store} (first : SameData s s') (second : SameData s' s'') : SameData s s'' :=
  ⟨fun name => (second.working name).trans (first.working name),
    fun name => (second.committed name).trans (first.committed name), second.sequences.trans first.sequences,
    second.label.trans first.label, second.commits.trans first.commits, second.rollbacks.trans first.rollbacks,
    second.closed.trans first.closed⟩

/-- A request is refused for its fault and otherwise granted. -/
theorem provision_eq (cs : Catalog) (ready : s.Ready r) : Driver.provision s cs r =
    match r.fault? cs with
    | some e => .error e
    | none => .ok (s.granted r) := by
  cases r with
  | collection c => rfl
  | index c i =>
    obtain ⟨known, named⟩ := ready
    obtain ⟨name, named⟩ := Option.isSome_iff_exists.mp named
    simp only [Driver.provision, ensureIndex, shape_of_get? known, Bind.bind, Except.bind,
      Collection.forM_discard_getField, Request.fault?, named]
    cases i.fields.find? fun name => !(cs.get c).hasField name with
    | some missing => rfl
    | none => simp only [Option.map_none, granted, named, Option.getD_some]; rfl
  | foreignKey c k =>
    obtain ⟨known, target, named⟩ := ready
    obtain ⟨name, named⟩ := Option.isSome_iff_exists.mp named
    simp only [Driver.provision, ensureForeignKey, shape_of_get? known, shape_of_get? target, Bind.bind,
      Except.bind, Collection.discard_getField, Request.fault?, named]
    cases (cs.get c).hasField k.field with
    | false => rfl
    | true =>
      cases (cs.get k.target.collection).hasField k.target.field with
      | false => rfl
      | true => simp only [granted, named, Option.getD_some]; rfl

theorem rowsOf_ensure (tables : Tables) (name other : String) :
    rowsOf (tables.ensure name []) other = rowsOf tables other := by
  rw [rowsOf, rowsOf, Assoc.get?_ensure]
  split
  · rename_i same
    rw [beq_iff_eq.mp same, Option.getD_some]
  · rfl

theorem sameData_granted (s : Store) (r : Request) : SameData s (s.granted r) := by
  cases r with
  | collection c => exact ⟨rowsOf_ensure _ _, rowsOf_ensure _ _, rfl, rfl, rfl, rfl, rfl⟩
  | index c i | foreignKey c k => exact ⟨fun _ => rfl, fun _ => rfl, rfl, rfl, rfl, rfl, rfl⟩

theorem Ready.granted (ready : s.Ready r) (later : r'.phase ≠ .collections) : (s.granted r').Ready r := by
  cases r' with
  | collection c => exact (later rfl).elim
  | index c i | foreignKey c k => exact ready

theorem has_granted (s : Store) (r : Request) : (s.granted r).Has r := by
  cases r with
  | collection c =>
    exact ⟨Assoc.get?_put_self, Assoc.has_ensure_self, Assoc.has_ensure_self, Assoc.has_ensure_self,
      Assoc.has_ensure_self⟩
  | index c i | foreignKey c k => exact Assoc.nested?_enter.trans (if_pos ⟨rfl, rfl⟩)

/-- What is there stays there when something else is granted. -/
theorem Has.granted (has : s.Has r) (apart : r'.place ≠ r.place) : (s.granted r').Has r := by
  cases r with
  | collection c =>
    obtain ⟨known, indexes, foreignKeys, committed, working⟩ := has
    cases r' with
    | collection c' =>
      have other : c.name ≠ c'.name := fun same => apart (by rw [Request.place, Request.place, same])
      exact ⟨(Assoc.get?_put_ne other).trans known, Assoc.has_ensure indexes, Assoc.has_ensure foreignKeys,
        Assoc.has_ensure committed, Assoc.has_ensure working⟩
    | index c' i => exact ⟨known, Assoc.has_enter indexes, foreignKeys, committed, working⟩
    | foreignKey c' k => exact ⟨known, indexes, Assoc.has_enter foreignKeys, committed, working⟩
  | index c i =>
    cases r' with
    | collection c' => exact Assoc.nested?_ensure.trans has
    | index c' i' =>
      refine Assoc.nested?_enter.trans ((if_neg fun same => apart ?_).trans has)
      rw [Request.place, Request.place, same.1, same.2]
    | foreignKey c' k => exact has
  | foreignKey c k =>
    cases r' with
    | collection c' => exact Assoc.nested?_ensure.trans has
    | index c' i => exact has
    | foreignKey c' k' =>
      refine Assoc.nested?_enter.trans ((if_neg fun same => apart ?_).trans has)
      rw [Request.place, Request.place, same.1, same.2]

/-- A request for what is there changes nothing. -/
theorem granted_of_has (has : s.Has r) : s.granted r = s := by
  cases r with
  | collection c =>
    obtain ⟨known, indexes, foreignKeys, committed, working⟩ := has
    rw [granted, ensureCollection, Assoc.put_of_get? known, Assoc.ensure, if_pos indexes, Assoc.ensure,
      if_pos foreignKeys, Assoc.ensure, if_pos committed, Assoc.ensure, if_pos working]
  | index c i => rw [granted, Assoc.enter_of_nested? has]
  | foreignKey c k => rw [granted, Assoc.enter_of_nested? has]

theorem provided_cons (cs : Catalog) (s : Store) (r : Request) (rs : List Request) :
    s.provided cs (r :: rs) = Store.provided cs (if (r.fault? cs).isNone then s.granted r else s) rs := rfl

theorem provided_append (cs : Catalog) (s : Store) (rs rs' : List Request) :
    s.provided cs (rs ++ rs') = (s.provided cs rs).provided cs rs' := List.foldl_append

theorem sameData_provided (cs : Catalog) (s : Store) (rs : List Request) : SameData s (s.provided cs rs) := by
  induction rs generalizing s with
  | nil => exact .refl s
  | cons r rs ih =>
    rw [provided_cons]
    split
    · exact (sameData_granted s r).trans (ih _)
    · exact ih s

theorem Has.provided (has : s.Has r) (apart : r.place ∉ rs.map Request.place) : (s.provided cs rs).Has r := by
  induction rs generalizing s with
  | nil => exact has
  | cons r' rs ih =>
    rw [List.map_cons, List.mem_cons, not_or] at apart
    rw [provided_cons]
    split
    · exact ih (has.granted (Ne.symm apart.1)) apart.2
    · exact ih has apart.2

/-- All that is granted, each at its own place, is there in the end. -/
theorem has_provided (distinct : (rs.map Request.place).Nodup) (s : Store) (member : r ∈ rs)
    (fine : r.fault? cs = none) : (s.provided cs rs).Has r := by
  induction rs generalizing s with
  | nil => cases member
  | cons r' rs ih =>
    rw [List.map_cons, List.nodup_cons] at distinct
    rw [provided_cons]
    rcases List.mem_cons.mp member with rfl | later
    · rw [fine, Option.isNone_none, if_pos rfl]
      exact (has_granted s r).provided distinct.1
    · exact ih distinct.2 _ later

theorem provided_of_has (all : ∀ r ∈ rs, s.Has r) : s.provided cs rs = s := by
  induction rs with
  | nil => rfl
  | cons r rs ih =>
    rw [provided_cons, granted_of_has (all r (List.mem_cons_self ..)), ite_self]
    exact ih fun r' member => all r' (List.mem_cons_of_mem _ member)

theorem Ready.provided (ready : s.Ready r) (later : ∀ r' ∈ rs, r'.phase ≠ .collections) :
    (s.provided cs rs).Ready r := by
  induction rs generalizing s with
  | nil => exact ready
  | cons r' rs ih =>
    rw [List.forall_mem_cons] at later
    rw [provided_cons]
    split
    · exact ih (ready.granted later.1) later.2
    · exact ih ready later.2

end Store

end ModelStore
