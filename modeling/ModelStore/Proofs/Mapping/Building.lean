import ModelStore.Proofs.Mapping.Fitting
import ModelStore.Proofs.Store.Rows

/-!
Restoring instances. The document of a row is converted column by column, and leads to an instance of
the class of its mapping whose attributes hold the converted values.
-/

namespace ModelStore

variable {r row : Row} {name k : String} {fs : List MappingField}

/-- The fields of a row, each with its one value. -/
def Row.fieldValues (r : Row) : FieldValues := r.map fun e => (e.1, [e.2])

theorem Row.get?_fieldValues (r : Row) (k : String) :
    r.fieldValues.get? k = (r.get? k).map fun v => [v] := Assoc.get?_map fun v => [v]

theorem Row.first_fieldValues (r : Row) (k : String) : r.fieldValues.first k = r.column k := by
  rw [FieldValues.first, get?_fieldValues, column]
  cases r.get? k <;> rfl

theorem Row.put_toEntries (row : Row) (k : String) (v : Value) :
    Assoc.put row.toEntries (.str k) v = Row.toEntries (row.put k v) := by
  induction row with
  | nil => rfl
  | cons e row ih =>
    rw [toEntries, List.map_cons, Assoc.put, Assoc.put, Value.str_beq_str]
    by_cases same : k = e.1
    · rw [same, beq_self_eq_true]
      rfl
    · rw [beq_eq_false_iff_ne.mpr same]
      exact congrArg ((Value.str e.1, e.2) :: ·) ih

theorem Row.valueUnder?_toEntries (row : Row) (k : String) :
    valueUnder? row.toEntries k = row.get? k := by
  induction row with
  | nil => rfl
  | cons e row ih =>
    rw [toEntries, List.map_cons, valueUnder?, List.find?_cons, Assoc.get?_cons, Value.str_beq_str]
    by_cases same : k = e.1
    · rw [same, beq_self_eq_true]
      rfl
    · rw [beq_eq_false_iff_ne.mpr same, beq_eq_false_iff_ne.mpr (Ne.symm same)]
      exact ih

namespace Layout

/-- The columns of a row under the names of their attributes. -/
def attributesOf (r : Row) (fs : List MappingField) : Row :=
  fs.filterMap fun f => (r.get? f.name).map fun v => (f.ref, v)

theorem payload_fieldValues (r : Row) (fs : List MappingField) :
    payload r.fieldValues fs = (attributesOf r fs).toEntries := by
  rw [payload, attributesOf, Row.toEntries, List.map_filterMap]
  refine congrArg (List.filterMap · fs) (funext fun f => ?_)
  rw [Row.get?_fieldValues]
  cases r.get? f.name <;> rfl

theorem mem_attributesOf {e : String × Value} :
    e ∈ attributesOf r fs ↔ ∃ f ∈ fs, f.ref = e.1 ∧ r.get? f.name = some e.2 := by
  rw [attributesOf, List.mem_filterMap]
  constructor
  · rintro ⟨f, member, found⟩
    rcases Option.map_eq_some_iff.mp found with ⟨v, given, rfl⟩
    exact ⟨f, member, rfl, given⟩
  · rintro ⟨f, member, ref, given⟩
    refine ⟨f, member, ?_⟩
    rw [given, Option.map_some, ref]

theorem keys_attributesOf (distinct : (fs.map (·.ref)).Nodup) : (attributesOf r fs).keys.Nodup := by
  refine List.Sublist.nodup ?_ distinct
  induction fs with
  | nil => exact List.Sublist.slnil
  | cons f fs ih =>
    rw [List.map_cons, List.nodup_cons] at distinct
    rw [attributesOf, List.filterMap_cons]
    cases r.get? f.name with
    | none => exact (ih distinct.2).cons _
    | some v => exact (ih distinct.2).cons_cons _

theorem get?_attributesOf {f : MappingField} (distinct : (fs.map (·.ref)).Nodup) (member : f ∈ fs)
    {v : Value} (given : r.get? f.name = some v) : (attributesOf r fs).get? f.ref = some v :=
  Assoc.get?_of_mem (keys_attributesOf distinct) (mem_attributesOf.mpr ⟨f, member, rfl, given⟩)

/-- The payload has each attribute once, so that collecting it changes nothing. -/
theorem collect_payload (distinct : (fs.map (·.ref)).Nodup) :
    (payload r.fieldValues fs).foldl (fun es e => Assoc.put es e.1 e.2) [] =
      (attributesOf r fs).toEntries := by
  have collected (given row : Row) :
      given.toEntries.foldl (fun es e => Assoc.put es e.1 e.2) row.toEntries =
        Row.toEntries (given.foldl (fun row e => Assoc.put row e.1 e.2) row) := by
    induction given generalizing row with
    | nil => rfl
    | cons e given ih =>
      rw [List.foldl_cons, ← ih, ← Row.put_toEntries]
      rfl
  have apart : (attributesOf r fs).foldl (fun row e => Assoc.put row e.1 e.2) [] = attributesOf r fs := by
    rw [Assoc.foldl_put Prod.fst Prod.snd]
    · rw [List.nil_append]
      exact List.map_id' _
    · exact keys_attributesOf distinct
  rw [payload_fieldValues]
  exact (collected _ []).trans (congrArg Row.toEntries apart)

end Layout

namespace Model

variable {es : List (Value × Value)} {m : Model}

/-- Values that pass the checks unchanged are the attributes. -/
theorem entriesOf_eq {as : List Attribute} (given : Attribute → Value)
    (checked : ∀ a ∈ as, valueUnder? es a.name = some (given a) ∧ a.check (given a) = Checked.ok (given a)) :
    entriesOf es as = Checked.ok (as.map fun a => (a.name, given a)) := by
  induction as with
  | nil => rfl
  | cons a as ih =>
    rcases checked a (List.mem_cons_self ..) with ⟨found, accepted⟩
    have rest := ih fun b member => checked b (List.mem_cons_of_mem _ member)
    have here : a.entry es = Checked.ok (a.name, given a) := by
      unfold Attribute.entry
      cases a.default with
      | none =>
        simp only [required, found, accepted]
        rfl
      | some d =>
        simp only [optional, found, accepted]
        rfl
    rw [entriesOf, here, rest]
    rfl

end Model

theorem Entity.get_of_mem {m : Model} {as : List Attribute} (given : Attribute → Value)
    (distinct : (as.map (·.name)).Nodup) {a : Attribute} (member : a ∈ as) :
    (Entity.mk m (as.map fun a => (a.name, given a))).get a.name = given a := by
  have found : Assoc.get? (as.map fun a => (a.name, given a)) a.name = some (given a) := by
    refine Assoc.get?_of_mem ?_ (List.mem_map_of_mem member)
    rw [Assoc.keys, List.map_map]
    exact distinct
  rw [Entity.get, found, Option.getD_some]

namespace Layout

variable {l : Layout} {schema : Nat} {m b : Mapping} {ref : CollectionRef} {c : Collection}

theorem Sound.refs_distinct (sound : l.Sound schema) (known : m ∈ l.mappings) :
    (m.allFields.map (·.ref)).Nodup :=
  (Mapping.keysBy_cases (sound.each m known).chained.refs).2.1

/-- A converted row that has what the attributes need becomes an instance. -/
theorem Sound.build_of_resolve (sound : l.Sound schema) (known : b ∈ l.mappings) (agrees : b.Agrees)
    (resolved : l.resolve m r.fieldValues = .ok b)
    (ready : ∀ a ∈ b.model.attributes, ∀ f ∈ b.allFields, f.ref = a.name →
      ∃ v, r.get? f.name = some v ∧ a.check v = Checked.ok v) :
    ∃ x, l.build m r.fieldValues = .ok x ∧ x.model = b.model ∧
      ∀ f ∈ b.allFields, x.get f.ref = r.column f.name := by
  have distinct := sound.refs_distinct known
  have given : ∀ a ∈ b.model.attributes,
      valueUnder? (attributesOf r b.allFields).toEntries a.name =
        some (((attributesOf r b.allFields).get? a.name).getD .none) ∧
      a.check (((attributesOf r b.allFields).get? a.name).getD .none) =
        Checked.ok (((attributesOf r b.allFields).get? a.name).getD .none) := by
    intro a member
    rcases agrees.mapped a member with ⟨f, field, same⟩
    rcases ready a member f field same with ⟨v, present, accepted⟩
    have found := get?_attributesOf distinct field present
    rw [same] at found
    rw [Row.valueUnder?_toEntries, found]
    exact ⟨rfl, accepted⟩
  refine ⟨⟨b.model, b.model.attributes.map fun a =>
    (a.name, ((attributesOf r b.allFields).get? a.name).getD .none)⟩, ?_, rfl, fun f field => ?_⟩
  · have made := Model.entriesOf_eq _ given
    simp only [build, resolved, Bind.bind, Except.bind, collect_payload distinct, Model.build, made]
    rfl
  · rcases agrees.declared f field with ⟨a, member, same⟩
    rcases ready a member f field same.symm with ⟨v, present, -⟩
    rw [← same, Entity.get_of_mem _ agrees.distinct member, same, get?_attributesOf distinct field present,
      Row.column_of_get? present]
    rfl

theorem restore_document (stores : l.Stores schema ref c) (own : m.schema = schema) (row : Row) :
    l.restore m ref (row.document ref.name) =
      c.convertRow .fromStore row >>= fun r => l.build m r.fieldValues := by
  have fields := Collection.convertFields_row .fromStore (c := c) row
  simp only [restore, Row.document, Value.entryList, Value.entries?, Option.getD_some, convert, own,
    stores.schema_get, stores.get_eq, Bind.bind, Except.bind, Pure.pure, Except.pure, fields]
  cases c.convertRow .fromStore row with
  | error x => rfl
  | ok r =>
    have found : Assoc.get? [(ref.name, List.map (fun e : String × Value => (e.1, [e.2])) r)] ref.name =
        some r.fieldValues := by
      rw [Assoc.get?_cons, if_pos (beq_self_eq_true _)]
      rfl
    dsimp only [Functor.map, Except.map]
    rw [found]
    rfl

end Layout

end ModelStore
