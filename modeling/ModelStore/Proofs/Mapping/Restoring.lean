import ModelStore.Proofs.Mapping.Building
import ModelStore.Proofs.Mapping.Columns

/-!
Instances and the rows they are stored in. What is stored of an instance leads back to it, both when
generated values are written back to it and when its row is restored later.
-/

namespace ModelStore

/-- Whether a row holds the values of an instance. -/
def Mapping.Holds (m : Mapping) (x : Entity) (row : Row) : Prop :=
  ∀ f ∈ m.allFields, ∀ a ∈ m.model.attributes, f.ref = a.name →
    ∃ raw, row.get? f.name = some raw ∧ a.Keeps f.conversion (x.get f.ref) raw

/-- Whether every attribute of an instance has a value of its type, is missing where that is allowed, or
    is left to a sequence. -/
def Mapping.Conforms (m : Mapping) (x : Entity) : Prop :=
  ∀ f ∈ m.allFields, ∀ a ∈ m.model.attributes, f.ref = a.name →
    a.admits (x.get f.ref) = true ∨ f.unset x = true

/-- What creating an instance makes of it: generated values are those of the row, all others are kept. -/
structure Mapping.Refreshes (m : Mapping) (x x' : Entity) (row : Row) : Prop where
  model : x'.model = x.model
  kept : ∀ n, (∀ f ∈ m.allFields, f.ref = n → f.unset x = false) → x'.get n = x.get n
  generated : ∀ f ∈ m.allFields, f.unset x = true →
    ∃ n : Nat, x'.get f.ref = .int n ∧ row.get? f.name = some (.int n)

/-! Writing values back. -/

namespace Entity

variable {x y : Entity} {name n : String} {v : Value}

theorem assign_cases (done : x.assign name v = .ok y) :
    y = { x with attributes := x.attributes.put name v } := by
  unfold assign at done
  dsimp only at done
  split at done
  · cases done
    rfl
  · split at done
    · cases done
    · split at done
      · cases done
        rfl
      · cases done

theorem get_put : Entity.get { x with attributes := x.attributes.put name v } n =
    if n == name then v else x.get n := by
  rw [get, Assoc.get?_put]
  split <;> rfl

end Entity

namespace Mapping

variable {m : Mapping} {back : Row} {fs : List MappingField} {x x' : Entity}

/-- Values that are written back replace those that differ from them, and no others. -/
theorem refresh_cases (done : refresh back fs x = (x', .ok ())) (distinct : (fs.map (·.ref)).Nodup) :
    x'.model = x.model ∧ (∀ n, n ∉ fs.map (·.ref) → x'.get n = x.get n) ∧
      ∀ f ∈ fs, x'.get f.ref = x.get f.ref ∧
          (∀ v, back.get? f.name = some v → (x.get f.ref == v) = true) ∨
        (x.get f.ref == x'.get f.ref) = false ∧ back.get? f.name = some (x'.get f.ref) := by
  induction fs generalizing x with
  | nil =>
    cases done
    exact ⟨rfl, fun _ _ => rfl, List.forall_mem_nil _⟩
  | cons f fs ih =>
    rw [List.map_cons, List.nodup_cons] at distinct
    -- the fields after the first one do not touch its attribute
    have later : ∀ y, refresh back fs y = (x', .ok ()) → x'.get f.ref = y.get f.ref :=
      fun y rest => (ih rest distinct.2).2.1 f.ref distinct.1
    unfold refresh at done
    split at done
    · rename_i absent
      obtain ⟨model, others, fields⟩ := ih done distinct.2
      refine ⟨model, fun n outside => others n fun inside => outside (List.mem_cons_of_mem _ inside),
        List.forall_mem_cons.mpr ⟨.inl ⟨later x done, fun v given => ?_⟩, fields⟩⟩
      cases absent.symm.trans given
    · rename_i v given
      split at done
      · rename_i same
        obtain ⟨model, others, fields⟩ := ih done distinct.2
        refine ⟨model, fun n outside => others n fun inside => outside (List.mem_cons_of_mem _ inside),
          List.forall_mem_cons.mpr ⟨.inl ⟨later x done, fun w given' => ?_⟩, fields⟩⟩
        cases given.symm.trans given'
        exact same
      · rename_i other
        cases assigned : x.assign f.ref v with
        | error e =>
          rw [assigned] at done
          cases done
        | ok y =>
          rw [assigned] at done
          have put := Entity.assign_cases assigned
          subst put
          obtain ⟨model, others, fields⟩ := ih done distinct.2
          have here := later _ done
          rw [Entity.get_put, beq_self_eq_true, if_pos rfl] at here
          have apart : ∀ n, n ≠ f.ref → Entity.get { x with attributes := x.attributes.put f.ref v } n = x.get n :=
            fun n differs => by rw [Entity.get_put, if_neg (by simpa using differs)]
          refine ⟨model, fun n outside => ?_, List.forall_mem_cons.mpr ⟨.inr ⟨?_, ?_⟩, ?_⟩⟩
          · rw [List.map_cons, List.mem_cons, not_or] at outside
            rw [others n outside.2, apart n outside.1]
          · rw [here]
            exact Bool.eq_false_iff.mpr other
          · rw [here, given]
          · intro g member
            have differs : g.ref ≠ f.ref := fun same => distinct.1 (same ▸ List.mem_map_of_mem member)
            have field := fields g member
            rwa [apart g.ref differs] at field

end Mapping

namespace Layout

variable {l : Layout} {schema : Nat} {m t b : Mapping} {ref : CollectionRef} {c : Collection}
  {x x' : Entity} {row back : Row}

theorem back_of_get? {f : MappingField} {raw : Value} (stores : l.Stores schema ref c)
    (column : f ∈ l.columns ref) (converted : c.convertRow .fromStore row = .ok back)
    (given : row.get? f.name = some raw) :
    ∃ v, f.conversion.ofRaw raw = .ok v ∧ back.get? f.name = some v := by
  rcases (Collection.convertRow_cases converted).2 f.name raw given with ⟨d, v, found, restored, there⟩
  rw [stores.getField column] at found
  cases found
  exact ⟨v, restored, there⟩

/-- A value that was given is stored, and written back as it was. -/
theorem Sound.refresh_given {f : MappingField} {a : Attribute} (sound : l.Sound schema) (member : m ∈ l.family ref)
    (stores : l.Stores schema ref c) (fits : m.Fits) (conforms : m.Conforms x)
    (creates : m.Creates c x row) (converted : c.convertRow .fromStore row = .ok back)
    (done : Mapping.refresh back m.allFields x = (x', .ok ())) (field : f ∈ m.allFields)
    (given : f.unset x = false) (declared : a ∈ m.model.attributes) (same : f.ref = a.name) :
    x'.get f.ref = x.get f.ref ∧
      ∃ raw, row.get? f.name = some raw ∧ a.Keeps f.conversion (x.get f.ref) raw := by
  obtain ⟨-, -, fields⟩ := Mapping.refresh_cases done (sound.refs_distinct (mem_family.mp member).1)
  rcases creates.field f field given with ⟨raw, stored, present⟩
  have admits := (conforms f field a declared same).resolve_right (Bool.eq_false_iff.mp given)
  rcases fits.exists_keeps field declared same admits with ⟨raw', kept⟩
  cases kept.stored.symm.trans stored
  rcases back_of_get? stores (sound.field_mem_columns member field) converted present with
    ⟨v, restored, there⟩
  cases kept.restored.symm.trans restored
  refine ⟨?_, raw, present, kept⟩
  rcases fields f field with ⟨unchanged, -⟩ | ⟨-, assigned⟩
  · exact unchanged
  · exact Option.some.inj (assigned.symm.trans there)

/-- A value that was left to a sequence is generated, and written back. -/
theorem Sound.refresh_unset {f : MappingField} (sound : l.Sound schema) (member : m ∈ l.family ref)
    (stores : l.Stores schema ref c) (fits : m.Fits) (creates : m.Creates c x row)
    (converted : c.convertRow .fromStore row = .ok back)
    (done : Mapping.refresh back m.allFields x = (x', .ok ())) (field : f ∈ m.allFields)
    (left : f.unset x = true) : ∃ n : Nat, x'.get f.ref = .int n ∧ row.get? f.name = some (.int n) := by
  obtain ⟨-, -, fields⟩ := Mapping.refresh_cases done (sound.refs_distinct (mem_family.mp member).1)
  obtain ⟨sequence, missing⟩ := Bool.and_eq_true_iff.mp left
  rcases creates.generated f field left with ⟨n, present⟩
  refine ⟨n, ?_, present⟩
  rcases back_of_get? stores (sound.field_mem_columns member field) converted present with
    ⟨v, restored, there⟩
  rw [fits.converter f field, fits.sequence f field sequence] at restored
  cases restored
  rcases fields f field with ⟨-, equal⟩ | ⟨-, assigned⟩
  · -- nothing missing equals a number, so the number was written back
    have differs := equal _ there
    cases given : x.get f.ref with
    | none =>
      rw [given, Value.none_beq_int] at differs
      cases differs
    | _ =>
      rw [given] at missing
      cases missing
  · exact Option.some.inj (assigned.symm.trans there)

theorem Sound.refresh_of_creates (sound : l.Sound schema) (member : m ∈ l.family ref)
    (stores : l.Stores schema ref c) (fits : m.Fits) (conforms : m.Conforms x)
    (creates : m.Creates c x row) (converted : c.convertRow .fromStore row = .ok back)
    (done : Mapping.refresh back m.allFields x = (x', .ok ())) :
    m.Refreshes x x' row ∧ m.Holds x' row := by
  obtain ⟨model, others, -⟩ := Mapping.refresh_cases done (sound.refs_distinct (mem_family.mp member).1)
  have kept : ∀ f ∈ m.allFields, f.unset x = false → ∀ a ∈ m.model.attributes, f.ref = a.name →
      x'.get f.ref = x.get f.ref ∧
        ∃ raw, row.get? f.name = some raw ∧ a.Keeps f.conversion (x.get f.ref) raw :=
    fun f field given a declared same =>
      sound.refresh_given member stores fits conforms creates converted done field given declared same
  have unset : ∀ f ∈ m.allFields, f.unset x = true →
      ∃ n : Nat, x'.get f.ref = .int n ∧ row.get? f.name = some (.int n) :=
    fun f field left => sound.refresh_unset member stores fits creates converted done field left
  refine ⟨⟨model, fun n given => ?_, unset⟩, fun f field a declared same => ?_⟩
  · by_cases mapped : n ∈ m.allFields.map (·.ref)
    · rcases List.mem_map.mp mapped with ⟨f, field, rfl⟩
      rcases fits.declared f field with ⟨a, declared, same⟩
      exact (kept f field (given f field rfl) a declared same.symm).1
    · exact others n mapped
  · cases left : f.unset x with
    | false =>
      obtain ⟨unchanged, held⟩ := kept f field left a declared same
      rwa [unchanged]
    | true =>
      rcases unset f field left with ⟨n, number, present⟩
      have sequence := (Bool.and_eq_true_iff.mp left).1
      rcases fits.exists_keeps field declared same (fits.admits_int field declared same sequence n) with
        ⟨raw, kept⟩
      have stored := kept.stored
      rw [fits.converter f field, fits.sequence f field sequence] at stored
      cases stored
      exact ⟨_, present, by rwa [number]⟩

/-- Whether a row has the discriminator values of a mapping and, beside its fields, no more than generated
    numbers. -/
structure Tagged (l : Layout) (ref : CollectionRef) (m : Mapping) (row : Row) : Prop where
  value : ∀ k v, m.values.get? k = some v → row.get? k = some (.str v)
  other : ∀ k v, row.get? k = some v → (∀ f ∈ m.allFields, f.name ≠ k) → k ∉ m.values.keys →
    ∃ f ∈ l.columns ref, f.name = k ∧ f.sequence.isPresent = true ∧ ∃ n : Nat, v = .int n

theorem Stores.tagged_of_creates (stores : l.Stores schema ref c) (creates : m.Creates c x row) :
    l.Tagged ref m row where
  value := creates.value
  other := by
    intro k v found fields values
    rcases creates.other k v found fields values with ⟨d, inside, name, sequence, number⟩
    rw [stores.fields] at inside
    rcases List.mem_map.mp inside with ⟨f, column, rfl⟩
    exact ⟨f, column, name, sequence, number⟩

/-- Such a row leads to the mapping, from every mapping above. -/
theorem Sound.resolve_of_tagged (sound : l.Sound schema) (differ : l.SiblingsDiffer ref)
    (member : m ∈ l.family ref) (stores : l.Stores schema ref c) (target : t ∈ l.family ref)
    (below : Below l t m) (tagged : l.Tagged ref m row)
    (converted : c.convertRow .fromStore row = .ok back) : l.resolve t back.fieldValues = .ok m := by
  rcases mem_family.mp target with ⟨known, stored⟩
  refine sound.resolve_eq differ known stored below (fun k v given => ?_) (fun k open_ => ?_)
  · have present : k ∈ m.values.keys := Assoc.mem_keys_of_get? given
    rcases sound.exists_value_column member present with ⟨f, column, rfl, keeps, -⟩
    rcases back_of_get? stores column converted (tagged.value _ v given) with ⟨v', restored, there⟩
    cases (Converter.ofRaw_str keeps v).symm.trans restored
    rw [Row.first_fieldValues, Row.column_of_get? there, str_beq_self]
  · have last := m.self_mem_chain
    rcases sound.exists_discriminator_column member last open_ with ⟨f, column, rfl, -, absent⟩
    obtain ⟨fields, values⟩ := sound.discriminator_apart (mem_family.mp member).1 open_
    have missing : row.get? f.name = none := by
      cases found : row.get? f.name with
      | none => rfl
      | some v =>
        rcases tagged.other f.name v found fields values with ⟨g, column', name, present, -⟩
        rw [stores.eq_of_name column' column name, absent] at present
        cases present
    rw [Row.first_fieldValues, Row.column, Collection.get?_convertRow_eq_none converted missing]
    rfl

/-- A row that resolves to a mapping is restored as an instance of its class, with what the row holds. -/
theorem Sound.restore_eq (sound : l.Sound schema) (stores : l.Stores schema ref c)
    (target : t ∈ l.mappings) (member : b ∈ l.family ref) (agrees : b.Agrees)
    (converted : c.convertRow .fromStore row = .ok back) (resolved : l.resolve t back.fieldValues = .ok b)
    (ready : ∀ f ∈ b.allFields, ∀ a ∈ b.model.attributes, f.ref = a.name →
      ∃ raw v, row.get? f.name = some raw ∧ f.conversion.ofRaw raw = .ok v ∧ a.check v = Checked.ok v) :
    ∃ y, l.restore t ref (row.document ref.name) = .ok y ∧ y.model = b.model ∧
      ∀ f ∈ b.allFields, f.conversion.ofRaw (row.column f.name) = .ok (y.get f.ref) := by
  have known := (mem_family.mp member).1
  have there : ∀ f ∈ b.allFields, ∀ a ∈ b.model.attributes, f.ref = a.name →
      ∃ v, back.get? f.name = some v ∧ f.conversion.ofRaw (row.column f.name) = .ok v ∧
        a.check v = Checked.ok v := by
    intro f field a declared same
    rcases ready f field a declared same with ⟨raw, v, present, restored, accepted⟩
    rcases back_of_get? stores (sound.field_mem_columns member field) converted present with
      ⟨v', restored', found⟩
    cases restored.symm.trans restored'
    exact ⟨v, found, by rw [Row.column_of_get? present, restored], accepted⟩
  obtain ⟨y, built, model, values⟩ := sound.build_of_resolve known agrees resolved
    fun a declared f field same => by
      rcases there f field a declared same with ⟨v, found, -, accepted⟩
      exact ⟨v, found, accepted⟩
  refine ⟨y, ?_, model, fun f field => ?_⟩
  · rw [restore_document stores (sound.each t target).schema_eq, converted]
    exact built
  · rcases agrees.declared f field with ⟨a, declared, same⟩
    rcases there f field a declared same.symm with ⟨v, found, restored, -⟩
    rw [values f field, Row.column_of_get? found, restored]

end Layout

end ModelStore
