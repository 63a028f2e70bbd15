import ModelStore.Proofs.Mapping.Hierarchy

/-!
Declarations of which the fields are given in another order. The checks of the names are the only ones that depend
on the order; all that a declaration writes is the same but for the order of the columns.
-/

namespace ModelStore

open Declaration

namespace Declaration

variable {d : Declaration} {c : Collection} {m : Mapping} {ms : List MappingField} {schema : Nat}

def withFields (d : Declaration) (fs : List Value) : Declaration := { d with fields := .tuple fs }

theorem config_withFields {config : MappingConfig} (done : d.config = .ok config) (fs : List Value) :
    (d.withFields fs).config = .ok { config with fields := fs } := by
  rcases Outcome.of_bind done with ⟨fields, -, done⟩
  rcases Outcome.of_bind done with ⟨values, given, done⟩
  have checked := Checked.of_orInvalid done
  rw [MappingConfig.check_entries] at checked
  rcases Checked.of_seq checked with ⟨_, _, first, valued, rfl⟩
  rcases Checked.of_seq first with ⟨_, _, second, linked, rfl⟩
  rcases Checked.of_seq second with ⟨_, _, third, open_, rfl⟩
  rcases Checked.of_seq third with ⟨_, _, fourth, -, rfl⟩
  rcases Checked.of_seq fourth with ⟨_, _, fifth, named, rfl⟩
  rcases Checked.of_map fifth with ⟨_, model, rfl⟩
  have elements : (Check.elements Checked.ok (.tuple fs)).under "fields" = .ok fs :=
    congrArg (Checked.under "fields") (Checked.elements_ok 0 fs)
  have name : (d.withFields fs).givenName = d.givenName := rfl
  have items : Error.ofFault (d.withFields fs).fields.items = .ok fs := rfl
  have entries : Error.ofFault (d.withFields fs).values.entries = .ok values := given
  simp only [config, items, entries, Bind.bind, Except.bind]
  rw [MappingConfig.check_entries, name]
  dsimp only [withFields]
  rw [model, named, elements, open_, linked, valued]
  rfl

/-- The names of the columns are all that counts. -/
theorem checkColumns_of_perm {seen : List String} {fs gs : List CollectionField} (perm : gs.Perm fs)
    (checked : checkColumns c seen fs = .ok ()) : checkColumns c seen gs = .ok () := by
  obtain ⟨distinct, fresh⟩ := checkColumns_iff.mp checked
  exact checkColumns_iff.mpr
    ⟨(perm.map _).nodup_iff.mpr distinct, fun g member => fresh g (perm.mem_iff.mp member)⟩

end Declaration

namespace Mapping

variable {m : Mapping} {ms : List MappingField} {schema : Nat}

theorem allColumns_perm (perm : ms.Perm m.fields) : ({ m with fields := ms } : Mapping).allColumns.Perm m.allColumns := by
  simp only [allColumns, chain, List.flatMap_append, List.flatMap_singleton, Level.columns]
  exact (perm.append_left _).append_left _

theorem Sound.fieldByRef_of_perm {key : Value} {f : MappingField} (sound : m.Sound schema) (perm : ms.Perm m.fields)
    (found : m.fieldByRef key = .ok f) : ({ m with fields := ms } : Mapping).fieldByRef key = .ok f := by
  obtain ⟨column, named⟩ := sound.fieldByRef_cases found
  have columns := allColumns_perm perm
  exact fieldByRef_of_refs ((columns.map _).nodup_iff.mpr sound.refs) (columns.mem_iff.mpr column) named

theorem Sound.storedIndex_of_perm {c : Collection} {given : Value} {i : CollectionIndex} (sound : m.Sound schema)
    (perm : ms.Perm m.fields) (done : storedIndex m c given = .ok i) :
    storedIndex { m with fields := ms } c given = .ok i := by
  rcases Outcome.of_bind done with ⟨index, checked, done⟩
  rcases Outcome.of_bind done with ⟨names, translated, done⟩
  have again : index.fields.mapM (fun ref =>
      (·.name) <$> ({ m with fields := ms } : Mapping).fieldByRef (.str ref)) = .ok names := by
    refine Outcome.mapM_of_forall₂ ((Outcome.forall₂_of_mapM translated).imp fun ref name found => ?_)
    rcases Outcome.of_map found with ⟨f, known, rfl⟩
    rw [sound.fieldByRef_of_perm perm known]
    rfl
  rw [storedIndex, checked]
  simp only [Bind.bind, Except.bind]
  rw [again]
  exact done

end Mapping

namespace Layout

variable {l : Layout} {models : List Model} {drivers : List Driver} {d : Declaration} {m : Mapping}
  {parent : Option Mapping} {indexes fs : List Value} {ms : List MappingField} {schema : Nat}

/-- With other fields a declaration is accepted if their names are. -/
theorem describe_withFields (done : l.describe models drivers d = .ok (m, parent, indexes))
    (made : fs.mapM (augmented ((drivers[m.driver]?).getD .minimal)) = .ok ms) :
    l.describe models drivers (d.withFields fs) =
      (fun _ => ({ m with fields := ms }, parent, indexes)) <$>
        checkNames { m.toLevel with fields := ms } m.ancestors := by
  rw [describe, bind_listed] at done ⊢
  rcases Outcome.of_bind done with ⟨given, listed, done⟩
  rcases Outcome.of_bind done with ⟨driverId, driver, done⟩
  rcases Outcome.of_bind done with ⟨schemaId, schema, done⟩
  rcases Outcome.of_bind done with ⟨config, configured, done⟩
  rcases Outcome.of_bind done with ⟨fields, -, done⟩
  dsimp only at done
  cases known : models.find? fun m => m.toValue == config.model with
  | none =>
    rw [known] at done
    cases done
  | some model =>
    rw [known] at done
    rcases Outcome.of_bind done with ⟨_, same, done⟩
    cases same
    rcases Outcome.of_bind done with ⟨⟨⟩, inheritance, done⟩
    rcases Outcome.of_bind done with ⟨⟨⟩, -, done⟩
    cases done
    have listed' : (d.withFields fs).listed = .ok indexes := listed
    have driver' : driverNumber (d.withFields fs).driver = .ok driverId := driver
    have schema' : schemaNumber (d.withFields fs).schema = .ok schemaId := schema
    simp only [listed', driver', schema', config_withFields configured fs, made, known, inheritance, Bind.bind,
      Except.bind, Pure.pure, Except.pure]
    rfl

/-- A plan does not fail for the order of the fields, once they are described. -/
theorem plan_withFields {p : Plan} (done : l.plan models drivers d = .ok p)
    (described : l.describe models drivers d = .ok (m, parent, indexes))
    (again : l.describe models drivers (d.withFields fs) = .ok ({ m with fields := ms }, parent, indexes))
    (perm : ms.Perm m.fields) (sound : p.mapping.Sound schema) :
    ∃ p', l.plan models drivers (d.withFields fs) = .ok p' := by
  rcases Outcome.of_bind done with ⟨⟨m', parent', indexes'⟩, same, done⟩
  cases same.symm.trans described
  rcases Outcome.of_bind done with ⟨⟨ref, collection⟩, place, done⟩
  rcases Outcome.of_bind done with ⟨column, named, done⟩
  rcases Outcome.of_bind done with ⟨stored, translated, done⟩
  rcases Outcome.of_bind done with ⟨⟨⟩, columns, done⟩
  rcases Outcome.of_bind done with ⟨⟨⟩, fresh, done⟩
  cases done
  have place' : l.place (d.withFields fs) m.schema m.name parent = .ok (ref, collection) := place
  have translated' : indexes.mapM (storedIndex { m with fields := ms, column, collection := some ref } collection) =
      .ok stored :=
    Outcome.mapM_of_forall₂ ((Outcome.forall₂_of_mapM translated).imp fun _ _ => sound.storedIndex_of_perm perm)
  have columns' : checkColumns collection [] (Plan.columns
      ⟨{ m with fields := ms, column, collection := some ref }, ref, collection, stored⟩) = .ok () :=
    checkColumns_of_perm ((perm.append_left column.toList).map MappingField.toCollectionField) columns
  simp only [plan, again, Bind.bind, Except.bind, place', named, translated', columns', fresh]
  exact ⟨_, rfl⟩

end Layout

end ModelStore
