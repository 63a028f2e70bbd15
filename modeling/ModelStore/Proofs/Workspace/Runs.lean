import ModelStore.Proofs.Store.Writes
import ModelStore.Workspace.Mapped

/-!
Operations on a workspace step by step: what each of them answers, and what it makes of the workspace.
Creating an instance is taken apart here once and for all of its outcomes.
-/

namespace ModelStore

/-- A driver compares alike whatever it stores. -/
theorem Workspace.evaluatorOf_memory (w : Workspace) (s s' : Store) (evaluator : Option Nat) :
    w.evaluatorOf (.memory s evaluator) = w.evaluatorOf (.memory s' evaluator) := by
  cases evaluator <;> rfl

namespace Run

variable {α β : Type} {w w' : Workspace} {a : Run α} {f : α → Run β}

/-- The outcome of an operation, and the workspace after it. -/
def exec (a : Run α) (w : Workspace) : Except Error α × Workspace := StateT.run (ExceptT.run a) w

theorem exec_bind (a : Run α) (f : α → Run β) (w : Workspace) :
    (a >>= f).exec w = match a.exec w with
      | (.ok x, w') => (f x).exec w'
      | (.error e, w') => (.error e, w') := by
  unfold exec ExceptT.run StateT.run
  simp only [Bind.bind, ExceptT.bind, ExceptT.mk, StateT.bind, ExceptT.bindCont]
  cases a w with
  | mk outcome w' => cases outcome <;> rfl

theorem exec_pure (x : α) (w : Workspace) : exec (pure x : Run α) w = (.ok x, w) := rfl

theorem exec_ok {a : Run Unit} (done : (a.exec w).1.toBool = true) : a.exec w = (.ok (), (a.exec w).2) := by
  generalize a.exec w = r at done
  obtain ⟨outcome, w'⟩ := r
  cases outcome with
  | error e => cases done
  | ok _ => rfl

theorem exec_get (w : Workspace) : exec (get : Run Workspace) w = (.ok w, w) := rfl

theorem exec_modify (g : Workspace → Workspace) (w : Workspace) :
    exec (modify g : Run Unit) w = (.ok (), g w) := rfl

theorem exec_ofExcept (x : Except Error α) (w : Workspace) : (ofExcept x).exec w = (x, w) := by
  cases x <;> rfl

theorem exec_map (g : α → β) (a : Run α) (w : Workspace) :
    exec (g <$> a) w = match a.exec w with
      | (.ok x, w') => (.ok (g x), w')
      | (.error e, w') => (.error e, w') := by
  unfold exec ExceptT.run StateT.run
  simp only [Functor.map, ExceptT.map, ExceptT.mk, Bind.bind, StateT.bind]
  cases a w with
  | mk outcome w' => cases outcome <;> rfl

theorem exec_note (e : Event) (w : Workspace) :
    (note e).exec w = (.ok (), { w with journal := w.journal ++ [e] }) := rfl

theorem exec_found_some {x : Option α} {y : α} (given : x = some y) (w : Workspace) :
    (found x).exec w = (.ok y, w) := by
  subst given
  rfl

theorem exec_bind_ok {x : α} (first : a.exec w = (.ok x, w')) : (a >>= f).exec w = (f x).exec w' := by
  rw [exec_bind, first]

theorem exec_bind_error {e : Error} (first : a.exec w = (.error e, w')) :
    (a >>= f).exec w = (.error e, w') := by
  rw [exec_bind, first]

theorem exec_attempt (a : Run α) (w : Workspace) :
    (attempt a).exec w = (.ok (a.exec w).1, (a.exec w).2) := by
  change StateT.run (ExceptT.run (tryCatch (Except.ok <$> a) fun e => pure (.error e))) w = _
  simp only [tryCatch, tryCatchThe, MonadExceptOf.tryCatch, ExceptT.tryCatch, ExceptT.mk, ExceptT.run,
    StateT.run, Bind.bind, StateT.bind, exec]
  simp only [Functor.map, ExceptT.map, ExceptT.mk, Bind.bind, StateT.bind]
  cases a w with
  | mk outcome w' => cases outcome <;> rfl

/-- A run fails at its first step, or goes on after it. -/
theorem bind_cases {outcome : Except Error β} (done : (a >>= f).exec w = (outcome, w')) :
    (∃ e, a.exec w = (.error e, w') ∧ outcome = .error e) ∨
      ∃ x w₁, a.exec w = (.ok x, w₁) ∧ (f x).exec w₁ = (outcome, w') := by
  rw [exec_bind] at done
  cases first : a.exec w with
  | mk result w₁ =>
    rw [first] at done
    cases result with
    | error e =>
      cases done
      exact .inl ⟨e, rfl, rfl⟩
    | ok x => exact .inr ⟨x, w₁, rfl, done⟩

theorem ofExcept_cases {x : Except Error α} {outcome : Except Error α}
    (done : (ofExcept x).exec w = (outcome, w')) : x = outcome ∧ w' = w := by
  rw [exec_ofExcept] at done
  cases done
  exact ⟨rfl, rfl⟩

theorem found_error {x : Option α} {e : Error} (failed : (found x).exec w = (.error e, w')) : w' = w := by
  cases x with
  | none =>
    cases failed
    rfl
  | some y => cases failed

theorem found_cases {x : Option α} {y : α} (done : (found x).exec w = (.ok y, w')) :
    x = some y ∧ w' = w := by
  cases x with
  | none => cases done
  | some z =>
    cases done
    exact ⟨rfl, rfl⟩

/-! Objects of the workspace. -/

theorem exec_driver {id : Nat} {d : Driver} (known : w.drivers[id]? = some d) :
    (driver id).exec w = (.ok d, w) := by
  rw [driver, exec_bind_ok (exec_get w)]
  exact exec_found_some known w

theorem exec_entity {id : Nat} {x : Entity} (known : w.entities[id]? = some x) :
    (entity id).exec w = (.ok x, w) := by
  rw [entity, exec_bind_ok (exec_get w)]
  exact exec_found_some known w

theorem exec_instanceOf {m : Mapping} {id : Nat} {name : String} {x : Entity}
    (known : w.entities[id]? = some x) :
    (instanceOf m (.object (.entity id name))).exec w = (.ok (id, x), w) := by
  simp only [instanceOf]
  rw [exec_bind_ok (exec_entity known), exec_pure]

theorem exec_createDocument {id : Nat} {d : Driver} (known : w.drivers[id]? = some d)
    (collection : Value) (data : List (Value × Value)) :
    (createDocument id collection data).exec w =
      ((d.create w.layout.collections collection data).1,
        { w with drivers := w.drivers.set id (d.create w.layout.collections collection data).2 }) := by
  rw [createDocument, exec_bind_ok (exec_driver known), exec_bind_ok (exec_get w)]
  exact exec_ofExcept _ _

/-- What creating an instance comes to: nothing, or a write of its row; and if all goes well, the
    instance has the stored values. -/
theorem createEntity_cases {m : Mapping} {id : Nat} {name : String} {x : Entity} {d : Driver}
    {outcome : Except Error Unit} (hierarchy : m.isHierarchy = true) (known : w.entities[id]? = some x)
    (driven : w.drivers[m.driver]? = some d)
    (done : (createEntity m (.object (.entity id name))).exec w = (outcome, w')) :
    (w' = w ∧ ∃ e, outcome = .error e) ∨
      ∃ own ref row answer d' entities journal, w.layout.mappingFor m x = .ok own ∧
        m.collection = some ref ∧
        own.rowOf w.layout (w.layout.collections.get ref).name x true = .ok row ∧
        d.create w.layout.collections (.str (w.layout.collections.get ref).name) row.toEntries =
          (answer, d') ∧
        w' = { w with drivers := w.drivers.set m.driver d', entities, journal } ∧
        (outcome = .ok () → ∃ document stored x', answer = .ok document ∧
          w.layout.convertRow m.schema .fromStore (w.layout.collections.get ref).name
            (Row.ofEntries document.entryList) = .ok stored ∧
          Mapping.refresh stored own.allFields x = (x', .ok ()) ∧ entities = w.entities.set id x') := by
  unfold createEntity at done
  simp only [hierarchy, Bool.not_true, Bool.false_eq_true, if_false] at done
  rw [exec_bind_ok (exec_instanceOf known), exec_bind_ok (exec_get w)] at done
  rcases bind_cases done with ⟨e, failed, rfl⟩ | ⟨own, w₁, mapped, done⟩
  · obtain ⟨-, rfl⟩ := ofExcept_cases failed
    exact .inl ⟨rfl, e, rfl⟩
  obtain ⟨mapped, rfl⟩ := ofExcept_cases mapped
  rcases bind_cases done with ⟨e, failed, rfl⟩ | ⟨ref, w₁, stored, done⟩
  · exact .inl ⟨found_error failed, e, rfl⟩
  obtain ⟨collected, rfl⟩ := found_cases stored
  rcases bind_cases done with ⟨e, failed, rfl⟩ | ⟨row, w₁, written, done⟩
  · obtain ⟨-, rfl⟩ := ofExcept_cases failed
    exact .inl ⟨rfl, e, rfl⟩
  obtain ⟨written, rfl⟩ := ofExcept_cases written
  -- from here on the store may have changed, so an error no longer means the workspace before
  refine .inr ⟨own, ref, row, ?_⟩
  have created := exec_createDocument driven (.str (w₁.layout.collections.get ref).name) row.toEntries
  generalize d.create w₁.layout.collections (.str (w₁.layout.collections.get ref).name) row.toEntries = made at *
  obtain ⟨answer, d'⟩ := made
  cases answer with
  | error e =>
    rw [exec_bind_error created] at done
    cases done
    exact ⟨_, _, _, _, mapped, collected, written, rfl, rfl, fun none => nomatch none⟩
  | ok document =>
    rw [exec_bind_ok created] at done
    rcases bind_cases done with ⟨e, failed, rfl⟩ | ⟨back, w₂, converted, done⟩
    · obtain ⟨-, rfl⟩ := ofExcept_cases failed
      exact ⟨_, _, _, _, mapped, collected, written, rfl, rfl, fun none => nomatch none⟩
    obtain ⟨restored, rfl⟩ := ofExcept_cases converted
    generalize refreshed : Mapping.refresh back own.allFields x = result at done
    obtain ⟨x', last⟩ := result
    rw [setEntity, exec_bind_ok (exec_modify _ _)] at done
    cases last with
    | error e =>
      rw [exec_bind_error (exec_ofExcept _ _)] at done
      cases done
      exact ⟨_, _, _, _, mapped, collected, written, rfl, rfl, fun none => nomatch none⟩
    | ok _ =>
      rw [exec_bind_ok (exec_ofExcept _ _), exec_note] at done
      cases done
      exact ⟨_, _, _, _, mapped, collected, written, rfl, rfl,
        fun _ => ⟨document, back, x', rfl, restored, refreshed, rfl⟩⟩

/-! Writing over instances, removing them, and transactions. -/

theorem update_cases {id : Nat} {g : Catalog → Driver → Except Error Driver} {d : Driver}
    {outcome : Except Error Unit} (driven : w.drivers[id]? = some d)
    (done : (update id g).exec w = (outcome, w')) :
    (w' = w ∧ ∃ e, outcome = .error e) ∨
      ∃ d', g w.layout.collections d = .ok d' ∧ w' = { w with drivers := w.drivers.set id d' } := by
  rw [update, exec_bind_ok (exec_get w), exec_bind_ok (exec_driver driven)] at done
  rcases bind_cases done with ⟨e, failed, same⟩ | ⟨d', w₁, made, last⟩
  · exact .inl ⟨(ofExcept_cases failed).2, e, same⟩
  · obtain ⟨answered, rfl⟩ := ofExcept_cases made
    exact .inr ⟨d', answered, (congrArg Prod.snd last).symm⟩

theorem instanceOf_cases {m : Mapping} {v : Value} {outcome : Except Error (Nat × Entity)}
    (done : (instanceOf m v).exec w = (outcome, w')) : w' = w := by
  unfold instanceOf at done
  split at done
  · rcases bind_cases done with ⟨e, failed, -⟩ | ⟨x, w₁, found, last⟩
    · rw [entity, exec_bind_ok (exec_get w)] at failed
      exact found_error failed
    · rw [entity, exec_bind_ok (exec_get w)] at found
      obtain ⟨-, rfl⟩ := found_cases found
      exact (congrArg Prod.snd last).symm
  · exact (congrArg Prod.snd done).symm

theorem instanceOf_ok {m : Mapping} {v : Value} {id : Nat} {x : Entity}
    (done : (instanceOf m v).exec w = (.ok (id, x), w')) :
    ∃ name, v = .object (.entity id name) ∧ w.entities[id]? = some x := by
  unfold instanceOf at done
  split at done
  · rename_i id' name
    rcases bind_cases done with ⟨e, -, failed⟩ | ⟨y, w₁, found, last⟩
    · cases failed
    · rw [entity, exec_bind_ok (exec_get w)] at found
      cases last
      exact ⟨name, rfl, (found_cases found).1⟩
  · cases done

/-- Only instances are created. -/
theorem createEntity_given {m : Mapping} {v : Value} {outcome : Except Error Unit}
    (hierarchy : m.isHierarchy = true) (done : (createEntity m v).exec w = (outcome, w')) :
    (w' = w ∧ ∃ e, outcome = .error e) ∨ ∃ id name x, v = .object (.entity id name) ∧ w.entities[id]? = some x := by
  unfold createEntity at done
  simp only [hierarchy, Bool.not_true, Bool.false_eq_true, if_false] at done
  rcases bind_cases done with ⟨e, failed, same⟩ | ⟨⟨id, x⟩, w₁, found, -⟩
  · exact .inl ⟨instanceOf_cases failed, e, same⟩
  · obtain ⟨name, instance_, given⟩ := instanceOf_ok found
    exact .inr ⟨id, name, x, instance_, given⟩

theorem createEntity_value {m : Mapping} {v : Value} {outcome : Except Error Unit}
    (hierarchy : m.isHierarchy = true) (done : (createEntity m v).exec w = (outcome, w')) :
    w' = w ∨ ∃ id name x, v = .object (.entity id name) ∧ w.entities[id]? = some x :=
  (createEntity_given hierarchy done).imp_left And.left

/-- The row of an instance and its key are those of its own mapping. -/
theorem keyed_cases {m : Mapping} {v : Value} {outcome : Except Error (Collection × Row × Row)}
    (done : (keyed m v).exec w = (outcome, w')) :
    w' = w ∧ ∀ c row key, outcome = .ok (c, row, key) → ∃ id x own ref,
      (instanceOf m v).exec w = (.ok (id, x), w) ∧ w.layout.mappingFor m x = .ok own ∧
        m.collection = some ref ∧ c = w.layout.collections.get ref ∧
        own.rowOf w.layout c.name x false = .ok row ∧ own.keyOf row = .ok key := by
  unfold keyed at done
  rcases bind_cases done with ⟨e, failed, rfl⟩ | ⟨⟨id, x⟩, w₁, given, done⟩
  · exact ⟨instanceOf_cases failed, fun _ _ _ none => nomatch none⟩
  cases instanceOf_cases given
  rw [exec_bind_ok (exec_get w)] at done
  rcases bind_cases done with ⟨e, failed, rfl⟩ | ⟨own, w₁, first, done⟩
  · exact ⟨(ofExcept_cases failed).2, fun _ _ _ none => nomatch none⟩
  obtain ⟨mapped, rfl⟩ := ofExcept_cases first
  rcases bind_cases done with ⟨e, failed, rfl⟩ | ⟨ref, w₂, second, done⟩
  · exact ⟨found_error failed, fun _ _ _ none => nomatch none⟩
  obtain ⟨stored, rfl⟩ := found_cases second
  rcases bind_cases done with ⟨e, failed, rfl⟩ | ⟨row, w₃, third, done⟩
  · exact ⟨(ofExcept_cases failed).2, fun _ _ _ none => nomatch none⟩
  obtain ⟨written, rfl⟩ := ofExcept_cases third
  rcases bind_cases done with ⟨e, failed, rfl⟩ | ⟨key, w₄, last, done⟩
  · exact ⟨(ofExcept_cases failed).2, fun _ _ _ none => nomatch none⟩
  obtain ⟨keyed, rfl⟩ := ofExcept_cases last
  refine ⟨(congrArg Prod.snd done).symm, fun c row' key' same => ?_⟩
  cases (congrArg Prod.fst done).trans same
  exact ⟨id, x, own, ref, given, mapped, stored, rfl, written, keyed⟩

/-- Saving an instance writes its row, but for the key, over the one with its key. -/
theorem saveEntity_cases {m : Mapping} {v : Value} {d : Driver} {outcome : Except Error Unit}
    (hierarchy : m.isHierarchy = true) (driven : w.drivers[m.driver]? = some d)
    (done : (saveEntity m v).exec w = (outcome, w')) :
    (w' = w ∧ ∃ e, outcome = .error e) ∨
      ∃ id x own ref row key d', (instanceOf m v).exec w = (.ok (id, x), w) ∧
      w.layout.mappingFor m x = .ok own ∧ m.collection = some ref ∧
      own.rowOf w.layout (w.layout.collections.get ref).name x false = .ok row ∧ own.keyOf row = .ok key ∧
      d.save w.layout.collections (.str (w.layout.collections.get ref).name) key.toEntries
        (Mapping.changes row key).toEntries = .ok d' ∧
      w' = { w with drivers := w.drivers.set m.driver d' } := by
  unfold saveEntity at done
  simp only [hierarchy, Bool.not_true, Bool.false_eq_true, if_false] at done
  rcases bind_cases done with ⟨e, failed, same⟩ | ⟨⟨c, row, key⟩, w₁, found, done⟩
  · exact .inl ⟨(keyed_cases failed).1, e, same⟩
  obtain ⟨rfl, parts⟩ := keyed_cases found
  obtain ⟨id, x, own, ref, given, mapped, stored, rfl, written, keyed⟩ := parts c row key rfl
  rcases update_cases driven done with same | ⟨d', saved, same⟩
  · exact .inl same
  · exact .inr ⟨id, x, own, ref, row, key, d', given, mapped, stored, written, keyed, saved, same⟩

/-- Removing an instance deletes the row with its key. -/
theorem removeEntity_cases {m : Mapping} {v : Value} {d : Driver} {outcome : Except Error Unit}
    (hierarchy : m.isHierarchy = true) (driven : w.drivers[m.driver]? = some d)
    (done : (removeEntity m v).exec w = (outcome, w')) :
    (w' = w ∧ ∃ e, outcome = .error e) ∨
      ∃ id x own ref row key d', (instanceOf m v).exec w = (.ok (id, x), w) ∧
        w.layout.mappingFor m x = .ok own ∧ m.collection = some ref ∧
        own.rowOf w.layout (w.layout.collections.get ref).name x false = .ok row ∧ own.keyOf row = .ok key ∧
        d.remove w.layout.collections (.str (w.layout.collections.get ref).name) key.toEntries = .ok d' ∧
        w' = { w with drivers := w.drivers.set m.driver d' } := by
  unfold removeEntity at done
  simp only [hierarchy, Bool.not_true, Bool.false_eq_true, if_false] at done
  rcases bind_cases done with ⟨e, failed, same⟩ | ⟨⟨c, row, key⟩, w₁, found, done⟩
  · exact .inl ⟨(keyed_cases failed).1, e, same⟩
  obtain ⟨rfl, parts⟩ := keyed_cases found
  obtain ⟨id, x, own, ref, given, mapped, stored, rfl, written, keyed⟩ := parts c row key rfl
  rcases update_cases driven done with same | ⟨d', removed, same⟩
  · exact .inl same
  · exact .inr ⟨id, x, own, ref, row, key, d', given, mapped, stored, written, keyed, removed, same⟩

/-! Finding instances. -/

/-- The workspace after a filter was read. -/
def noted (w : Workspace) (m : Mapping) (q : Query) : Workspace :=
  { w with journal := w.journal ++ [.parsed m.name q.whereClause] }

theorem exec_collectionOf {m : Mapping} {ref : CollectionRef} (stored : m.collection = some ref) (w : Workspace) :
    (collectionOf m).exec w = (.ok ref, w) := by
  rw [collectionOf, stored]
  rfl

theorem exec_parse {m : Mapping} {ref : CollectionRef} {filter : Value} {o : FindOptions} {q : Query}
    (stored : m.collection = some ref) (parsed : m.parse ref filter o = .ok q) (w : Workspace) :
    (parse m filter o).exec w = (.ok q, noted w m q) := by
  rw [parse, exec_bind_ok (exec_collectionOf stored w), parsed, exec_bind_ok (exec_ofExcept _ w)]
  rfl

theorem exec_parse_error {m : Mapping} {ref : CollectionRef} {filter : Value} {o : FindOptions} {e : Error}
    (stored : m.collection = some ref) (failed : m.parse ref filter o = .error e) (w : Workspace) :
    (parse m filter o).exec w = (.error e, w) := by
  rw [parse, exec_bind_ok (exec_collectionOf stored w), failed]
  exact exec_bind_error (exec_ofExcept _ w)

/-- What a filter is read as, if it is read. -/
theorem parse_cases {m : Mapping} {ref : CollectionRef} {filter : Value} {o : FindOptions} {q : Query}
    (stored : m.collection = some ref) (done : (parse m filter o).exec w = (.ok q, w')) :
    m.parse ref filter o = .ok q ∧ w' = noted w m q := by
  rw [parse, exec_bind_ok (exec_collectionOf stored w)] at done
  rcases bind_cases done with ⟨e, -, failed⟩ | ⟨p, w₁, parsed, rest⟩
  · cases failed
  · obtain ⟨read, rfl⟩ := ofExcept_cases parsed
    cases rest
    exact ⟨read, rfl⟩

theorem exec_findDocuments {id : Nat} {d : Driver} (driven : w.drivers[id]? = some d) (q : Query) :
    (findDocuments id q).exec w = (d.find w.layout.collections (w.evaluatorOf d) q, w) := by
  rw [findDocuments, exec_bind_ok (exec_get w), exec_bind_ok (exec_driver driven)]
  exact exec_ofExcept _ w

theorem exec_findOne {id : Nat} {d : Driver} (driven : w.drivers[id]? = some d) (q : Query) :
    (findOne id q).exec w = (d.findOne w.layout.collections (w.evaluatorOf d) q, w) := by
  rw [findOne, exec_bind_ok (exec_get w), exec_bind_ok (exec_driver driven)]
  exact exec_ofExcept _ w

theorem find_cases {id : Nat} {d : Driver} {q : Query} {h : Handle} (driven : w.drivers[id]? = some d)
    (done : (find id q).exec w = (.ok h, w')) :
    ∃ documents, d.find w.layout.collections (w.evaluatorOf d) q = .ok documents ∧
      h = .cursor false w.cursors.length ∧
      w' = { w with cursors := w.cursors ++ [.stored documents false] } := by
  rcases bind_cases done with ⟨e, -, failed⟩ | ⟨documents, w₁, first, rest⟩
  · cases failed
  · obtain ⟨found, rfl⟩ := Prod.mk.inj ((exec_findDocuments driven q).symm.trans first)
    cases rest
    exact ⟨documents, found, rfl, rfl⟩

/-- A cursor that was opened holds what the driver finds. -/
theorem findEntities_cases {m : Mapping} {ref : CollectionRef} {filter options v : Value} {d : Driver}
    (hierarchy : m.isHierarchy = true) (stored : m.collection = some ref)
    (driven : w.drivers[m.driver]? = some d) (done : (findEntities m filter options).exec w = (.ok v, w')) :
    ∃ o q documents, m.prepareOptions options = .ok o ∧ m.parse ref filter o = .ok q ∧
      d.find w.layout.collections (w.evaluatorOf d) q = .ok documents ∧
      v = .object (.cursor true (w.cursors.length + 1)) ∧
      w' = { noted w m q with
        cursors := w.cursors ++ [.stored documents false, .mapped w.cursors.length m.id] } := by
  unfold findEntities at done
  simp only [hierarchy, Bool.not_true, Bool.false_eq_true, if_false] at done
  rcases bind_cases done with ⟨e, -, failed⟩ | ⟨o, w₁, first, rest⟩
  · cases failed
  obtain ⟨prepared, rfl⟩ := ofExcept_cases first
  rcases bind_cases rest with ⟨e, -, failed⟩ | ⟨q, w₂, second, rest⟩
  · cases failed
  obtain ⟨parsed, rfl⟩ := parse_cases stored second
  rcases bind_cases rest with ⟨e, -, failed⟩ | ⟨h, w₃, third, rest⟩
  · cases failed
  obtain ⟨documents, found, rfl, rfl⟩ := find_cases (w := noted w₁ m q) driven third
  cases rest
  refine ⟨o, q, documents, prepared, parsed, found, ?_, ?_⟩
  · simp [noted]
  · simp [noted]

theorem exec_restore {m : Mapping} {ref : CollectionRef} {document : Value} {x : Entity}
    (stored : m.collection = some ref) (restored : w.layout.restore m ref document = .ok x) :
    (restore m document).exec w =
      (.ok (.object (.entity w.entities.length x.model.name)),
        { w with entities := w.entities ++ [x] }) := by
  rw [restore, exec_bind_ok (exec_get w), exec_bind_ok (exec_found_some stored w), restored,
    exec_bind_ok (exec_ofExcept _ w)]
  rfl

theorem exec_findEntity {m : Mapping} {ref : CollectionRef} {filter document : Value} {q : Query}
    {d : Driver} {x : Entity} (hierarchy : m.isHierarchy = true) (stored : m.collection = some ref)
    (parsed : m.parse ref filter { limit := some 1 } = .ok q) (driven : w.drivers[m.driver]? = some d)
    (first : d.findOne w.layout.collections (w.evaluatorOf d) q = .ok (some document))
    (restored : w.layout.restore m ref document = .ok x) :
    (findEntity m filter).exec w =
      (.ok (.object (.entity w.entities.length x.model.name)),
        { noted w m q with entities := w.entities ++ [x] }) := by
  have one : (findOne m.driver q).exec (noted w m q) = (.ok (some document), noted w m q) :=
    (exec_findOne (w := noted w m q) driven q).trans (congrArg (·, noted w m q) first)
  unfold findEntity
  simp only [hierarchy, Bool.not_true, Bool.false_eq_true, if_false]
  rw [exec_bind_ok (exec_parse stored parsed w), exec_bind_ok one]
  exact exec_restore (w := noted w m q) stored restored

theorem exec_findEntity_none {m : Mapping} {ref : CollectionRef} {filter : Value} {q : Query} {d : Driver}
    (hierarchy : m.isHierarchy = true) (stored : m.collection = some ref)
    (parsed : m.parse ref filter { limit := some 1 } = .ok q) (driven : w.drivers[m.driver]? = some d)
    (nothing : d.findOne w.layout.collections (w.evaluatorOf d) q = .ok none) :
    (findEntity m filter).exec w = (.ok .none, noted w m q) := by
  have answered : (findOne m.driver q).exec (noted w m q) = (.ok none, noted w m q) :=
    (exec_findOne (w := noted w m q) driven q).trans (congrArg (·, noted w m q) nothing)
  unfold findEntity
  simp only [hierarchy, Bool.not_true, Bool.false_eq_true, if_false]
  rw [exec_bind_ok (exec_parse stored parsed w), exec_bind_ok answered]
  rfl

theorem exec_findEntity_error {m : Mapping} {ref : CollectionRef} {filter : Value} {d : Driver} {e : Error}
    (hierarchy : m.isHierarchy = true) (stored : m.collection = some ref) (driven : w.drivers[m.driver]? = some d)
    (failed : (do d.findOne w.layout.collections (w.evaluatorOf d) (← m.parse ref filter { limit := some 1 })) =
      .error e) : ∃ w', (findEntity m filter).exec w = (.error e, w') := by
  unfold findEntity
  simp only [hierarchy, Bool.not_true, Bool.false_eq_true, if_false]
  rcases Outcome.error_of_bind failed with parsed | ⟨q, parsed, failed⟩
  · exact ⟨w, exec_bind_error (exec_parse_error stored parsed w)⟩
  · have answered : (findOne m.driver q).exec (noted w m q) = (.error e, noted w m q) :=
      (exec_findOne (w := noted w m q) driven q).trans (congrArg (·, noted w m q) failed)
    rw [exec_bind_ok (exec_parse stored parsed w)]
    exact ⟨_, exec_bind_error answered⟩

end Run

end ModelStore
