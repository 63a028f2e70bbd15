import ModelStore.Proofs.Mapping.Reproducing
import ModelStore.Proofs.Workspace.Filled
import ModelStore.Proofs.Workspace.Origins
import ModelStore.Proofs.Workspace.RoundTrip

/-!
The values in the rows of a hierarchy, read and stored again. A column holds numbers of its sequence that its
converter has never seen; with these and the times whose offset is lost, instances are not found by their keys.
-/

namespace ModelStore

open Run
open Store (rowsOf)

variable {w w' : Workspace} {driver schema : Nat} {ref : CollectionRef} {c : Collection} {s : Store}
  {evaluator : Option Nat} {m : Mapping} {x : Entity} {id : Nat} {name : String} {raw : Value}

/-- The values in a column that do not come back: those that do not even equal themselves, the numbers of its
    sequence that its converter does not count to, and the times whose offset is lost. -/
inductive CollectionField.Loses (d : CollectionField) : Value → Prop where
  | unequal {raw : Value} (differs : (raw == raw) = false) : Loses d raw
  | number {n : Nat} (sequence : d.sequence.isPresent = true) (uncounted : d.converter.counts n = false) :
      Loses d (.int n)
  | time {t : DateTime} (date : d.converter = .date) (lost : t.offset.all Iso.keepsOffset = false) :
      Loses d (.str t.text)

theorem CollectionField.not_loses_text {d : CollectionField} {text : String} (keeps : d.converter.keepsText = true)
    (stored : raw.text? = some text) : ¬d.Loses raw := by
  intro loses
  cases loses with
  | unequal differs =>
    rw [Value.beq_of_text? stored, stored, beq_self_eq_true] at differs
    cases differs
  | number => cases stored
  | time date =>
    rw [date] at keeps
    cases keeps

theorem MappingField.Holds.reproduces_iff {f : MappingField} {p : Value → Prop} (holds : f.Holds p raw) :
    f.conversion.Reproduces raw ↔ ¬f.toCollectionField.Loses raw := by
  constructor
  · intro reproduces loses
    cases loses with
    | unequal differs =>
      rw [reproduces.self] at differs
      cases differs
    | number sequence uncounted =>
      rw [Converter.reproduces_number, show f.conversion.counts _ = false from uncounted] at reproduces
      cases reproduces
    | time date lost =>
      rw [show f.conversion = .date from date] at reproduces
      exact Converter.not_reproduces_lost lost reproduces
  · intro kept
    cases holds with
    | stored given stored =>
      rename_i v
      cases same : f.conversion.keeps v with
      | true =>
        rw [Converter.reproduces_kept stored same, ← Bool.not_eq_false]
        exact fun differs => kept (.unequal differs)
      | false =>
        obtain ⟨date, d, rfl, lost⟩ := Converter.lost_cases same
        rw [date] at stored
        cases stored
        exact absurd (.time date lost) kept
    | marked keeps => exact Converter.reproduces_text keeps _
    | numbered sequence =>
      rw [Converter.reproduces_number, ← Bool.not_eq_false]
      exact fun uncounted => kept (.number sequence uncounted)

namespace Run

/-- Whatever was written through the mappings of a hierarchy, a stored value comes back when it is read and stored
    just if its column does not lose it; and an instance that was just created is found by its key, if it has one,
    just if no column of the key loses its value. -/
theorem reproduces_stored (filled : w.Filled (fun _ _ => True) driver schema ref) :
    (∀ s evaluator, w.drivers[driver]? = some (.memory s evaluator) →
      ∀ row, row ∈ s.rows ref.name ∨ row ∈ rowsOf s.committed ref.name → ∀ k raw, row.get? k = some raw →
        ∃ d, (w.layout.collections.get ref).getField (.str k) = .ok d ∧ (d.converter.Reproduces raw ↔ ¬d.Loses raw)) ∧
    ∀ m ∈ w.layout.family ref, ∀ id name x w', w.entities[id]? = some x →
      (createEntity m (.object (.entity id name))).exec w = (.ok (), w') →
      ∃ own x' row, w.layout.mappingFor m x = .ok own ∧ w'.entities[id]? = some x' ∧ w'.layout = w.layout ∧
        w'.table driver ref.name = w.table driver ref.name ++ [row] ∧
        (own.keyFields ≠ [] → own.Identifies x' → (∀ k ∈ w.layout.keyColumns ref, k ∈ own.keyNames) →
          (w.layout.Locates ref own x' (w'.table driver ref.name) (w.table driver ref.name) row [] ↔
            ∀ f ∈ own.keyFields, ¬f.toCollectionField.Loses (row.column f.name))) := by
  have fills := filled.fills
  have sound := fills.declared.sound
  obtain ⟨c, stores⟩ := fills.stores
  obtain ⟨s, evaluator, driven, held⟩ := fills.held
  refine ⟨fun s' evaluator' driven' row inside k raw found => ?_, fun m member id name x w' given done => ?_⟩
  · cases driven.symm.trans driven'
    obtain ⟨f, column, rfl, holds⟩ := inside.elim (held.working row) (held.committed row) k raw found
    rw [stores.get_eq]
    exact ⟨f.toCollectionField, stores.getField column, holds.reproduces_iff⟩
  · obtain ⟨own, row, back, x', s', journal, mapped, inside, creates, converted, refreshed, unique, rows, -, rfl⟩ :=
      Workspace.created_cases fills.declared member stores driven held.provisioned given done
    refine ⟨own, x', row, mapped, List.getElem?_set_self (List.getElem?_eq_some_iff.mp given).1, rfl, ?_,
      fun keyed identifies covers => ?_⟩
    · rw [Workspace.table_eq driven, Workspace.table_eq (Workspace.driven_of_set driven rfl), rows]
    · rw [Workspace.table_eq driven, Workspace.table_eq (Workspace.driven_of_set driven rfl), rows,
        sound.locates_created inside stores creates converted refreshed unique keyed identifies covers]
      have holds := sound.held_of_creates (p := fun _ _ => True) stores inside creates fun _ _ => trivial
      refine forall₂_congr fun f field => ?_
      obtain ⟨raw, present⟩ := creates.exists_get? (List.mem_filter.mp field).1
      obtain ⟨g, column, name, held⟩ := holds f.name raw present
      cases stores.eq_of_name column (sound.field_mem_columns inside (List.mem_filter.mp field).1) name
      rw [Row.column_of_get? present]
      exact held.reproduces_iff

/-- An alarm that was created in an empty log is found by its code. -/
theorem reproduces_stored_alarm : ∃ w x row, (Log.create true 0).exec (Log.opened true none [Log.early]) = (.ok (), w) ∧
    w.entities[0]? = some x ∧
    (Log.layout true).Locates Log.collection (Log.bottom true) x (w.table 0 Log.collection.name)
      ((Log.opened true none [Log.early]).table 0 Log.collection.name) row [] := by
  have ready : Creation (Log.opened true none [Log.early]) _ Log.collection (Log.top true)
    (Log.bottom true) 0 Log.early := Log.creation rfl rfl
  have filled : (Log.opened true none [Log.early]).Filled (fun _ _ => True) 0 0 Log.collection :=
    .start (Log.declared true) ready.member rfl (by decide +kernel) rfl rfl
  have done := Log.exec_create true 0 (Log.opened true none [Log.early]) (by decide +kernel)
  obtain ⟨own, x, row, mapped, known, -, table, located⟩ :=
    (reproduces_stored filled).2 (Log.top true) ready.member 0 "Alarm" Log.early _ rfl done
  cases ready.mapped.symm.trans mapped
  have present : (((Log.create true 0).exec (Log.opened true none [Log.early])).2.entities[0]?).all (fun x =>
      (Log.bottom true).keyFields.all fun f => !(x.get f.ref).isNone) = true := by decide +kernel
  have texts : (((Log.create true 0).exec (Log.opened true none [Log.early])).2.table 0 Log.collection.name).all
      (fun row => (Log.bottom true).keyFields.all fun f =>
        f.conversion.keepsText && (row.column f.name).text?.isSome) = true := by decide +kernel
  rw [known, Option.all_some] at present
  rw [table] at texts
  refine ⟨_, x, row, done, known, (located (by decide +kernel) (fun f field => ?_) (by decide +kernel)).mpr ?_⟩
  · simpa using List.all_eq_true.mp present f field
  · intro f field
    have all := List.all_eq_true.mp (List.all_eq_true.mp texts row (by simp)) f field
    obtain ⟨keeps, stored⟩ := Bool.and_eq_true_iff.mp all
    obtain ⟨text, stored⟩ := Option.isSome_iff_exists.mp stored
    exact CollectionField.not_loses_text keeps stored

end Run

/-! A desk at which a sequence gives the texts that tickets are called by. -/

namespace Desk

def ticket : Model where
  name := "Ticket"
  lineage := ["Ticket"]
  validated := true
  attributes := [⟨"code", .str, true, some .none⟩, ⟨"name", .str, false, none⟩]
  frozen := false

def tickets : Declaration where
  kind := .hierarchy
  model := ticket.toValue
  driver := .object (.driver .memory 0)
  schema := .object (.schema 0)
  fields := .tuple
    [.dict [(.str "name", .str "code"), (.str "type", .str "string"), (.str "primary_key", .bool true),
      (.str "sequence", .bool true)],
     .dict [(.str "name", .str "name"), (.str "type", .str "string")]]
  collection := .str "tickets"

def layout : Layout := ({ schemas := [{}] } : Layout).after [ticket] [Driver.ofEvaluator none] tickets

def collection : CollectionRef := ⟨0, "tickets"⟩

theorem declared : layout.Declared 0 0 := .after (.start rfl rfl) rfl (by decide +kernel)

theorem mappings_ne_nil : layout.mappings ≠ [] := by decide +kernel

def top : Mapping := layout.mappings.head mappings_ne_nil

theorem top_mem : top ∈ layout.family collection :=
  Layout.mem_family.mpr ⟨List.head_mem mappings_ne_nil, by decide +kernel⟩

def waiting : Entity where
  model := ticket
  attributes := [("code", .none), ("name", .str "Ann")]

def opened : Workspace where
  layout := layout
  models := [ticket]
  drivers := [.memory (({ label := "InMemoryDriver" } : Store).ensureCollection collection) none]
  entities := [waiting]

/-- The key of a ticket that is not found. -/
def missed? : Except Error Unit → Option Value
  | .error (.notFound .document key (some "tickets") []) => some key
  | _ => none

theorem eq_of_missed? {answer : Except Error Unit} {key : Value} (missed : missed? answer = some key) :
    answer = .error (.notFound .document key (some "tickets") []) := by
  unfold missed? at missed
  split at missed
  · cases missed
    rfl
  · cases missed

end Desk

namespace Run

/-- The sequence of a text stores a number, so that the ticket is not found by the text it is called by. -/
theorem not_reproduces_stored : Desk.opened.Filled (fun _ _ => True) 0 0 Desk.collection ∧
    (∀ f ∈ Desk.top.allFields, f.conversion.covers (Desk.waiting.get f.ref) = true) ∧
    ∃ w row n d key, (createEntity Desk.top (.object (.entity 0 "Ticket"))).exec Desk.opened = (.ok (), w) ∧
      w.table 0 Desk.collection.name = [row] ∧ row.get? "code" = some (.int n) ∧
      (w.layout.collections.get Desk.collection).getField (.str "code") = .ok d ∧ ¬d.converter.Reproduces (.int n) ∧
      ((saveEntity Desk.top (.object (.entity 0 "Ticket"))).exec w).1 =
        .error (.notFound .document key (some "tickets") []) := by
  have done := exec_ok (a := createEntity Desk.top (.object (.entity 0 "Ticket"))) (w := Desk.opened)
    (by decide +kernel)
  obtain ⟨c, stores⟩ := Desk.declared.sound.exists_stores Desk.top_mem
  obtain ⟨own, row, back, x, s, journal, mapped, inside, creates, -, -, -, rows, -, after⟩ :=
    Workspace.created_cases Desk.declared Desk.top_mem stores (w := Desk.opened) rfl (by decide +kernel) rfl done
  have single : ∀ m ∈ Desk.layout.family Desk.collection, ∃ f ∈ m.allFields, f.name = "code" ∧
      f.unset Desk.waiting = true ∧ f.conversion = .string := by decide +kernel
  obtain ⟨f, mapped, name, left, text⟩ := single own inside
  obtain ⟨n, number⟩ := creates.generated f mapped left
  have found := stores.getField (Desk.declared.sound.field_mem_columns inside mapped)
  have refused : (Desk.missed? ((saveEntity Desk.top (.object (.entity 0 "Ticket"))).exec
      ((createEntity Desk.top (.object (.entity 0 "Ticket"))).exec Desk.opened).2).1).isSome = true := by
    decide +kernel
  obtain ⟨key, missed⟩ := Option.isSome_iff_exists.mp refused
  refine ⟨.start Desk.declared Desk.top_mem rfl (by decide +kernel) rfl rfl, by decide +kernel, _, row, n,
    f.toCollectionField, key, done, ?_, name ▸ number, ?_, ?_, Desk.eq_of_missed? missed⟩
  · rw [after, Workspace.table_eq (Workspace.driven_of_set (w := Desk.opened) rfl rfl), rows]
    rfl
  · rw [after, ← name]
    exact stores.get_eq ▸ found
  · rw [show f.toCollectionField.converter = .string from text, Converter.reproduces_number]
    exact Bool.false_ne_true

end Run

end ModelStore
