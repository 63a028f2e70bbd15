import Mathlib
import ModelStore.Assoc

/-!
Look-up in association lists. Writing changes the value under one key only, and a list with distinct
keys that are not in use yet is written after what is there.
-/

namespace ModelStore.Assoc

variable {α β γ : Type} [BEq α] {m n : Assoc α β} {k j : α} {v w : β}

theorem get?_nil : get? ([] : Assoc α β) k = none := rfl

theorem get?_cons (e : α × β) : get? (e :: m) k = if k == e.1 then some e.2 else get? m k := by
  rw [get?, List.lookup_cons]
  cases k == e.1 <;> rfl

theorem has_eq_isSome : has m k = (get? m k).isSome := by
  induction m with
  | nil => rfl
  | cons e m ih =>
    rw [has, List.any_cons, get?_cons]
    cases k == e.1 with
    | true => rfl
    | false => exact ih

theorem get?_map (f : β → γ) : get? (m.map fun e => (e.1, f e.2)) k = (get? m k).map f := by
  induction m with
  | nil => rfl
  | cons e m ih =>
    rw [List.map_cons, get?_cons, get?_cons, ih]
    split <;> rfl

variable [LawfulBEq α]

theorem get?_put : get? (put m k v) j = if j == k then some v else get? m j := by
  induction m with
  | nil => rw [put, get?_cons]
  | cons e m ih =>
    rw [put]
    by_cases here : k = e.1
    · subst here
      rw [if_pos (beq_self_eq_true _), get?_cons, get?_cons]
      split <;> rfl
    · rw [if_neg (by simpa using here), get?_cons, get?_cons, ih]
      by_cases other : j = e.1
      · have apart : (j == k) = false := by
          rw [beq_eq_false_iff_ne]
          intro same
          exact here (same ▸ other)
        rw [apart]
        rfl
      · rw [beq_eq_false_iff_ne.mpr other]
        rfl

theorem get?_put_self : get? (put m k v) k = some v := by
  rw [get?_put, if_pos (beq_self_eq_true k)]

theorem get?_put_ne (other : j ≠ k) : get? (put m k v) j = get? m j := by
  rw [get?_put, if_neg (by simpa using other)]

theorem get?_eq_none_iff : get? m k = none ↔ k ∉ keys m := by
  rw [get?, List.lookup_eq_none_iff, keys]
  constructor
  · intro absent member
    rcases List.mem_map.mp member with ⟨e, inside, rfl⟩
    have apart := absent e inside
    simp at apart
  · intro absent e inside
    rw [bne_iff_ne]
    rintro rfl
    exact absent (List.mem_map.mpr ⟨e, inside, rfl⟩)

theorem get?_isSome_iff : (get? m k).isSome = true ↔ k ∈ keys m := by
  have absent := get?_eq_none_iff (m := m) (k := k)
  cases found : get? m k with
  | none => simpa [found] using absent
  | some v => simpa [found] using absent

theorem mem_keys_of_get? {v : β} (found : get? m k = some v) : k ∈ m.keys := by
  rw [← get?_isSome_iff, found]
  rfl

theorem exists_of_mem_keys (member : k ∈ m.keys) : ∃ v, get? m k = some v :=
  Option.isSome_iff_exists.mp (get?_isSome_iff.mpr member)

theorem mem_of_get? (found : get? m k = some v) : (k, v) ∈ m := by
  induction m with
  | nil => cases found
  | cons e m ih =>
    rw [get?_cons] at found
    split at found
    · rename_i here
      cases found
      rw [beq_iff_eq] at here
      subst here
      exact List.mem_cons_self ..
    · exact List.mem_cons_of_mem _ (ih found)

theorem get?_of_mem (distinct : (keys m).Nodup) (member : (k, v) ∈ m) : get? m k = some v := by
  induction m with
  | nil => cases member
  | cons e m ih =>
    rw [keys, List.map_cons, List.nodup_cons] at distinct
    rw [get?_cons]
    rcases List.mem_cons.mp member with rfl | later
    · rw [if_pos (beq_self_eq_true _)]
    · have apart : k ≠ e.1 := by
        rintro rfl
        exact distinct.1 (List.mem_map.mpr ⟨_, later, rfl⟩)
      rw [if_neg (by simpa using apart), ih distinct.2 later]

theorem put_of_not_mem (absent : k ∉ keys m) : put m k v = m ++ [(k, v)] := by
  induction m with
  | nil => rfl
  | cons e m ih =>
    rw [keys, List.map_cons, List.mem_cons, not_or] at absent
    rw [put, if_neg (by simpa using absent.1), ih absent.2, List.cons_append]

theorem keys_put : keys (put m k v) = if k ∈ keys m then keys m else keys m ++ [k] := by
  split
  · rename_i member
    induction m with
    | nil => cases member
    | cons e m ih =>
      rw [put]
      split
      · rfl
      · rename_i other
        rw [keys, List.map_cons, List.mem_cons] at member
        have later := member.resolve_left (by simpa using other)
        rw [keys, List.map_cons]
        exact congrArg (e.1 :: ·) (ih later)
  · rename_i absent
    rw [put_of_not_mem absent, keys, List.map_append]
    rfl

theorem nodup_put (distinct : (keys m).Nodup) : (keys (put m k v)).Nodup := by
  rw [keys_put]
  split
  · exact distinct
  · rename_i absent
    exact List.nodup_append.mpr ⟨distinct, List.pairwise_singleton _ _,
      fun a inside b last => by
        rw [List.mem_singleton] at last
        subst last
        exact fun same => absent (same ▸ inside)⟩

/-- Entries with new and distinct keys are written one after another. -/
theorem foldl_put {ε : Type} (f : ε → α) (g : ε → β) (es : List ε)
    (distinct : (keys m ++ es.map f).Nodup) :
    es.foldl (fun m e => put m (f e) (g e)) m = m ++ es.map fun e => (f e, g e) := by
  induction es generalizing m with
  | nil => rw [List.foldl_nil, List.map_nil, List.append_nil]
  | cons e es ih =>
    rw [List.map_cons] at distinct
    have absent : f e ∉ keys m := fun member =>
      (List.nodup_append.mp distinct).2.2 _ member _ (List.mem_cons_self ..) rfl
    have rest : (keys (put m (f e) (g e)) ++ es.map f).Nodup := by
      rw [keys_put, if_neg absent, List.append_assoc]
      exact distinct
    rw [List.foldl_cons, ih rest, put_of_not_mem absent, List.append_assoc]
    rfl

theorem nodup_foldl_put {ε : Type} (f : ε → α) (g : ε → β) (es : List ε) (distinct : (keys m).Nodup) :
    (keys (es.foldl (fun m e => put m (f e) (g e)) m)).Nodup := by
  induction es generalizing m with
  | nil => exact distinct
  | cons e es ih => exact ih (nodup_put distinct)

/-- A key that is not written keeps its value. -/
theorem get?_foldl_put_of_not_mem {ε : Type} (f : ε → α) (g : ε → β) {es : List ε}
    (absent : j ∉ es.map f) : get? (es.foldl (fun m e => put m (f e) (g e)) m) j = get? m j := by
  induction es generalizing m with
  | nil => rfl
  | cons e es ih =>
    rw [List.map_cons, List.mem_cons, not_or] at absent
    rw [List.foldl_cons, ih absent.2, get?_put_ne absent.1]

/-- Among distinct keys each gets its own value. -/
theorem get?_foldl_put_of_mem {ε : Type} (f : ε → α) (g : ε → β) {es : List ε} {e : ε}
    (distinct : (es.map f).Nodup) (member : e ∈ es) :
    get? (es.foldl (fun m e => put m (f e) (g e)) m) (f e) = some (g e) := by
  induction es generalizing m with
  | nil => cases member
  | cons x es ih =>
    rw [List.map_cons, List.nodup_cons] at distinct
    rw [List.foldl_cons]
    rcases List.mem_cons.mp member with rfl | later
    · rw [get?_foldl_put_of_not_mem f g distinct.1, get?_put_self]
    · exact ih distinct.2 later

theorem get?_filter (p : α → Bool) (m : Assoc α β) (k : α) :
    get? (m.filter fun e => p e.1) k = if p k then get? m k else none := by
  induction m with
  | nil => simp [get?]
  | cons e m ih =>
    rw [List.filter_cons, get?_cons]
    by_cases here : k = e.1
    · subst here
      rw [if_pos (beq_self_eq_true e.1)]
      by_cases kept : p e.1 = true
      · rw [if_pos kept, if_pos kept, get?_cons, if_pos (beq_self_eq_true e.1)]
      · rw [if_neg kept, ih, if_neg kept, if_neg kept]
    · have apart : ¬(k == e.1) = true := by simpa using here
      rw [if_neg apart]
      split
      · rw [get?_cons, if_neg apart, ih]
      · exact ih

end ModelStore.Assoc
