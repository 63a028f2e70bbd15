import ModelStore.Mapping.Reading
import ModelStore.Proofs.Calendar.Order
import ModelStore.Proofs.Conversion
import ModelStore.Proofs.Evaluator

/-!
Comparisons of stored values. A value of a type that has an exact stored form compares with others of
its type as their stored forms do, which makes it the same to compare before and after conversion.
-/

namespace ModelStore

/-- The stored form of a value. -/
def Value.stored : Value → Value
  | .bool b => .int (if b then 1 else 0)
  | .date d => .str d.text
  | .datetime d => .str d.text
  | .bytes bs => .str (String.ofList (Base64.encode bs))
  | v => v

/-- The elements of a list, a tuple or a set. -/
def Value.elements? : Value → Option (List Value)
  | .list vs | .tuple vs | .set vs | .frozenset vs => some vs
  | _ => Option.none

namespace AttributeType

/-- Whether a value is one of the type, and its stored form is as good as the value. -/
def exact : AttributeType → Value → Bool
  | .int, .int _ | .str, .str _ | .bool, .bool _ | .date, .date _ | .bytes, .bytes _ => true
  | .datetime, .datetime d => d.offset.isNone
  | _, _ => false

/-- Whether a value is missing or one of the type. -/
def takes (t : AttributeType) (v : Value) : Bool := t.exact v || v.isNone

/-- Whether a comparison with an operand suits the type: missing values have no order, and bytes are not
    ordered either. -/
def compares (t : AttributeType) (o : Operator) (v : Value) : Bool :=
  match o with
  | .eq | .neq => t.takes v
  | .lt | .lte | .gt | .gte => t.exact v && t != .bytes
  | .isIn | .notIn => v.elements?.any (·.all t.takes)
  | .regex | .and | .or | .not => false

end AttributeType

/-- The values that have an exact stored form, by type. -/
inductive Exact : AttributeType → Value → Prop where
  | int (n : Int) : Exact .int (.int n)
  | str (s : String) : Exact .str (.str s)
  | bool (b : Bool) : Exact .bool (.bool b)
  | date (d : Date) : Exact .date (.date d)
  | datetime (d : DateTime) (naive : d.offset = none) : Exact .datetime (.datetime d)
  | bytes (bs : List UInt8) : Exact .bytes (.bytes bs)

variable {t : FieldType} {a : AttributeType} {v w : Value} {o : Operator}

theorem exact_cases (exact : a.exact v = true) : Exact a v := by
  cases a with
  | int => cases v with
    | int n => exact .int n
    | _ => cases exact
  | str => cases v with
    | str s => exact .str s
    | _ => cases exact
  | bool => cases v with
    | bool b => exact .bool b
    | _ => cases exact
  | date => cases v with
    | date d => exact .date d
    | _ => cases exact
  | datetime => cases v with
    | datetime d => exact .datetime d (Option.isNone_iff_eq_none.mp exact)
    | _ => cases exact
  | bytes => cases v with
    | bytes bs => exact .bytes bs
    | _ => cases exact
  | float | any => simp only [AttributeType.exact, Bool.false_eq_true] at exact

theorem takes_cases (takes : a.takes v = true) : v = .none ∨ Exact a v := by
  rcases Bool.or_eq_true_iff.mp takes with exact | missing
  · exact .inr (exact_cases exact)
  · cases v with
    | none => exact .inl rfl
    | _ => cases missing

theorem AttributeType.admits_of_exact (exact : a.exact v = true) : a.admits v = true := by
  cases exact_cases exact with
  | datetime d naive =>
    rw [admits, naive]
    rfl
  | _ => rfl

theorem toRaw_exact (suits : t.suits a = true) (exact : Exact a v) :
    t.converter.toRaw v = .ok v.stored := by
  cases exact with
  | _ => cases t <;> cases suits <;> rfl

theorem toRaw_takes (suits : t.suits a = true) (takes : a.takes v = true) :
    t.converter.toRaw v = .ok v.stored := by
  rcases takes_cases takes with rfl | exact
  · rfl
  · exact toRaw_exact suits exact

theorem exists_exact_stored (exact : Exact a v) : ∃ b, Exact b v.stored := by
  cases exact with
  | int n => exact ⟨_, .int n⟩
  | bool b => exact ⟨_, .int _⟩
  | _ => exact ⟨_, .str _⟩

/-! Equality. -/

theorem Base64.encode_inj {as bs : List UInt8} (same : Base64.encode as = Base64.encode bs) : as = bs := by
  have first := Base64.decode_encode as
  rw [same, Base64.decode_encode] at first
  exact (Except.ok.inj first).symm

theorem Date.text_inj {d e : Date} (same : d.text = e.text) : d = e := by
  have first := Iso.date_isoChars d
  rw [text, text, String.ofList_inj] at same
  rw [same, Iso.date_isoChars] at first
  exact (Except.ok.inj first).symm

namespace Value

theorem beq_bool (b c : Bool) : (Value.bool b == Value.bool c) = (b == c) := by
  rw [beq_eq_eq, eq]
  cases b <;> cases c <;> rfl

theorem beq_date (d e : Date) : (Value.date d == Value.date e) = (d == e) := by
  rw [beq_eq_eq, eq]

theorem beq_bytes (as bs : List UInt8) : (Value.bytes as == Value.bytes bs) = (as == bs) := by
  rw [beq_eq_eq, eq]

theorem beq_datetime (d e : DateTime) : (Value.datetime d == Value.datetime e) = (d.compare? e == some .eq) := by
  rw [beq_eq_eq, eq]

theorem none_beq (v : Value) : (Value.none == v) = v.isNone := by
  cases v with
  | none => exact none_beq_none
  | _ =>
    rw [beq_eq_eq]
    simp [eq]
    rfl

theorem beq_none (exact : Exact a v) : (v == Value.none) = false := by
  cases exact with
  | _ =>
    rw [beq_eq_eq]
    simp [eq, text?, number?]

end Value

/-- Stored values are equal if the values are. -/
theorem beq_stored_exact (exact : Exact a v) (exact' : Exact a w) : (v.stored == w.stored) = (v == w) := by
  cases exact with
  | int m | str s =>
    cases exact'
    rfl
  | bool b =>
    cases exact' with
    | bool c =>
      show (Value.int _ == Value.int _) = _
      rw [Value.int_beq_int, Value.beq_bool]
      cases b <;> cases c <;> rfl
  | date d =>
    cases exact' with
    | date e =>
      show (Value.str d.text == Value.str e.text) = _
      rw [Value.str_beq_str, Value.beq_date, Bool.eq_iff_iff, beq_iff_eq, beq_iff_eq]
      exact ⟨Date.text_inj, congrArg Date.text⟩
  | datetime d naive =>
    cases exact' with
    | datetime e naive' =>
      show (Value.str d.text == Value.str e.text) = _
      rw [Value.str_beq_str, Value.beq_datetime, DateTime.compare_text naive naive', Bool.eq_iff_iff,
        beq_iff_eq, beq_iff_eq, Option.some_inj, Std.LawfulEqOrd.compare_eq_iff_eq]
  | bytes as =>
    cases exact' with
    | bytes bs =>
      show (Value.str (String.ofList (Base64.encode as)) == Value.str (String.ofList (Base64.encode bs))) = _
      rw [Value.str_beq_str, Value.beq_bytes, Bool.eq_iff_iff, beq_iff_eq, beq_iff_eq, String.ofList_inj]
      exact ⟨Base64.encode_inj, congrArg Base64.encode⟩

theorem isNone_stored (v : Value) : v.stored.isNone = v.isNone := by cases v <;> rfl

theorem beq_stored (takes : a.takes v = true) (takes' : a.takes w = true) :
    (v.stored == w.stored) = (v == w) := by
  rcases takes_cases takes with rfl | exact
  · show (Value.none == w.stored) = (Value.none == w)
    rw [Value.none_beq, Value.none_beq, isNone_stored]
  · rcases takes_cases takes' with rfl | exact'
    · obtain ⟨b, scalar⟩ := exists_exact_stored exact
      show (v.stored == Value.none) = (v == Value.none)
      rw [Value.beq_none scalar, Value.beq_none exact]
    · exact beq_stored_exact exact exact'

/-! Order. -/

theorem compareScalars_stored (exact : Exact a v) (exact' : Exact a w) (ordered : a ≠ .bytes) (r : Relation) :
    ∃ order, Value.compareScalars r v w = .ok (some order) ∧
      Value.compareScalars r v.stored w.stored = .ok (some order) := by
  cases exact with
  | int m =>
    cases exact' with
    | int n => exact ⟨compare m n, rfl, rfl⟩
  | str s =>
    cases exact' with
    | str t => exact ⟨compare s t, rfl, rfl⟩
  | bool b =>
    cases exact' with
    | bool c => exact ⟨_, rfl, rfl⟩
  | date d =>
    cases exact' with
    | date e =>
      refine ⟨d.compare e, rfl, ?_⟩
      rw [← Date.compare_text]
      rfl
  | datetime d naive =>
    cases exact' with
    | datetime e naive' =>
      refine ⟨compare d.text e.text, ?_, rfl⟩
      simp only [Value.compareScalars, Value.number?, Value.text?, DateTime.compare_text naive naive']
  | bytes bs => exact (ordered rfl).elim

theorem holds_scalar (exact : Exact a v) (r : Relation) (w : Value) :
    v.holds r w = (return (← v.compareScalars r w).any r.accepts) := by
  cases exact with
  | _ =>
    rw [Value.holds]
    all_goals exact fun _ _ h => nomatch h

/-- Stored values are in the order of the values. -/
theorem holds_stored (exact : Exact a v) (exact' : Exact a w) (ordered : a ≠ .bytes) (r : Relation) :
    v.stored.holds r w.stored = v.holds r w ∧ ∃ b, v.holds r w = .ok b := by
  obtain ⟨order, first, second⟩ := compareScalars_stored exact exact' ordered r
  obtain ⟨b, scalar⟩ := exists_exact_stored exact
  rw [holds_scalar exact, holds_scalar scalar, first, second]
  exact ⟨rfl, _, rfl⟩

/-! Membership, and all comparisons. -/

theorem hashable_takes (takes : a.takes v = true) : v.hashable = .ok () := by
  rcases takes_cases takes with rfl | exact
  · rfl
  · cases exact with
    | _ => rfl

theorem isMember_takes {vs : List Value} (takes : a.takes v = true) (elements : w.elements? = some vs) :
    v.isMember w = .ok (vs.any fun x => x == v) := by
  have hashable := hashable_takes takes
  cases w with
  | list ws | tuple ws =>
    cases elements
    rfl
  | set ws | frozenset ws =>
    cases elements
    cases v with
    | set vs => rfl
    | _ =>
      simp only [Value.isMember, hashable]
      rfl
  | _ => cases elements

theorem any_stored {vs : List Value} (takes : a.takes v = true) (all : vs.all a.takes = true) :
    ((vs.map Value.stored).any fun x => x == v.stored) = vs.any fun x => x == v := by
  rw [List.any_map, Bool.eq_iff_iff, List.any_eq_true, List.any_eq_true]
  have each : ∀ x ∈ vs, (x.stored == v.stored) = (x == v) := fun x member =>
    beq_stored (List.all_eq_true.mp all x member) takes
  constructor
  · rintro ⟨x, member, same⟩
    exact ⟨x, member, by rwa [← each x member]⟩
  · rintro ⟨x, member, same⟩
    exact ⟨x, member, by rwa [Function.comp_apply, each x member]⟩

/-- The operand of a comparison in stored form. -/
def Operator.stored (o : Operator) (w : Value) : Value :=
  if o.takesList then .list ((w.elements?.getD []).map Value.stored) else w.stored

theorem freeze_exact (exact : Exact a w) : Query.freezeValue w.stored = w.stored := by
  cases exact with
  | _ => rfl

theorem freeze_stored (takes : a.takes w = true) : Query.freezeValue w.stored = w.stored := by
  rcases takes_cases takes with rfl | exact
  · rfl
  · exact freeze_exact exact

theorem ordered_stored {r : Relation} (takes : a.takes v = true) (exact' : Exact a w) (ordered : a ≠ .bytes) :
    Comparator.ordered r v.stored w.stored = Comparator.ordered r v w ∧ ∃ b, Comparator.ordered r v w = .ok b := by
  rcases takes_cases takes with rfl | exact
  · exact ⟨rfl, false, rfl⟩
  · unfold Comparator.ordered
    rw [isNone_stored]
    by_cases missing : v.isNone = true
    · rw [if_pos missing, if_pos missing]
      exact ⟨rfl, false, rfl⟩
    · rw [if_neg missing, if_neg missing]
      exact holds_stored exact exact' ordered r

theorem member_stored (takes : a.takes v = true) {vs : List Value} (elements : w.elements? = some vs)
    (all : vs.all a.takes = true) :
    v.stored.isMember (.tuple (vs.map Value.stored)) = v.isMember w ∧ ∃ b, v.isMember w = .ok b := by
  rw [isMember_takes takes elements]
  refine ⟨?_, _, rfl⟩
  show Except.ok ((vs.map Value.stored).any fun x => x == v.stored) = _
  rw [any_stored takes all]

/-- A comparison of stored forms is the comparison of the values, and it never fails. -/
theorem compare_stored (takes : a.takes v = true) (compares : a.compares o w = true) :
    Evaluator.default.compare (.operator o) v.stored (Query.freezeValue (o.stored w)) =
        Evaluator.default.compare (.operator o) v w ∧
      ∃ b, Evaluator.default.compare (.operator o) v w = .ok b := by
  cases o with
  | eq | neq =>
    have equal := beq_stored takes compares
    rw [Operator.stored, if_neg (by decide), freeze_stored compares, Evaluator.default_compare rfl,
      Evaluator.default_compare rfl]
    first
      | exact ⟨congrArg Except.ok equal, _, rfl⟩
      | exact ⟨congrArg (fun b => Except.ok (!b)) equal, _, rfl⟩
  | lt | lte | gt | gte =>
    obtain ⟨exact, ordered⟩ := Bool.and_eq_true_iff.mp compares
    have exact := exact_cases exact
    rw [Operator.stored, if_neg (by decide), freeze_exact exact, Evaluator.default_compare rfl,
      Evaluator.default_compare rfl]
    exact ordered_stored takes exact (by simpa using ordered)
  | isIn | notIn =>
    obtain ⟨vs, elements, all⟩ := (Option.any_eq_true ..).mp compares
    obtain ⟨same, b, member⟩ := member_stored takes elements all
    rw [Operator.stored, if_pos (by decide), elements, Evaluator.default_compare rfl, Evaluator.default_compare rfl]
    first
      | exact ⟨same, b, member⟩
      | exact ⟨congrArg (Functor.map (!·)) same, !b, congrArg (Functor.map (!·)) member⟩
  | regex | and | or | not => cases compares

theorem operand_stored (suits : t.suits a = true) (compares : a.compares o w = true) (ref : Value) :
    Mapping.operand ref t.converter o w = .ok (o.stored w) := by
  have all : ∀ vs : List Value, vs.all a.takes = true →
      convertAll .toStore t.converter vs = .ok (vs.map Value.stored) := by
    intro vs
    induction vs with
    | nil => exact fun _ => rfl
    | cons v vs ih =>
      intro all
      obtain ⟨first, rest⟩ := Bool.and_eq_true_iff.mp all
      rw [convertAll, Direction.convert, toRaw_takes suits first, ih rest]
      rfl
  cases o with
  | eq | neq =>
    unfold Mapping.operand
    rw [if_neg (by decide), if_neg (by decide), toRaw_takes suits compares]
    rfl
  | lt | lte | gt | gte =>
    have exact := exact_cases (Bool.and_eq_true_iff.mp compares).1
    unfold Mapping.operand
    rw [if_neg (by decide), if_neg (by decide), toRaw_exact suits exact]
    rfl
  | isIn | notIn =>
    obtain ⟨vs, elements, fits⟩ := (Option.any_eq_true ..).mp compares
    unfold Mapping.operand
    rw [if_pos (by decide), Operator.stored, if_pos (by decide), elements]
    cases w with
    | list ws | tuple ws | set ws | frozenset ws =>
      cases elements
      simp only [all _ fits]
      rfl
    | _ => cases elements
  | regex | and | or | not => cases compares

end ModelStore
