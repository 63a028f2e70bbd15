import ModelStore.Proofs.Calendar.Chronology
import ModelStore.Proofs.Store.Ordering

/-!
Columns of dates. Where all values are days, or times of one offset or of none, the stored texts are filtered and
sorted as the moments are that the values stand for. The texts of times of different offsets are in the order of
the local clocks instead.
-/

namespace ModelStore

/-- What a column of dates holds: days, or times of one offset or of none. -/
inductive Dating where
  | days
  | times (offset : Option Int)

/-- A value of a dating and its moment, the number of a day or the microseconds of an instant. -/
inductive Dated : Dating → Value → Int → Prop where
  | day (d : Date) : Dated .days (.date d) d.ordinal
  | time {o : Option Int} (d : DateTime) (zone : d.offset = o) : Dated (.times o) (.datetime d) d.instant

/-- Whether a stored value is that of a moment, or missing when there is none. -/
def Dating.Holds (k : Dating) : Option Int → Value → Prop
  | none, raw => raw = .none
  | some n, raw => ∃ v, Dated k v n ∧ Converter.date.toRaw v = .ok raw

/-- The operator that asks for a relation. -/
def Relation.operator : Relation → Operator
  | .lt => .lt
  | .le => .lte
  | .gt => .gt
  | .ge => .gte

/-- Whether a moment comes before another in a direction; where there is none comes last. -/
def SortOrder.earlier : SortOrder → Option Int → Option Int → Bool
  | _, none, _ => false
  | _, some _, none => true
  | .ascending, some m, some n => m < n
  | .descending, some m, some n => n < m

variable {k : Dating} {v w raw : Value} {m n : Int} {s t : String}

namespace Dated

theorem stored (dated : Dated k v n) : ∃ s, Converter.date.toRaw v = .ok (.str s) := by
  cases dated with
  | day d => exact ⟨d.text, rfl⟩
  | time d zone => exact ⟨d.text, rfl⟩

theorem holds (first : Dated k v m) (second : Dated k w n) (r : Relation) :
    v.holds r w = .ok (r.accepts (compare m n)) := by
  cases first with
  | day d =>
    cases second with
    | day e =>
      rw [compare_natCast, Date.compare_ordinal]
      rfl
  | time d zone =>
    cases second with
    | time e zone' =>
      have told : (Value.datetime d).compareScalars r (.datetime e) = .ok (some (compare d.instant e.instant)) := by
        simp only [Value.compareScalars, Value.number?, Value.text?, DateTime.compare?_instant (zone.trans zone'.symm)]
      show (do return (← (Value.datetime d).compareScalars r (.datetime e)).any r.accepts) = _
      rw [told]
      rfl

theorem compare_text (first : Dated k v m) (second : Dated k w n) (stored : Converter.date.toRaw v = .ok (.str s))
    (stored' : Converter.date.toRaw w = .ok (.str t)) : compare s t = compare m n := by
  cases first with
  | day d =>
    cases second with
    | day e =>
      cases stored
      cases stored'
      rw [Date.compare_text, compare_natCast, Date.compare_ordinal]
  | time d zone =>
    cases second with
    | time e zone' =>
      cases stored
      cases stored'
      exact DateTime.compare_text_instant (zone.trans zone'.symm)

theorem beq (first : Dated k v m) (second : Dated k w n) : (v == w) = (m == n) := by
  have equal : (m == n) = (compare m n == .eq) := by
    rw [Bool.eq_iff_iff, beq_iff_eq, beq_iff_eq, Std.LawfulEqOrd.compare_eq_iff_eq]
  cases first with
  | day d =>
    cases second with
    | day e =>
      rw [equal, compare_natCast, Date.compare_ordinal, ← Date.compare_text, Value.beq_date, Bool.eq_iff_iff,
        beq_iff_eq, beq_iff_eq, Std.LawfulEqOrd.compare_eq_iff_eq]
      exact ⟨congrArg Date.text, Date.text_inj⟩
  | time d zone =>
    cases second with
    | time e zone' =>
      rw [equal, Value.beq_datetime, DateTime.compare?_instant (zone.trans zone'.symm)]
      rfl

theorem text_lt_iff (first : Dated k v m) (second : Dated k w n) (stored : Converter.date.toRaw v = .ok (.str s))
    (stored' : Converter.date.toRaw w = .ok (.str t)) : s < t ↔ m < n := by
  rw [← compare_lt_iff_lt, first.compare_text second stored stored', Int.compare_eq_lt]

theorem text_eq_iff (first : Dated k v m) (second : Dated k w n) (stored : Converter.date.toRaw v = .ok (.str s))
    (stored' : Converter.date.toRaw w = .ok (.str t)) : s = t ↔ m = n := by
  rw [← Std.LawfulEqOrd.compare_eq_iff_eq (a := s), first.compare_text second stored stored',
    Std.LawfulEqOrd.compare_eq_iff_eq]

/-- Values compare as their texts. -/
theorem agrees (first : Dated k v m) (second : Dated k w n) (stored : Converter.date.toRaw v = .ok (.str s))
    (stored' : Converter.date.toRaw w = .ok (.str t)) :
    v.holds .lt w = .ok (decide (s < t)) ∧ (v == w) = (s == t) := by
  have less := first.text_lt_iff second stored stored'
  have equal := first.text_eq_iff second stored stored'
  constructor
  · rw [first.holds second, Except.ok.injEq, Bool.eq_iff_iff, decide_eq_true_iff, less, Relation.accepts, beq_iff_eq,
      Int.compare_eq_lt]
  · rw [first.beq second, Bool.eq_iff_iff, beq_iff_eq, beq_iff_eq, equal]

end Dated

namespace Dating

variable {moment : Option Int} {row : Row} {field : String}

/-- A filter by a relation to a bound answers for the moments; a missing one is in no relation. -/
theorem satisfies_operator (held : k.Holds moment (row.column field)) (bound : Dated k w n)
    (stored : Converter.date.toRaw w = .ok raw) (r : Relation) :
    Evaluator.default.satisfies row.columnOf (.comparison ⟨r.operator, .str field, raw⟩) =
      .ok (moment.any fun m => r.accepts (compare m n)) := by
  have opened : Evaluator.default.satisfies row.columnOf (.comparison ⟨r.operator, .str field, raw⟩) =
      Comparator.ordered r (row.column field) raw := by
    cases r <;> rfl
  obtain ⟨t, text⟩ := bound.stored
  cases stored.symm.trans text
  rw [opened]
  cases moment with
  | none =>
    rw [held]
    rfl
  | some m =>
    obtain ⟨v, dated, stored'⟩ := held
    obtain ⟨s, text'⟩ := dated.stored
    rw [Except.ok.inj (stored'.symm.trans text'), Option.any_some, ← dated.compare_text bound text' text]
    rfl

/-- A filter for equality with a value answers for the moments. -/
theorem satisfies_eq (held : k.Holds moment (row.column field)) (bound : Dated k w n)
    (stored : Converter.date.toRaw w = .ok raw) :
    Evaluator.default.satisfies row.columnOf (.comparison ⟨.eq, .str field, raw⟩) = .ok (moment == some n) := by
  obtain ⟨t, text⟩ := bound.stored
  cases stored.symm.trans text
  rw [Evaluator.satisfies_eq Evaluator.default_equates]
  cases moment with
  | none =>
    rw [held, Value.none_beq]
    rfl
  | some m =>
    obtain ⟨v, dated, stored'⟩ := held
    obtain ⟨s, text'⟩ := dated.stored
    rw [Except.ok.inj (stored'.symm.trans text'), Value.str_beq_str]
    refine congrArg Except.ok ?_
    rw [Bool.eq_iff_iff, beq_iff_eq, beq_iff_eq, dated.text_eq_iff bound text' text, Option.some_inj]

theorem Holds.text (held : k.Holds moment raw) : raw.isNone = true ∨ ∃ s, raw = .str s := by
  cases moment with
  | none => exact .inl (Value.isNone_iff.mpr held)
  | some n =>
    obtain ⟨v, dated, stored⟩ := held
    obtain ⟨s, text⟩ := dated.stored
    exact .inr ⟨s, Except.ok.inj (stored.symm.trans text)⟩

theorem precedes_eq {earlier later : Option Int} (first : k.Holds earlier v) (second : k.Holds later w)
    (order : SortOrder) : Value.precedes order v w = order.earlier earlier later := by
  cases earlier with
  | none =>
    rw [first]
    cases order <;> rfl
  | some m =>
    obtain ⟨a, dated, stored⟩ := first
    obtain ⟨s, text⟩ := dated.stored
    cases stored.symm.trans text
    cases later with
    | none =>
      rw [second]
      cases order <;> rfl
    | some n =>
      obtain ⟨b, dated', stored'⟩ := second
      obtain ⟨t, text'⟩ := dated'.stored
      cases stored'.symm.trans text'
      have less {x y : String} {i j : Int} (same : x < y ↔ i < j) :
          (Value.str x).isLess (.str y) = decide (i < j) := by
        rw [Value.isLess, Value.holds_lt_str, decide_eq_decide.mpr same]
        rfl
      cases order with
      | ascending => exact less (dated.text_lt_iff dated' text text')
      | descending => exact less (dated'.text_lt_iff dated text' text)

/-- Rows sorted by a column of dates are in the order of the moments, and as they were where these are equal. -/
theorem sortBy_sorted {rows : List Row} {moment : Row → Option Int}
    (column : ∀ row ∈ rows, k.Holds (moment row) (row.column field)) (order : SortOrder) :
    ∃ sorted, Store.sortBy ⟨field, order⟩ rows = .ok sorted ∧
      Sorting.Sorted (fun a b => order.earlier (moment a) (moment b)) (· ∈ rows) rows sorted := by
  have texts : ∀ v ∈ Store.present field rows, ∃ s, v = .str s := by
    intro v member
    obtain ⟨listed, present⟩ := List.mem_filter.mp member
    obtain ⟨row, among, rfl⟩ := List.mem_map.mp listed
    exact (column row among).text.resolve_left (by simpa using present)
  have all : ∀ row ∈ rows, Value.Among (Store.present field rows) (row.column field) :=
    fun row member => Store.among_present field member
  have total := Value.totallyOrdered_str texts
  obtain ⟨sorted, done, stable⟩ := Store.sortBy_sorted (o := ⟨field, order⟩) total all
  refine ⟨sorted, done, stable.congr all fun a ha b hb => ?_⟩
  exact precedes_eq (column a ha) (column b hb) order

/-- Days, and times of one offset or of none, are stored as texts in their own order, and a column of these is
    filtered and sorted by the moments. -/
theorem texts_chronological (first : Dated k v m) (second : Dated k w n) {rows : List Row}
    {moment : Row → Option Int} (column : ∀ row ∈ rows, k.Holds (moment row) (row.column field)) :
    ∃ s t, Converter.date.toRaw v = .ok (.str s) ∧ Converter.date.toRaw w = .ok (.str t) ∧
      v.holds .lt w = .ok (decide (s < t)) ∧ (v == w) = (s == t) ∧ (s < t ↔ m < n) ∧ (s = t ↔ m = n) ∧
      (∀ r : Relation, ∀ row ∈ rows,
        Evaluator.default.satisfies row.columnOf (.comparison ⟨r.operator, .str field, .str t⟩) =
          .ok ((moment row).any fun l => r.accepts (compare l n))) ∧
      ∀ order, ∃ sorted, Store.sortBy ⟨field, order⟩ rows = .ok sorted ∧
        Sorting.Sorted (fun a b => order.earlier (moment a) (moment b)) (· ∈ rows) rows sorted := by
  obtain ⟨s, text⟩ := first.stored
  obtain ⟨t, text'⟩ := second.stored
  obtain ⟨less, equal⟩ := first.agrees second text text'
  refine ⟨s, t, text, text', less, equal, first.text_lt_iff second text text',
    first.text_eq_iff second text text', ?_, sortBy_sorted column⟩
  exact fun r row member => satisfies_operator (column row member) second text' r

theorem eve_known : (Date.ofParts 2023 12 31).toOption.isSome = true := by decide

theorem newYear_known : (Date.ofParts 2024 1 1).toOption.isSome = true := by decide

/-- The last day of a year. -/
def eve : Date := (Date.ofParts 2023 12 31).toOption.get eve_known

/-- The first day of the next. -/
def newYear : Date := (Date.ofParts 2024 1 1).toOption.get newYear_known

/-- A column without a value and with the last day of the year. -/
def yearEnd : List Row := [[("day", .none)], [("day", .str "2023-12-31")]]

theorem texts_chronological_days :
    ∃ s t, Converter.date.toRaw (.date eve) = .ok (.str s) ∧ Converter.date.toRaw (.date newYear) = .ok (.str t) ∧
      s < t ∧ ∀ row ∈ yearEnd,
        Evaluator.default.satisfies row.columnOf (.comparison ⟨.lt, .str "day", .str t⟩) =
          .ok !(row.column "day").isNone := by
  let moment (row : Row) : Option Int := if (row.column "day").isNone then none else some eve.ordinal
  have column : ∀ row ∈ yearEnd, days.Holds (moment row) (row.column "day") := by
    intro row member
    rcases List.mem_pair.mp member with rfl | rfl
    · rfl
    · exact ⟨.date eve, .day eve, rfl⟩
  obtain ⟨s, t, text, text', -, -, less, -, filtered, -⟩ := texts_chronological (.day eve) (.day newYear) column
  refine ⟨s, t, text, text', less.mpr (by decide), fun row member => (filtered .lt row member).trans ?_⟩
  rcases List.mem_pair.mp member with rfl | rfl <;> rfl

/-- The texts of times with offsets are in the order of the local clocks, and of the offsets after that, so that a
    column of times of one offset is filtered and sorted by the instants. -/
theorem aware_texts_local {d e : DateTime} {o p : Int} (zone : d.offset = some o) (zone' : e.offset = some p)
    {rows : List Row} {moment : Row → Option Int}
    (column : ∀ row ∈ rows, (times (some p)).Holds (moment row) (row.column field)) :
    ∃ s t, Converter.date.toRaw (.datetime d) = .ok (.str s) ∧ Converter.date.toRaw (.datetime e) = .ok (.str t) ∧
      (s < t ↔ d.localTime < e.localTime ∨ d.localTime = e.localTime ∧ DateTime.compareOffsets o p = .lt) ∧
      (s = t ↔ d.localTime = e.localTime ∧ o = p) ∧
      (o = p → (Value.datetime d).holds .lt (.datetime e) = .ok (decide (s < t)) ∧
        (Value.datetime d == Value.datetime e) = (s == t)) ∧
      (∀ row ∈ rows,
        (∀ r : Relation, Evaluator.default.satisfies row.columnOf (.comparison ⟨r.operator, .str field, .str t⟩) =
          .ok ((moment row).any fun l => r.accepts (compare l e.instant))) ∧
        Evaluator.default.satisfies row.columnOf (.comparison ⟨.eq, .str field, .str t⟩) =
          .ok (moment row == some e.instant)) ∧
      ∀ order, ∃ sorted, Store.sortBy ⟨field, order⟩ rows = .ok sorted ∧
        Sorting.Sorted (fun a b => order.earlier (moment a) (moment b)) (· ∈ rows) rows sorted := by
  have order := DateTime.compare_text_aware zone zone'
  refine ⟨d.text, e.text, rfl, rfl, ?_, ?_, ?_, ?_, sortBy_sorted column⟩
  · rw [← compare_lt_iff_lt, order, Ordering.then_eq_lt, Int.compare_eq_lt, Std.LawfulEqOrd.compare_eq_iff_eq]
  · rw [← Std.LawfulEqOrd.compare_eq_iff_eq (a := d.text), order, Ordering.then_eq_eq,
      Std.LawfulEqOrd.compare_eq_iff_eq, DateTime.compareOffsets_eq_eq]
  · rintro rfl
    exact (Dated.time d zone).agrees (.time e zone') rfl rfl
  · intro row member
    have bound := Dated.time e zone'
    have stored : Converter.date.toRaw (.datetime e) = .ok (.str e.text) := rfl
    exact ⟨satisfies_operator (column row member) bound stored, satisfies_eq (column row member) bound stored⟩

theorem onNewYear_known (hour ahead : Fin 24) :
    (DateTime.ofParts newYear hour 0 0 0 (some (ahead * 3600000000))).toOption.isSome = true := by
  have bound : ∀ o ∈ some ((ahead : Int) * 3600000000), o.natAbs < 86400000000 := by
    rintro o same
    cases same
    omega
  rw [DateTime.ofParts, dif_pos bound, dif_pos hour.isLt]
  rfl

/-- A time on the first day of a year, at an offset of some hours. -/
def onNewYear (hour ahead : Fin 24) : DateTime :=
  (DateTime.ofParts newYear hour 0 0 0 (some (ahead * 3600000000))).toOption.get (onNewYear_known hour ahead)

theorem aware_texts_local_new_year :
    ∃ s t, Converter.date.toRaw (.datetime (onNewYear 10 2)) = .ok (.str s) ∧
      Converter.date.toRaw (.datetime (onNewYear 11 2)) = .ok (.str t) ∧ s < t ∧
      ∀ row ∈ [[("at", Value.str "2024-01-01T10:00:00+02:00")]],
        Evaluator.default.satisfies (Row.columnOf row) (.comparison ⟨.eq, .str "at", .str t⟩) = .ok false := by
  have column : ∀ row ∈ [[("at", Value.str "2024-01-01T10:00:00+02:00")]],
      (times (some 7200000000)).Holds (some (onNewYear 10 2).instant) (Row.column row "at") := by
    intro row member
    rw [List.mem_singleton.mp member]
    exact ⟨_, .time (onNewYear 10 2) rfl, rfl⟩
  obtain ⟨s, t, text, text', less, -, -, filtered, -⟩ :=
    aware_texts_local (d := onNewYear 10 2) (e := onNewYear 11 2) rfl rfl column
  exact ⟨s, t, text, text', less.mpr (.inl (by decide)), fun row member => (filtered row member).2⟩

/-- Noon two hours ahead of universal time is ten o'clock, which is before eleven and is another text than ten. -/
theorem aware_texts_unlike_instants :
    (Value.datetime (onNewYear 12 2)).holds .lt (.datetime (onNewYear 11 0)) = .ok true ∧
      ¬(onNewYear 12 2).text < (onNewYear 11 0).text ∧
      Evaluator.default.satisfies (Row.columnOf [("at", .str (onNewYear 12 2).text)])
        (.comparison ⟨.lt, .str "at", .str (onNewYear 11 0).text⟩) = .ok false ∧
      (Value.datetime (onNewYear 12 2) == Value.datetime (onNewYear 10 0)) = true ∧
      (onNewYear 12 2).text ≠ (onNewYear 10 0).text := by
  refine ⟨rfl, by decide, rfl, ?_, by decide⟩
  rw [Value.beq_datetime]
  rfl

end Dating

end ModelStore
