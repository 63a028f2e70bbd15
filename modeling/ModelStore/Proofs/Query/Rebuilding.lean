import ModelStore.Proofs.Evaluator
import ModelStore.Proofs.Query.Issue

/-!
Every condition that the builder can hold is built by calls, depth first: a clause with parts opens a branch,
enters its parts and closes the branch. On a new query this gives the clause itself; while a branch is open its
parts are added there, and no other node of the clause changes.
-/

namespace ModelStore

/-- A comparison as the builder keeps it: of a named field, by an operator that compares, with a frozen value. -/
structure Comparison.Admitted (c : Comparison) : Prop where
  name : Query.isName c.field = true
  comparing : c.operator.isLogical = false
  frozen : Query.freezeValue c.value = c.value

namespace Clause

mutual

/-- The calls that enter a clause that is written with negations of conjunctions only. -/
def calls : Clause → List Query.Call
  | .comparison c => [.operation c.field (.operator c.operator) c.value]
  | .and cs => .openAnd :: (callsAll cs ++ [.close])
  | .or cs => .openOr :: (callsAll cs ++ [.close])
  | .not (.and cs) => .openNot :: (callsAll cs ++ [.close])
  | .not _ | .foreign _ => []

def callsAll : List Clause → List Query.Call
  | [] => []
  | c :: cs => calls c ++ callsAll cs

end

/-- The clause with other parts; those of a negated conjunction stand for the negation's. -/
def mapParts (f : List Clause → List Clause) : Clause → Clause
  | .and cs => .and (f cs)
  | .or cs => .or (f cs)
  | .not (.and cs) => .not (.and (f cs))
  | c => c

/-- The clause with other parts at the node that is reached by so many steps, each to the last part. -/
def atDepth : Nat → (List Clause → List Clause) → Clause → Clause
  | 0, f => mapParts f
  | n + 1, f => atDepth n (List.modifyLast (mapParts f))

end Clause

namespace Query

open Clause (calls callsAll mapParts atDepth)

/-- Calls one after another, up to the first that fails. -/
def perform (q : Query) (calls : List Call) : Except Error Query := calls.foldlM Call.apply q

variable {bs bs' : List Branch} {p q r : Query} {i j tip start stop : Nat} {rest : List Nat} {ks : List Child}
  {fresh : List Branch} {c : Clause} {cs ds : List Clause} {x : Comparison}

theorem perform_append (q : Query) (first more : List Call) :
    perform q (first ++ more) = (do perform (← perform q first) more) :=
  List.foldlM_append ..

theorem comparisonOperator_operator {o : Operator} (comparing : o.isLogical = false) :
    comparisonOperator (.operator o) = .ok o := by
  cases o with
  | and | or | not => cases comparing
  | _ => rfl

theorem perform_operation (admitted : x.Admitted) (q : Query) :
    perform q [.operation x.field (.operator x.operator) x.value] = q.append x := by
  have once : perform q [.operation x.field (.operator x.operator) x.value] =
      q.operation x.field (.operator x.operator) x.value := bind_pure _
  rw [once, operation, if_pos admitted.name, comparisonOperator_operator admitted.comparing, admitted.frozen]
  cases tip : q.current "operation" with
  | error e =>
    rw [append, tip]
    rfl
  | ok i => rfl

theorem perform_branch {call : Call} {opening : Query → Except Error Query} {fill : Query → Except Error Query}
    {inner : List Call} (opens : ∀ q, call.apply q = opening q) (filled : ∀ q, perform q inner = fill q)
    (q : Query) :
    perform q (call :: (inner ++ [.close])) = Filter.inBranch opening fill q := by
  rw [perform, List.foldlM_cons, opens, Filter.inBranch]
  refine bind_congr fun p => ?_
  have closed : ∀ r, perform r [.close] = r.close := fun r => bind_pure _
  rw [← filled p, ← funext closed]
  exact perform_append p inner [.close]

mutual

/-- The calls of a clause enter the clause. -/
theorem perform_calls : ∀ (c : Clause) (q : Query), c.regular = true → c.Of Comparison.Admitted →
    perform q c.calls = issue c q
  | .comparison x, q, _, .comparison admitted => perform_operation admitted q
  | .and cs, q, regular, .and each => perform_branch (fun _ => rfl) (perform_callsAll cs · regular each) q
  | .or cs, q, regular, .or each => perform_branch (fun _ => rfl) (perform_callsAll cs · regular each) q
  | .not (.and cs), q, regular, .not (.and each) =>
    perform_branch (fun _ => rfl) (perform_callsAll cs · regular each) q
  | .not (.or _), _, regular, _ => by cases regular
  | .not (.not _), _, regular, _ => by cases regular
  | .not (.comparison _), _, regular, _ => by cases regular
  | .not (.foreign _), _, regular, _ => by cases regular
  | .foreign _, _, regular, _ => by cases regular

theorem perform_callsAll : ∀ (cs : List Clause) (q : Query), Clause.regularAll cs = true →
    (∀ c ∈ cs, c.Of Comparison.Admitted) → perform q (callsAll cs) = issueAll cs q
  | [], _, _, _ => rfl
  | c :: cs, q, regular, each => by
    obtain ⟨here, there⟩ := Bool.and_eq_true_iff.mp regular
    obtain ⟨first, others⟩ := List.forall_mem_cons.mp each
    rw [callsAll, perform_append, perform_calls c q here first, issueAll]
    exact bind_congr fun r => perform_callsAll cs r there others

end

/-! What an addition at the innermost open branch makes of the whole clause. -/

theorem Branch.mapParts_clause (b : Branch) (f : List Clause → List Clause) (cs : List Clause) :
    (b.clause cs).mapParts f = b.clause (f cs) := by
  unfold Branch.clause
  split <;> rfl

/-- A single part keeps its place when the parts of its branch change. -/
theorem SpansAll.mapParts {k : Child} (h : SpansAll bs start stop [k] cs) (target : k.target? = some j) :
    start = j ∧ ∃ d e, Spans bs j stop d ∧ cs = [e] ∧
      ∀ (bs' : List Branch) (stop' : Nat) (f : List Clause → List Clause),
        Spans bs' j stop' (d.mapParts f) → SpansAll bs' j stop' [k] [e.mapParts f] := by
  cases h with
  | leaf rest => cases target
  | branch head rest =>
    cases rest
    cases target
    exact ⟨rfl, _, _, head, rfl, fun _ _ _ there => .branch there .nil⟩
  | negated head rest =>
    cases rest
    cases target
    exact ⟨rfl, _, _, head, rfl, fun _ _ _ there => .negated there .nil⟩

/-- A change at the tip of the spine is a change as many steps below the root as branches are open around the tip. -/
theorem Spine.atDepth (spine : Spine bs (tip :: rest)) (whole : Spans bs 0 bs.length c) :
    ∃ d, Spans bs tip bs.length d ∧ ∀ (bs' : List Branch) (f : List Clause → List Clause),
      (∀ x, x < tip → bs'[x]? = bs[x]?) → Spans bs' tip bs'.length (d.mapParts f) →
      Spans bs' 0 bs'.length (c.atDepth rest.length f) := by
  induction rest generalizing tip with
  | nil =>
    cases spine with
    | root => exact ⟨c, whole, fun _ _ _ there => there⟩
  | cons i rest ih =>
    cases spine with
    | down found children target later above =>
      obtain ⟨e, around, lift⟩ := ih above
      cases around with
      | node found' parts shape =>
        cases found.symm.trans found'
        rw [children] at parts
        obtain ⟨next, front, back, rfl, first, second⟩ := parts.split
        obtain ⟨rfl, d, last, here, rfl, replace⟩ := second.mapParts target
        refine ⟨d, here, fun bs' f same there => ?_⟩
        subst shape
        refine lift bs' _ (fun x before => same x (Nat.lt_trans before later)) ?_
        rw [Branch.mapParts_clause, List.modifyLast_concat]
        refine .node ((same i later).trans found) ?_ rfl
        rw [children]
        exact (first.agree fun x _ before => same x before).append (replace bs' bs'.length f there)

theorem Spans.append_parts (h : Spans bs tip bs.length c)
    (new : SpansAll (extended bs tip ks fresh) bs.length (extended bs tip ks fresh).length ks ds) :
    Spans (extended bs tip ks fresh) tip (extended bs tip ks fresh).length (c.mapParts (· ++ ds)) := by
  cases h with
  | node found parts shape =>
    subst shape
    rw [Branch.mapParts_clause]
    refine .node (extended_tip ks fresh found) (SpansAll.append (parts.agree ?_) new) rfl
    exact fun x low high => extended_other high (by omega)

/-- Clauses that are gained at the innermost open branch are the last parts of its node, and nothing else changes. -/
theorem Gains.atDepth (gained : Gains q r i cs) (wf : q.WellFormed) (tip : q.stack = i :: rest) :
    r.whereClause = q.whereClause.atDepth rest.length (· ++ cs) := by
  obtain none | spine := wf.spine
  · cases none.symm.trans tip
  rw [tip] at spine
  have inside := spine.tip_lt wf.spans
  obtain ⟨d, here, lift⟩ := spine.atDepth wf.spans
  obtain ⟨ks, fresh, branches, spans⟩ := gained.branches
  rw [branches] at spans
  have there := here.append_parts spans
  rw [← branches] at there
  have before : ∀ x, x < i → r.branches[x]? = q.branches[x]? := fun x low => by
    rw [branches]
    exact extended_other (Nat.lt_trans low inside) (Nat.ne_of_lt low)
  exact (lift r.branches _ before there).freeze (by omega)

/-- The calls for the parts of a conjunction, on a new query and while a branch is open. -/
theorem perform_rebuilds (branches : p.branches = [{}]) (stack : p.stack = [])
    (regular : (Clause.and cs).regular = true) (admitted : (Clause.and cs).Of Comparison.Admitted) :
    (∃ r, perform p (.restart :: callsAll cs) = .ok r ∧ r.stack = [0] ∧ r.whereClause = .and cs) ∧
      ∀ before i rest, (p.run before).stack = i :: rest →
        ∃ r, perform (p.run before) (callsAll cs) = .ok r ∧ r = { p.run before with branches := r.branches } ∧
          (∃ ks fresh, r.branches = extended (p.run before).branches i ks fresh) ∧
          r.whereClause = (p.run before).whereClause.atDepth rest.length (· ++ cs) := by
  have fresh := WellFormed.of_fresh branches stack
  have each : ∀ c ∈ cs, c.Of Comparison.Admitted := by
    cases admitted with
    | and each => exact each
  have entered : ∀ {q : Query} {i rest}, q.WellFormed → q.stack = i :: rest →
      ∃ r, perform q (callsAll cs) = .ok r ∧ Gains q r i cs := by
    intro q i rest wf tip
    obtain none | spine := wf.spine
    · cases none.symm.trans tip
    rw [tip] at spine
    rw [perform_callsAll cs q regular each]
    exact issueAll_gains cs tip (spine.tip_lt wf.spans) regular
  constructor
  · have wf := (Advances.restart fresh).wf
    obtain ⟨r, done, gained⟩ := entered wf rfl
    refine ⟨r, done, by rw [gained.frame]; rfl, ?_⟩
    rw [gained.atDepth wf rfl]
    have empty : p.restart.whereClause = .and [] := by
      rw [whereClause, restart, branches]
      rfl
    rw [empty]
    rfl
  · intro before i rest tip
    have wf := (fresh.run before).wf
    obtain ⟨r, done, gained⟩ := entered wf tip
    obtain ⟨ks, new, extended, -⟩ := gained.branches
    exact ⟨r, done, gained.frame, ⟨ks, new, extended⟩, gained.atDepth wf tip⟩

/-- A query on a collection that has not been filtered yet. -/
def newQuery : Query := { collection := { id := 0, name := "pets" }, label := "p" }

/-- Pets of one of two kinds that are not both old and nameless. -/
def wanted : List Clause :=
  [.or [.comparison ⟨.eq, .str "kind", .str "cat"⟩, .comparison ⟨.isIn, .str "kind", .tuple [.str "dog"]⟩],
    .not (.and [.comparison ⟨.gt, .str "age", .int 9⟩, .comparison ⟨.eq, .str "name", .none⟩])]

theorem perform_rebuilds_pets :
    ∃ r s, perform newQuery (.restart :: callsAll wanted) = .ok r ∧ r.whereClause = .and wanted ∧
      perform (newQuery.run [.restart, .openOr, .close, .openOr]) (callsAll wanted) = .ok s ∧
      s.whereClause = .and [.or [], .or wanted] := by
  have pair : ∀ {P : Clause → Prop} {c d : Clause}, P c → P d → ∀ e ∈ [c, d], P e :=
    fun first second => List.forall_mem_cons.mpr ⟨first, List.forall_mem_singleton.mpr second⟩
  have admitted : (Clause.and wanted).Of Comparison.Admitted := by
    refine .and (pair (.or (pair ?_ ?_)) (.not (.and (pair ?_ ?_))))
    all_goals exact .comparison ⟨rfl, rfl, rfl⟩
  obtain ⟨⟨r, done, -, clause⟩, opened⟩ := perform_rebuilds (p := newQuery) rfl rfl rfl admitted
  obtain ⟨s, done', -, -, clause'⟩ := opened [.restart, .openOr, .close, .openOr] 2 [0] rfl
  exact ⟨r, s, done, clause, done', clause'⟩

end Query

end ModelStore
