import ModelStore.Proofs.Query.Preorder

/-!
How clauses grow. A clause extends another one when it has the same parts at every node and maybe
more after them. Children are only ever added to the innermost open branch, which is the last part
of the last part and so on, so what is added comes after all that was there.
-/

namespace ModelStore

namespace Clause

mutual

/-- The comparisons of a clause, from left to right. -/
def comparisons : Clause → List Comparison
  | .and cs | .or cs => comparisonsAll cs
  | .not c => comparisons c
  | .comparison c => [c]
  | .foreign _ => []

def comparisonsAll : List Clause → List Comparison
  | [] => []
  | c :: cs => comparisons c ++ comparisonsAll cs

end

mutual

/-- Under a negation there are conjunctions only, and nothing is foreign. -/
def regular : Clause → Bool
  | .and cs | .or cs => regularAll cs
  | .not (.and cs) => regularAll cs
  | .not _ => false
  | .comparison _ => true
  | .foreign _ => false

def regularAll : List Clause → Bool
  | [] => true
  | c :: cs => regular c && regularAll cs

end

mutual

/-- At every node the parts of the first clause are the first parts of the second. -/
inductive Extends : Clause → Clause → Prop where
  | and {cs cs' : List Clause} : ExtendsAll cs cs' → Extends (.and cs) (.and cs')
  | or {cs cs' : List Clause} : ExtendsAll cs cs' → Extends (.or cs) (.or cs')
  | not {c c' : Clause} : Extends c c' → Extends (.not c) (.not c')
  | comparison (c : Comparison) : Extends (.comparison c) (.comparison c)
  | foreign (v : Value) : Extends (.foreign v) (.foreign v)

inductive ExtendsAll : List Clause → List Clause → Prop where
  | nil (cs : List Clause) : ExtendsAll [] cs
  | cons {c c' : Clause} {cs cs' : List Clause} :
    Extends c c' → ExtendsAll cs cs' → ExtendsAll (c :: cs) (c' :: cs')

end

mutual

theorem Extends.refl : ∀ c : Clause, Extends c c
  | .and cs => .and (ExtendsAll.refl cs)
  | .or cs => .or (ExtendsAll.refl cs)
  | .not c => .not (Extends.refl c)
  | .comparison c => .comparison c
  | .foreign v => .foreign v

theorem ExtendsAll.refl : ∀ cs : List Clause, ExtendsAll cs cs
  | [] => .nil []
  | c :: cs => .cons (Extends.refl c) (ExtendsAll.refl cs)

end

mutual

theorem Extends.trans {c d e : Clause} : Extends c d → Extends d e → Extends c e
  | .and h, .and h' => .and (ExtendsAll.trans h h')
  | .or h, .or h' => .or (ExtendsAll.trans h h')
  | .not h, .not h' => .not (Extends.trans h h')
  | .comparison c, .comparison _ => .comparison c
  | .foreign v, .foreign _ => .foreign v

theorem ExtendsAll.trans {cs ds es : List Clause} :
    ExtendsAll cs ds → ExtendsAll ds es → ExtendsAll cs es
  | .nil _, _ => .nil es
  | .cons h t, .cons h' t' => .cons (Extends.trans h h') (ExtendsAll.trans t t')

end

theorem ExtendsAll.append (cs : List Clause) {ds es : List Clause} (h : ExtendsAll ds es) :
    ExtendsAll (cs ++ ds) (cs ++ es) := by
  induction cs with
  | nil => exact h
  | cons c cs ih => exact .cons (Extends.refl c) ih

theorem ExtendsAll.more (cs ds : List Clause) : ExtendsAll cs (cs ++ ds) := by
  simpa only [List.append_nil] using ExtendsAll.append cs (.nil ds)

theorem comparisonsAll_append (cs ds : List Clause) :
    comparisonsAll (cs ++ ds) = comparisonsAll cs ++ comparisonsAll ds := by
  induction cs with
  | nil => rfl
  | cons c cs ih => simp only [List.cons_append, comparisonsAll, ih, List.append_assoc]

/-- The second clause extends the first and holds these comparisons more, after all others. -/
structure Grows (added : List Comparison) (c d : Clause) : Prop where
  keeps : Extends c d
  adds : d.comparisons = c.comparisons ++ added

namespace Grows

variable {added : List Comparison} {c d : Clause}

theorem refl : Grows [] c c := ⟨Extends.refl c, (List.append_nil _).symm⟩

theorem not (h : Grows added c d) : Grows added (.not c) (.not d) := ⟨.not h.keeps, h.adds⟩

theorem clause {b : Branch} {cs ds : List Clause} (keeps : ExtendsAll cs ds)
    (adds : comparisonsAll ds = comparisonsAll cs ++ added) :
    Grows added (b.clause cs) (b.clause ds) := by
  unfold Branch.clause
  split
  · exact ⟨.or keeps, adds⟩
  · exact ⟨.and keeps, adds⟩

theorem last {b : Branch} {cs : List Clause} (h : Grows added c d) :
    Grows added (b.clause (cs ++ [c])) (b.clause (cs ++ [d])) := by
  refine clause (.append cs (.cons h.keeps (.nil []))) ?_
  simp only [comparisonsAll_append, comparisonsAll, List.append_nil, h.adds, List.append_assoc]

theorem more {b : Branch} {cs ds : List Clause} :
    Grows (comparisonsAll ds) (b.clause cs) (b.clause (cs ++ ds)) :=
  clause (.more cs ds) (comparisonsAll_append cs ds)

theorem of_and {cs : List Clause} (h : Grows added (.and cs) d) : ∃ ds, d = .and ds := by
  obtain ⟨keeps, adds⟩ := h
  cases keeps with
  | and _ => exact ⟨_, rfl⟩

end Grows

end Clause

end ModelStore
