import ModelStore.Proofs.Mapping.Equivalents
import ModelStore.Proofs.Workspace.Paging

/-!
Filters that find the same instances. What a search lists is what its rows are restored as, and fails as the first of
them that cannot be restored, so that equivalent filters are listed alike.
-/

namespace ModelStore

open ModelStore.Filter (one)

namespace Run

variable {w : Workspace} {m : Mapping} {ref : CollectionRef} {s : Store} {evaluator : Option Nat} {id inner : Nat}
  {filter options v a b : Value} {documents : List Value} {x : Error}

end Run

end ModelStore
