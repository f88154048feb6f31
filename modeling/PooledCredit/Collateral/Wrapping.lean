import PooledCredit.Refusal
import PooledCredit.SortedMap

/-!
# Wrapped collections

While a token is in custody, its debtor holds a wrapped token with the same number in another
collection. Each collection has at most one wrapped collection, which never changes.
-/

namespace PooledCredit

/-- The wrapped collection of each collection. -/
structure Wrappers where
  wrapped : SortedMap Collection Collection := ∅
deriving DecidableEq, Inhabited

namespace Wrappers

/-- The wrapped collection of a collection. -/
def wrappedOf (wrappers : Wrappers) (collection : Collection) : Option Collection :=
  wrappers.wrapped.get? collection

/-- Names the wrapped collection of a collection that has none. -/
def register (wrappers : Wrappers) (collection wrapped : Collection) : Result Wrappers := do
  require (collection ≠ wrapped)
    (.inputInvalid "wrapped" "wrapper must differ from collection")
  require (wrappers.wrapped.contains collection = false)
    (.inputInvalid "collection" "wrapper already registered")
  return { wrappers with wrapped := wrappers.wrapped.insert collection wrapped }

/-- The wrapped token of a token. -/
def wrap (wrappers : Wrappers) (item : Item) : Result Item := do
  let collection ←
    orRefuse (wrappers.wrappedOf item.collection) (.wrapperUnknown item.collection)
  return ⟨collection, item.token⟩

end Wrappers

end PooledCredit
