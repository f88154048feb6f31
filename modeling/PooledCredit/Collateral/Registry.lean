import PooledCredit.Collateral.Terms
import PooledCredit.SortedMap

/-!
# The collateral registry

Terms are laid down for each collection and may be overridden for single tokens. The switches of
a collection apply to all of its tokens, overridden or not. While loans are open on a collection
its terms can only be changed in their favour.
-/

namespace PooledCredit

/-- Terms that hold for a single token. -/
structure TokenTerms where
  terms : CollateralTerms
  changedAt : Nat
deriving DecidableEq, Inhabited

/-- Which collections and tokens are accepted, and on which terms. -/
structure CollateralRegistry where
  collections : SortedMap Collection CollateralConfig := ∅
  tokens : SortedMap Item TokenTerms := ∅
deriving DecidableEq, Inhabited

namespace CollateralRegistry

/-- What holds for a collection. -/
def collection (registry : CollateralRegistry) (collection : Collection) :
    Result CollateralConfig :=
  orRefuse (registry.collections.get? collection) (.collateralUnknown collection)

/-- Stores what holds for a collection. -/
def setCollection (registry : CollateralRegistry) (collection : Collection)
    (config : CollateralConfig) : CollateralRegistry :=
  { registry with collections := registry.collections.insert collection config }

/-- What holds for a token: the terms of the token if there are any, and the switches of its
collection. -/
def config (registry : CollateralRegistry) (item : Item) : Result CollateralConfig := do
  let base ← registry.collection item.collection
  match registry.tokens.get? item with
  | some token =>
    return { base with
      terms := token.terms
      changedAt := max token.changedAt base.changedAt }
  | none => return base

/-- Refuses terms that are worse for the loans that are open on a collection. -/
def protectLoans (collection : Collection) (openLoans : Nat) (now next : CollateralTerms) :
    Result Unit :=
  require (openLoans = 0 ∨ ¬ now.Worsens next) (.collateralInUse collection openLoans)

/-- Lays down the terms of a collection. A new collection is active and not frozen. -/
def configureCollection (registry : CollateralRegistry) (collection : Collection)
    (terms : CollateralTerms) (openLoans now : Nat) : Result CollateralRegistry := do
  terms.validate
  match registry.collections.get? collection with
  | some config =>
    protectLoans collection openLoans config.terms terms
    return registry.setCollection collection { config with terms, changedAt := now }
  | none =>
    return registry.setCollection collection
      { terms, active := true, frozen := false, changedAt := now }

/-- Lays down terms for a single token of a known collection. -/
def configureToken (registry : CollateralRegistry) (item : Item) (terms : CollateralTerms)
    (openLoans now : Nat) : Result CollateralRegistry := do
  terms.validate
  protectLoans item.collection openLoans (← registry.config item).terms terms
  return { registry with tokens := registry.tokens.insert item { terms, changedAt := now } }

/-- Lays down terms for a collection, or for one of its tokens. -/
def configure (registry : CollateralRegistry) (collection : Collection) (token : Option Nat)
    (terms : CollateralTerms) (openLoans now : Nat) : Result CollateralRegistry :=
  match token with
  | none => registry.configureCollection collection terms openLoans now
  | some token => registry.configureToken ⟨collection, token⟩ terms openLoans now

/-- Accepts a collection as collateral or stops doing so; it cannot stop while loans are open. -/
def setActive (registry : CollateralRegistry) (collection : Collection) (active : Bool)
    (openLoans now : Nat) : Result CollateralRegistry := do
  require (active = true ∨ openLoans = 0) (.collateralInUse collection openLoans)
  return registry.setCollection collection
    { ← registry.collection collection with active, changedAt := now }

/-- Stops or resumes new loans against a collection. -/
def setFrozen (registry : CollateralRegistry) (collection : Collection) (frozen : Bool)
    (now : Nat) : Result CollateralRegistry := do
  return registry.setCollection collection
    { ← registry.collection collection with frozen, changedAt := now }

/-- Goes on only if a token can back a new loan, given how many loans are open on its
collection. -/
def requireBorrowable (registry : CollateralRegistry) (item : Item) (openLoans : Nat) :
    Result CollateralConfig := do
  let config ← registry.config item
  require (config.active = true) (.collateralInactive item.collection)
  require (config.frozen = false) (.collateralFrozen item.collection)
  require (config.terms.maxToken = 0 ∨ item.token ≤ config.terms.maxToken)
    (.tokenOutOfRange item.token config.terms.maxToken)
  require (config.terms.maxLoans = 0 ∨ openLoans < config.terms.maxLoans)
    (.inputInvalid "collection" "max supply of open loans reached")
  return config

end CollateralRegistry

end PooledCredit
