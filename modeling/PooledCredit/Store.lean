import PooledCredit.Collateral.Registry
import PooledCredit.Collateral.Wrapping
import PooledCredit.Effect
import PooledCredit.Collateral.Valuation
import PooledCredit.Loan.Book
import PooledCredit.Reserve.Ledger
import PooledCredit.Settings.Basic

/-!
# The store

The store is everything the pool keeps about lending: its settings, the reserve ledger, the
collateral registry, the loan book, the listing board and the wrapped collections. A request
takes a store to an `Outcome`: its answer, the new store, and the effects it asks for.
-/

namespace PooledCredit

/-- Everything the pool keeps about lending. -/
structure Store where
  settings : Settings
  ledger : Ledger
  collateral : CollateralRegistry
  loans : LoanBook
  board : ListingBoard
  wrappers : Wrappers
deriving DecidableEq

/-- The answer to a request, the store after it, and its effects. -/
structure Outcome (ρ : Type) where
  reply : ρ
  store : Store
  effects : Effects

namespace Store

/-- An empty store with the given settings. -/
def create (settings : Settings) : Result Store := do
  settings.validate
  return {
    settings
    ledger := { treasury := settings.treasury }
    collateral := {}
    loans := {}
    board := {}
    wrappers := {} }

/-- The account that holds liquidity, locked bids and collateral. -/
def poolAccount (store : Store) : Account := store.settings.poolAccount

/-- The event that tells the present rates and indices of a reserve. -/
def reserveUpdate (store : Store) (asset : Asset) (now : Nat) : Result Event := do
  let reserve ← store.ledger.reserve asset
  return .reserveUpdated asset reserve.supplyRate reserve.borrowRate reserve.supplyIndex
    reserve.debtIndex now

/-- Accrues interest on a reserve. -/
def accrue (store : Store) (asset : Asset) (now : Nat) : Result Store := do
  let (_, ledger) ← store.ledger.accrue asset now
  return { store with ledger }

/-- What holds for the collateral of a loan, and the loan's valuation. -/
def valuation {O : Type} [PriceSource O] (store : Store) (prices : O) (item : Item)
    (asset : Asset) (scaled now : Nat) : Result (CollateralConfig × Valuation) := do
  let config ← store.collateral.config item
  let reserve ← store.ledger.reserve asset
  let valuation ←
    Valuation.of prices reserve config.terms item scaled now store.settings.maxPriceAge
  return (config, valuation)

end Store

end PooledCredit
