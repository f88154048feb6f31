import PooledCredit.Foreclosure.Pricing
import PooledCredit.Foreclosure.Venue
import PooledCredit.Store

/-!
# Settling a loan

When the bid window is over, the highest bid settles the loan. An unhealthy loan that nobody bid
on, or whose bid has fallen below what a venue must bring, can be sold to a venue instead. The
proceeds pay the debt; what is short is written off and what is over goes to the debtor.
-/

namespace PooledCredit

/-- What a settlement did. -/
structure Settlement where
  loan : LoanId
  /-- The part of the proceeds that paid the debt. -/
  repaid : Nat
  /-- The part of the proceeds that went to the debtor. -/
  surplus : Nat
  /-- The debt that was written off. -/
  loss : Nat
  status : LoanStatus
deriving DecidableEq

namespace Store

/-- Closes a loan against proceeds that the pool already holds; the reserve must have been
accrued. Answers the settlement with the transfers that release the surplus and the tokens. -/
def settle (store : Store) (loan : Loan) (proceeds : Nat) (winner : Option Account) (now : Nat) :
    Result (Settlement × Store × List Transfer) := do
  let debt ← (← store.ledger.reserve loan.asset).debtOf loan.scaled
  let repaid := min proceeds debt
  let (remaining, ledger) ←
    if repaid = 0 then pure (loan.scaled, store.ledger)
    else do
      let (repayment, ledger) ← store.ledger.repay loan.asset loan.scaled repaid
      pure (repayment.remaining, ledger)
  let (loss, ledger) ←
    if remaining = 0 then pure (0, ledger) else ledger.writeOff loan.asset remaining
  let surplus ← bareSub proceeds repaid
  let status : LoanStatus := if loss = 0 then .repaid else .defaulted
  let loans ← store.loans.close loan.id status now
  let pool := store.poolAccount
  let toWinner :=
    match winner with
    | some winner => Transfer.handover loan.item pool winner
    | none => []
  return (⟨loan.id, repaid, surplus, loss, status⟩, { store with ledger, loans },
    Transfer.payment loan.asset pool loan.debtor surplus ++ toWinner ++ [.burn loan.wrapped])

/-- Goes on only when a bid window is over. -/
def requireOver (deadline now : Nat) : Result Unit :=
  if now ≤ deadline then do
    let opensAt ← bareAdd clockBound deadline 1
    refuse (.windowNotOpen "liquidate" opensAt now)
  else
    .ok ()

/-- Settles the auction on a token by its highest bid, which the caller expects to be at least
`minPrice`. -/
def liquidate (store : Store) (caller : Account) (item : Item) (minPrice now : Nat) :
    Result (Outcome Settlement) := do
  let loan ← store.loans.openLoan item
  loan.requireStatus .auction
  let bid ← loan.requireBid
  let deadline ← bid.deadline (← store.collateral.config loan.item).terms.bidWindow
  requireOver deadline now
  require (minPrice ≤ bid.price) (.priceBelowMinimum bid.price minPrice)
  let store ← store.accrue loan.asset now
  let (settlement, store, transfers) ← store.settle loan bid.price (some bid.bidder) now
  let update ← store.reserveUpdate loan.asset now
  return {
    reply := settlement
    store
    effects := {
      transfers
      events :=
        [.liquidated loan.asset caller settlement.repaid settlement.surplus settlement.loss
          loan.item loan.debtor loan.id now, update] } }

/-- Whether a loan may be sold to a venue; answers the refund of its bid, if it has one. -/
def checkSale (store : Store) (loan : Loan) (config : CollateralConfig) (valuation : Valuation)
    (floor now : Nat) : Result (List Transfer) :=
  match loan.status with
  | .active => do
    require (isUnhealthy valuation.health = true) (.loanHealthy loan.id valuation.health)
    return []
  | .auction => do
    let bid ← loan.requireBid
    let deadline ← bid.deadline config.terms.bidWindow
    requireOver deadline now
    require (bid.price < floor) (.inputInvalid "nft" "auction bid covers the venue floor")
    return Transfer.payment loan.asset store.poolAccount bid.payer bid.price
  | status => refuse (.loanStatus loan.id .active status)

/-- Sells the collateral of the loan on a token to a venue. -/
def sell {O N : Type} [PriceSource O] [Venue N] (store : Store) (prices : O) (venue : N)
    (caller : Account) (item : Item) (now : Nat) : Result (Outcome Settlement × N) := do
  let loan ← store.loans.openLoan item
  let store ← store.accrue loan.asset now
  let (config, valuation) ← store.valuation prices loan.item loan.asset loan.scaled now
  let floor ← config.terms.saleFloor valuation.collateralAmount
  let refund ← checkSale store loan config valuation floor now
  let (proceeds, venue) ← Venue.sell venue loan.item loan.asset floor
  require (floor ≤ proceeds) (.priceBelowMinimum proceeds floor)
  let pool := store.poolAccount
  let buyer := Venue.account venue
  let (settlement, store, transfers) ← store.settle loan proceeds none now
  let update ← store.reserveUpdate loan.asset now
  let outcome : Outcome Settlement := {
    reply := settlement
    store
    effects := {
      transfers :=
        refund ++ Transfer.handover loan.item pool buyer ++
          Transfer.payment loan.asset buyer pool proceeds ++ transfers
      events :=
        [.sold loan.asset caller proceeds settlement.repaid settlement.surplus settlement.loss
          loan.item loan.debtor loan.id now, update] } }
  return (outcome, venue)

end Store

end PooledCredit
