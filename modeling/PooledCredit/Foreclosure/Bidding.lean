import PooledCredit.Foreclosure.Pricing
import PooledCredit.Loan.Borrowing

/-!
# Bidding and redeeming

A first bid on an unhealthy loan puts it under auction and starts two windows. While the bid
window is open anyone may bid more, and the bid before is refunded in full. While the redeem
window is open anyone may pay for the debtor to take the loan back out of auction; the bidder then
gets the bid back with the fine that was set at the first bid.
-/

namespace PooledCredit

/-- What a redeem did. -/
structure RedeemReply where
  repaid : Nat
  fine : Nat
  closed : Bool
deriving DecidableEq

namespace Store

/-- The caller bids a price for the collateral of the loan on a token, to be received by the
bidder. -/
def bid {O : Type} [PriceSource O] (store : Store) (prices : O) (caller : Account) (item : Item)
    (price : Nat) (bidder : Account) (now : Nat) : Result (Outcome Unit) := do
  require (price ≠ 0) .zeroAmount
  let loan ← store.loans.openLoan item
  let store ← store.accrue loan.asset now
  let (config, valuation) ← store.valuation prices loan.item loan.asset loan.scaled now
  let decimals := (← store.ledger.reserve loan.asset).decimals
  let pool := store.poolAccount
  let (startedAt, fine, refund) ←
    match loan.status with
    | .active => do
      require (isUnhealthy valuation.health = true) (.loanHealthy loan.id valuation.health)
      let required ← config.terms.firstBid valuation.collateralAmount valuation.debt
      require (required ≤ price) (.bidTooLow price required)
      let fine ← config.terms.redeemFine valuation.debt valuation.price decimals
      pure (now, fine, [])
    | .auction => do
      let previous ← loan.requireBid
      let deadline ← previous.deadline config.terms.bidWindow
      require (now ≤ deadline) (.windowClosed "auction" deadline now)
      let step ← bidStep previous.price store.settings.bidIncrement
      let required := max (← addAmount previous.price step) valuation.debt
      require (required ≤ price) (.bidTooLow price required)
      pure (previous.startedAt, previous.fine,
        Transfer.payment loan.asset pool previous.payer previous.price)
    | status => refuse (.loanStatus loan.id .active status)
  let bid : Bid := ⟨bidder, caller, price, valuation.debt, fine, startedAt⟩
  let loans :=
    store.loans.setLoan { loan with status := .auction, bid := some bid, updatedAt := now }
  let store := { store with loans }
  let update ← store.reserveUpdate loan.asset now
  return {
    reply := ()
    store
    effects := {
      transfers := refund ++ Transfer.payment loan.asset caller pool price
      events :=
        [.bidPlaced loan.asset caller price bidder loan.item loan.debtor loan.id now,
          update] } }

/-- Refuses a redeem that pays part of the debt but more than the largest share, or that leaves
the debt at or above the redeem threshold. -/
def checkRedeem (settings : Settings) (terms : CollateralTerms) (valuation : Valuation)
    (decimals pay : Nat) : Result Unit :=
  if pay < valuation.debt then do
    let most ← shareOf .down valuation.debt settings.maxRedeemShare
    require (pay ≤ most) (.amountInvalid pay "redeem above max share of debt")
    let rest ← bareSub valuation.debt pay
    let remaining ← worthOf .up rest valuation.price decimals
    let limit ← shareOf .down valuation.collateralValue terms.redeemThreshold
    require (remaining < limit) (.redeemTooSmall remaining limit)
  else
    .ok ()

/-- The caller pays up to an amount of the debt on a token, and the fine, to take the loan out of
auction; a fine above `maxFine` is not accepted. -/
def redeem {O : Type} [PriceSource O] (store : Store) (prices : O) (caller : Account)
    (item : Item) (amount maxFine now : Nat) : Result (Outcome RedeemReply) := do
  require (amount ≠ 0) .zeroAmount
  let loan ← store.loans.openLoan item
  loan.requireStatus .auction
  let bid ← loan.requireBid
  let deadline ← bid.deadline (← store.collateral.config loan.item).terms.redeemWindow
  require (now ≤ deadline) (.windowClosed "redeem" deadline now)
  let store ← store.accrue loan.asset now
  let (config, valuation) ← store.valuation prices loan.item loan.asset loan.scaled now
  let decimals := (← store.ledger.reserve loan.asset).decimals
  require (bid.fine ≤ maxFine) (.fineTooLow maxFine bid.fine)
  let pay := paymentFor store.settings valuation.debt amount
  checkRedeem store.settings config.terms valuation decimals pay
  let (repayment, ledger) ← store.ledger.repay loan.asset loan.scaled pay
  let closed : Bool := repayment.remaining == 0
  let pool := store.poolAccount
  let total ← addAmount repayment.paid bid.fine
  let loans ←
    store.loans.payDown { loan with status := .active, bid := none } repayment.remaining now
  let store := { store with ledger, loans }
  let update ← store.reserveUpdate loan.asset now
  return {
    reply := ⟨repayment.paid, bid.fine, closed⟩
    store
    effects := {
      transfers :=
        Transfer.payment loan.asset caller pool total ++
          Transfer.payment loan.asset pool bid.payer bid.price ++
            Transfer.payment loan.asset pool bid.bidder bid.fine ++
              store.release loan closed
      events :=
        [.redeemed loan.asset caller repayment.paid bid.fine loan.item loan.debtor loan.id now,
          update] } }

end Store

end PooledCredit
