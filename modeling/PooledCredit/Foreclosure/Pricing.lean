import PooledCredit.Collateral.Valuation
import PooledCredit.Loan.Basic

/-!
# Prices of collateral

What a bid on the collateral of an unhealthy loan must reach, the fine that its bidder gets when
the debtor redeems, and the least that a sale to an outside venue must bring.
-/

namespace PooledCredit

namespace CollateralTerms

/-- The fine for redeeming: a share of the debt, but not less than the least fine. -/
def redeemFine (terms : CollateralTerms) (debt price decimals : Nat) : Result Nat := do
  let share ← shareOf .down debt terms.fine
  let least ← amountWorth .down terms.minFine price decimals
  return max share least

/-- The least first bid: the collateral at the liquidation threshold less the bonus, but not less
than the debt. -/
def firstBid (terms : CollateralTerms) (collateral debt : Nat) : Result Nat := do
  let weighted ← shareOf .down collateral terms.threshold
  let discounted ← shareOf .down weighted (← bareSub fullShare terms.bonus)
  return max discounted debt

/-- The least that a sale to a venue must bring: the collateral less the bonus. -/
def saleFloor (terms : CollateralTerms) (collateral : Nat) : Result Nat := do
  shareOf .down collateral (← bareSub fullShare terms.bonus)

end CollateralTerms

/-- The least amount by which a bid must be raised. -/
def bidStep (bid increment : Nat) : Result Nat := do
  return max (← shareOf .up bid increment) 1

namespace Bid

/-- When a window that opened with the first bid closes. -/
def deadline (bid : Bid) (window : Nat) : Result Nat := fitClock (bid.startedAt + window)

end Bid

end PooledCredit
