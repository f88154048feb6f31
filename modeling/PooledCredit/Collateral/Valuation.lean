import PooledCredit.Collateral.Terms
import PooledCredit.Price.Quote
import PooledCredit.Reserve.Basic

/-!
# Valuation of a loan

A valuation weighs a token against a scaled debt at fresh prices. Its health is the collateral's
value at the liquidation threshold over the value of the debt, as a wad; below one the loan can
be auctioned. Debt rounds up and ratios round down, so no loan is read as healthier than it is.
-/

namespace PooledCredit

/-- The health of a loan without debt. -/
def maxHealth : Nat := maxAmount

/-- The health of a loan whose collateral and debt have the given values. -/
def healthOf (collateral debt threshold : Nat) : Result Nat :=
  if debt = 0 then
    .ok maxHealth
  else do
    mulDiv .down (← shareOf .down collateral threshold) wad debt

/-- The debt's value as a share of the collateral's, in basis points. -/
def loanToValue (debt collateral : Nat) : Result Nat :=
  if debt = 0 then
    .ok 0
  else if collateral = 0 then
    .ok maxClock
  else do
    return min (← mulDiv .down debt fullShare collateral) maxClock

/-- What may still be borrowed, in base units. -/
def capacityOf (collateral debt ltv : Nat) : Result Nat := do
  return (← shareOf .down collateral ltv) - debt

/-- Whether a loan of this health can be auctioned. -/
def isUnhealthy (health : Nat) : Bool := decide (health < wad)

/-- A token weighed against a debt at one moment. -/
structure Valuation where
  /-- The token's value in base units. -/
  collateralValue : Nat
  /-- The token's value in units of the reserve's asset. -/
  collateralAmount : Nat
  /-- The debt in units of the reserve's asset. -/
  debt : Nat
  /-- The debt's value in base units. -/
  debtValue : Nat
  /-- The price of the reserve's asset. -/
  price : Nat
  ltv : Nat
  health : Nat
  /-- What may still be borrowed, in units of the reserve's asset. -/
  capacity : Nat
deriving DecidableEq, Inhabited

/-- Weighs a token against a scaled debt, with interest up to the given moment. -/
def Valuation.of {O : Type} [PriceSource O] (prices : O) (reserve : Reserve)
    (terms : CollateralTerms) (item : Item) (scaled now maxAge : Nat) : Result Valuation := do
  let collateralValue ← itemPrice prices item now maxAge
  let price ← assetPrice prices reserve.asset now maxAge
  let index ← reserve.debtIndexAt now
  let debt ← rayMul .up scaled index
  let debtValue ← worthOf .up debt price reserve.decimals
  let collateralAmount ← amountWorth .down collateralValue price reserve.decimals
  let capacityValue ← capacityOf collateralValue debtValue terms.ltv
  let capacity ← amountWorth .down capacityValue price reserve.decimals
  let ltv ← loanToValue debtValue collateralValue
  let health ← healthOf collateralValue debtValue terms.threshold
  return {
    collateralValue
    collateralAmount
    debt
    debtValue
    price
    ltv
    health
    capacity }

end PooledCredit
