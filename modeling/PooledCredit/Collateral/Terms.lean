import PooledCredit.FixedPoint

/-!
# Collateral terms

The terms on which a token is accepted as collateral: how much may be borrowed against it, when
it can be auctioned, and how the auction runs. Accepted terms keep the loan-to-value ratio at or
below the liquidation threshold and the redeem window inside the bidding window.
-/

namespace PooledCredit

/-- No liquidation bonus may exceed this (50%). -/
def maxBonus : Nat := 5000

/-- No redeem fine may exceed this (20%). -/
def maxFine : Nat := 2000

/-- No bidding window may be longer than this (30 days). -/
def maxWindow : Nat := 30 * day

/-- The terms on which a token is accepted as collateral. -/
structure CollateralTerms where
  /-- The share of the collateral's value that may be borrowed. -/
  ltv : Nat := 4000
  /-- The share of the collateral's value that the debt must not exceed. -/
  threshold : Nat := 8000
  /-- The discount at which collateral may be bought. -/
  bonus : Nat := 500
  /-- The seconds after the first bid in which the debtor may redeem. -/
  redeemWindow : Nat := hour
  /-- The seconds after the first bid in which others may bid more. -/
  bidWindow : Nat := 2 * hour
  /-- The share of the debt that the bidder gets when the debtor redeems. -/
  fine : Nat := 500
  /-- The share of the collateral's value below which a redeem must bring the debt. -/
  redeemThreshold : Nat := 5000
  /-- The least fine, in base units. -/
  minFine : Nat := 200000000000000000
  /-- The most loans that may be open on the collection; zero for no limit. -/
  maxLoans : Nat := 0
  /-- The highest accepted token number; zero for no limit. -/
  maxToken : Nat := 0
deriving DecidableEq, Inhabited

namespace CollateralTerms

/-- Accepts terms whose shares and windows are within bounds and fit together. -/
def validate (terms : CollateralTerms) : Result Unit := do
  require (terms.threshold < fullShare)
    (.configInvalid "liquidation threshold must be below 100%")
  require (terms.ltv ≤ terms.threshold) (.configInvalid "ltv above liquidation threshold")
  require (terms.bonus ≤ maxBonus) (.configInvalid "liquidation bonus too large")
  require (terms.fine ≤ maxFine) (.configInvalid "redeem fine too large")
  require (terms.redeemThreshold ≠ 0 ∧ terms.redeemThreshold ≤ terms.threshold)
    (.configInvalid "redeem threshold must be in (0, liquidation threshold]")
  require (terms.redeemWindow ≠ 0 ∧ terms.bidWindow ≠ 0)
    (.configInvalid "durations must be positive")
  require (terms.bidWindow ≤ maxWindow) (.configInvalid "auction duration too long")
  require (terms.redeemWindow ≤ terms.bidWindow)
    (.configInvalid "redeem window longer than auction")

/-- Whether the terms `next` would be worse for a loan that was opened on the terms `now`: closer
to an auction, with shorter windows, a harder redeem or a cheaper sale. -/
def Worsens (now next : CollateralTerms) : Prop :=
  next.threshold < now.threshold ∨ next.redeemWindow < now.redeemWindow ∨
    next.bidWindow < now.bidWindow ∨ next.redeemThreshold < now.redeemThreshold ∨
    now.fine < next.fine ∨ now.minFine < next.minFine ∨ now.bonus < next.bonus

instance (now next : CollateralTerms) : Decidable (Worsens now next) := by
  unfold Worsens
  infer_instance

end CollateralTerms

/-- What holds for a token or a collection that is accepted as collateral. -/
structure CollateralConfig where
  terms : CollateralTerms
  active : Bool
  frozen : Bool
  /-- When the terms or switches last changed. -/
  changedAt : Nat
deriving DecidableEq, Inhabited

end PooledCredit
