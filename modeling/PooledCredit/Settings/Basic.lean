import PooledCredit.FixedPoint

/-!
# Pool settings

The settings that a pool is created with and keeps for good.
-/

namespace PooledCredit

/-- The settings of a pool. -/
structure Settings where
  /-- The account that holds liquidity, locked bids and collateral. -/
  poolAccount : Account := Id.fill 0xEE
  /-- The account that receives the reserves' share of interest. -/
  treasury : Account := Id.fill 0xDD
  /-- The age from which a price is too old. -/
  maxPriceAge : Nat := hour
  /-- Debt at or below this is swept into a repayment. -/
  debtDust : Nat := 1000
  /-- The least increment between bids on collateral. -/
  bidIncrement : Nat := 100
  /-- The largest share of the debt that a redeem may pay without clearing it. -/
  maxRedeemShare : Nat := 9000
  /-- The least increment between bids on a debt. -/
  debtBidIncrement : Nat := 100
  /-- The longest auction of a debt. -/
  maxDebtAuction : Nat := 14 * day
deriving DecidableEq, Inhabited

namespace Settings

/-- Accepts settings with two different accounts, a positive price age, a redeem share in range
and increments of at most 100%. -/
def validate (settings : Settings) : Result Unit := do
  require (settings.poolAccount ≠ Id.zero ∧ settings.treasury ≠ Id.zero)
    (.configInvalid "zero pool or treasury account")
  require (settings.poolAccount ≠ settings.treasury)
    (.configInvalid "treasury must differ from pool account")
  require (settings.maxPriceAge ≠ 0) (.configInvalid "max price age must be positive")
  require (settings.maxRedeemShare ≠ 0 ∧ settings.maxRedeemShare ≤ fullShare)
    (.configInvalid "max redeem share out of range")
  require (settings.bidIncrement ≤ fullShare ∧ settings.debtBidIncrement ≤ fullShare)
    (.configInvalid "bid increment above 100%")

end Settings

end PooledCredit
