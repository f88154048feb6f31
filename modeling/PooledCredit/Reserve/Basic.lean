import PooledCredit.Reserve.RateModel

/-!
# Reserves

A reserve lends one asset. Suppliers hold *scaled* balances whose worth is read off the supply
index, and borrowers owe *scaled* debt whose size is read off the debt index. Both indices start
at one ray and grow with the clock. Rounding always favours the reserve: the supply index rounds
down, debt and the debt index round up.
-/

namespace PooledCredit

/-- No asset may declare more decimals than this. -/
def maxDecimals : Nat := 24

/-- The terms on which a reserve is opened. -/
structure ReserveTerms where
  decimals : Nat := 18
  /-- The share of interest that goes to the treasury. -/
  factor : Nat := 1000
  model : RateModel := {}
  /-- The share of liquidity that the vault may hold. -/
  vaultShare : Nat := 0
deriving DecidableEq, Inhabited

namespace ReserveTerms

/-- Accepts terms whose decimals, shares and rate curve are within bounds. -/
def validate (terms : ReserveTerms) : Result Unit := do
  require (terms.decimals ≤ maxDecimals) (.configInvalid "decimals too large")
  require (terms.factor ≤ fullShare) (.configInvalid "reserve factor above 100%")
  require (terms.vaultShare ≤ fullShare) (.configInvalid "vault debt ratio above 100%")
  terms.model.validate

end ReserveTerms

/-- The pool of one asset. -/
structure Reserve where
  asset : Asset
  decimals : Nat
  /-- What one unit of scaled supply is worth, in ray. -/
  supplyIndex : Nat
  /-- What one unit of scaled debt amounts to, in ray. -/
  debtIndex : Nat
  supplyRate : Nat
  borrowRate : Nat
  scaledSupply : Nat
  scaledDebt : Nat
  /-- Liquidity that the pool holds itself. -/
  idle : Nat
  /-- Liquidity that is placed in the vault. -/
  invested : Nat
  vaultShare : Nat
  /-- Debt written off and vault losses, added up. -/
  losses : Nat
  updatedAt : Nat
  factor : Nat
  active : Bool
  frozen : Bool
  borrowing : Bool
  model : RateModel
deriving DecidableEq

/-- What one accrual of interest did. -/
structure Accrual where
  /-- What was added to the debt. -/
  interest : Nat
  /-- The scaled supply that the treasury is owed for it. -/
  treasuryScaled : Nat
deriving DecidableEq, Inhabited

namespace Reserve

/-- The liquidity behind the supply: idle and invested. -/
def liquidity (reserve : Reserve) : Result Nat := addAmount reserve.idle reserve.invested

/-- What a scaled debt amounts to at the stored index. -/
def debtOf (reserve : Reserve) (scaled : Nat) : Result Nat := rayMul .up scaled reserve.debtIndex

/-- The whole debt at the stored index. -/
def debt (reserve : Reserve) : Result Nat := reserve.debtOf reserve.scaledDebt

/-- The supply index as it will stand at a later clock reading. -/
def supplyIndexAt (reserve : Reserve) (now : Nat) : Result Nat :=
  if now ≤ reserve.updatedAt ∨ reserve.supplyRate = 0 then
    .ok reserve.supplyIndex
  else do
    rayMul .down (← linearGrowth reserve.supplyRate reserve.updatedAt now) reserve.supplyIndex

/-- The debt index as it will stand at a later clock reading. -/
def debtIndexAt (reserve : Reserve) (now : Nat) : Result Nat :=
  if now ≤ reserve.updatedAt ∨ reserve.scaledDebt = 0 then
    .ok reserve.debtIndex
  else do
    rayMul .up (← linearGrowth reserve.borrowRate reserve.updatedAt now) reserve.debtIndex

/-- Sets the rates to what the curve says of the present balances. -/
def refreshRates (reserve : Reserve) : Result Reserve := do
  let rates ← reserve.model.rates (← reserve.liquidity) (← reserve.debt) reserve.factor
  return { reserve with supplyRate := rates.supply, borrowRate := rates.borrow }

/-- A new reserve without supply or debt. -/
def ofTerms (asset : Asset) (terms : ReserveTerms) (now : Nat) : Result Reserve :=
  refreshRates
    { asset
      decimals := terms.decimals
      supplyIndex := ray
      debtIndex := ray
      supplyRate := 0
      borrowRate := 0
      scaledSupply := 0
      scaledDebt := 0
      idle := 0
      invested := 0
      vaultShare := terms.vaultShare
      losses := 0
      updatedAt := now
      factor := terms.factor
      active := true
      frozen := false
      borrowing := true
      model := terms.model }

/-- Brings both indices up to a clock reading, mints the treasury's share of the interest and
refreshes the rates. At the reading of the last update nothing changes. -/
def accrue (reserve : Reserve) (now : Nat) : Result (Accrual × Reserve) := do
  require (reserve.updatedAt ≤ now) (.timeBackwards reserve.updatedAt now)
  if now = reserve.updatedAt then
    return (⟨0, 0⟩, reserve)
  let supplyIndex ← reserve.supplyIndexAt now
  let debtIndex ← reserve.debtIndexAt now
  let before ← reserve.debt
  let after ← rayMul .up reserve.scaledDebt debtIndex
  let interest ← subAmount after before
  let toTreasury ← shareOf .down interest reserve.factor
  let treasuryScaled ← rayDiv .down toTreasury supplyIndex
  let scaledSupply ← addAmount reserve.scaledSupply treasuryScaled
  let updated ← refreshRates
    { reserve with supplyIndex, debtIndex, scaledSupply, updatedAt := now }
  return (⟨interest, treasuryScaled⟩, updated)

/-- Goes on only if the reserve is active. -/
def requireActive (reserve : Reserve) : Result Unit :=
  require (reserve.active = true) (.reserveInactive reserve.asset)

/-- Goes on only if the reserve is not frozen. -/
def requireNotFrozen (reserve : Reserve) : Result Unit :=
  require (reserve.frozen = false) (.reserveFrozen reserve.asset)

/-- Goes on only if the reserve gives out new loans. -/
def requireBorrowable (reserve : Reserve) : Result Unit := do
  reserve.requireActive
  reserve.requireNotFrozen
  require (reserve.borrowing = true) (.borrowingDisabled reserve.asset)

end Reserve

end PooledCredit
