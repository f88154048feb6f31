import PooledCredit.FixedPoint

/-!
# The interest rate curve

A reserve charges borrowers a rate that depends on its *utilization*, the part of its funds that
is lent out. The curve has two slopes that meet at the optimal utilization. Suppliers earn the
borrow rate on the part that is lent out, less the reserve's own share.
-/

namespace PooledCredit

/-- A two-slope rate curve; every value is a ray. -/
structure RateModel where
  /-- The utilization at which the second slope begins. -/
  optimal : Nat := 80 * (ray / 100)
  /-- The rate at zero utilization. -/
  base : Nat := 0
  /-- What the rate gains up to the optimal utilization. -/
  slope1 : Nat := 8 * (ray / 100)
  /-- What the rate gains from the optimal to full utilization. -/
  slope2 : Nat := ray
deriving DecidableEq, Inhabited

/-- The yearly rates of a reserve, in ray. -/
structure Rates where
  /-- What suppliers earn. -/
  supply : Nat
  /-- What borrowers owe. -/
  borrow : Nat
deriving DecidableEq

/-- No rate parameter may exceed this (1000% a year). -/
def maxRate : Nat := 10 * ray

/-- The lent-out part, in ray, of funds that consist of liquidity and debt. -/
def utilization (liquidity debt : Nat) : Result Nat :=
  if debt = 0 then
    .ok 0
  else do
    mulDiv .down debt ray (← addAmount liquidity debt)

namespace RateModel

/-- Accepts a curve whose optimal utilization is positive and at most one and whose other
parameters are not above `maxRate`. -/
def validate (model : RateModel) : Result Unit := do
  require (model.optimal ≠ 0 ∧ model.optimal ≤ ray)
    (.configInvalid "optimal utilization must be in (0, 1]")
  require (model.base ≤ maxRate ∧ model.slope1 ≤ maxRate ∧ model.slope2 ≤ maxRate)
    (.configInvalid "rate parameter too large")

/-- The borrow rate at a utilization. -/
def borrowRate (model : RateModel) (used : Nat) : Result Nat :=
  if used ≤ model.optimal then do
    addAmount model.base (← mulDiv .down model.slope1 used model.optimal)
  else do
    let beyond ← bareSub used model.optimal
    let room ← bareSub ray model.optimal
    let excess ← mulDiv .down beyond ray room
    let steep ← rayMul .down model.slope2 excess
    addAmount (← addAmount model.base model.slope1) steep

/-- The rates of a reserve with the given liquidity and debt that keeps `factor` basis points of
the interest for itself. -/
def rates (model : RateModel) (liquidity debt factor : Nat) : Result Rates := do
  let used ← utilization liquidity debt
  let borrow ← model.borrowRate used
  let gross ← rayMul .down borrow used
  let kept ← bareSub fullShare factor
  let supply ← shareOf .down gross kept
  return { supply, borrow }

end RateModel

end PooledCredit
