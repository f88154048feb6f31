import PooledCredit.Reserve.Investment
import PooledCredit.SortedMap

/-!
# The reserve ledger

The ledger holds every reserve together with the scaled supply of every account. Interest that
an accrual sets aside is credited to the treasury, so the scaled supply of a reserve is always
the sum of what its accounts hold.
-/

namespace PooledCredit

/-- All reserves and the scaled supply of their suppliers. -/
structure Ledger where
  reserves : SortedMap Asset Reserve := ∅
  /-- The scaled supply of each account, by asset. -/
  holdings : SortedMap Asset (SortedMap Account Nat) := ∅
  /-- The account that receives the reserves' share of interest. -/
  treasury : Account
deriving DecidableEq

/-- What a repayment did to a scaled debt. -/
structure Repayment where
  /-- What the payer paid. -/
  paid : Nat
  /-- The scaled debt that was removed. -/
  burned : Nat
  /-- The scaled debt that is left. -/
  remaining : Nat
deriving DecidableEq

namespace Ledger

/-- The reserve of an asset. -/
def reserve (ledger : Ledger) (asset : Asset) : Result Reserve :=
  orRefuse (ledger.reserves.get? asset) (.reserveUnknown asset)

/-- Stores the reserve of an asset. -/
def setReserve (ledger : Ledger) (asset : Asset) (reserve : Reserve) : Ledger :=
  { ledger with reserves := ledger.reserves.insert asset reserve }

/-- What the accounts hold of one asset. -/
def holders (ledger : Ledger) (asset : Asset) : SortedMap Account Nat :=
  ledger.holdings.getD asset ∅

/-- The scaled supply of an account. -/
def scaledSupplyOf (ledger : Ledger) (asset : Asset) (account : Account) : Nat :=
  (ledger.holders asset).getD account 0

/-- What an account's supply is worth at a clock reading. -/
def supplyOf (ledger : Ledger) (asset : Asset) (account : Account) (now : Nat) : Result Nat := do
  let index ← (← ledger.reserve asset).supplyIndexAt now
  rayMul .down (ledger.scaledSupplyOf asset account) index

/-- Adds to the scaled supply of an account. -/
def credit (ledger : Ledger) (asset : Asset) (account : Account) (scaled : Nat) :
    Result Ledger := do
  let held ← addAmount (ledger.scaledSupplyOf asset account) scaled
  return { ledger with
    holdings := ledger.holdings.insert asset ((ledger.holders asset).insert account held) }

/-- Takes from the scaled supply of an account; an account with nothing left is dropped. -/
def debit (ledger : Ledger) (asset : Asset) (account : Account) (scaled : Nat) :
    Result Ledger := do
  let held ← subAmount (ledger.scaledSupplyOf asset account) scaled
  let holders := ledger.holders asset
  let holders := if held = 0 then holders.erase account else holders.insert account held
  return { ledger with holdings := ledger.holdings.insert asset holders }

/-- Opens a reserve for an asset that has none. -/
def openReserve (ledger : Ledger) (asset : Asset) (terms : ReserveTerms) (now : Nat) :
    Result Ledger := do
  require (ledger.reserves.contains asset = false) (.reserveExists asset)
  terms.validate
  return ledger.setReserve asset (← Reserve.ofTerms asset terms now)

/-- Accrues interest on a reserve and credits the treasury with its share. -/
def accrue (ledger : Ledger) (asset : Asset) (now : Nat) : Result (Accrual × Ledger) := do
  let (accrual, reserve) ← (← ledger.reserve asset).accrue now
  let ledger := ledger.setReserve asset reserve
  if accrual.treasuryScaled = 0 then
    return (accrual, ledger)
  return (accrual, ← ledger.credit asset ledger.treasury accrual.treasuryScaled)

/-- Supplies an amount for an account; returns the scaled supply that was minted. -/
def deposit (ledger : Ledger) (asset : Asset) (account : Account) (amount now : Nat) :
    Result (Nat × Ledger) := do
  require (amount ≠ 0) .zeroAmount
  let reserve ← ledger.reserve asset
  reserve.requireActive
  reserve.requireNotFrozen
  let (_, ledger) ← ledger.accrue asset now
  let reserve ← ledger.reserve asset
  let scaled ← rayDiv .down amount reserve.supplyIndex
  require (scaled ≠ 0) (.amountInvalid amount "rounds to zero supply")
  let idle ← addAmount reserve.idle amount
  let scaledSupply ← addAmount reserve.scaledSupply scaled
  let reserve ← { reserve with idle, scaledSupply }.refreshRates
  let ledger ← (ledger.setReserve asset reserve).credit asset account scaled
  return (scaled, ledger)

variable {V : Type} [Vault V]

/-- Withdraws an amount of an account's supply, or all of it when the largest amount is asked
for. Pulls from the vault when idle liquidity is short. Returns the amount and what the pull
moved. -/
def withdraw (ledger : Ledger) (vault : V) (asset : Asset) (owner : Account) (amount now : Nat) :
    Result (Nat × Movement × Ledger × V) := do
  require (amount ≠ 0) .zeroAmount
  (← ledger.reserve asset).requireActive
  let (_, ledger) ← ledger.accrue asset now
  let held := ledger.scaledSupplyOf asset owner
  let reserve ← ledger.reserve asset
  let balance ← rayMul .down held reserve.supplyIndex
  let amount := if amount = maxAmount then balance else amount
  require (amount ≠ 0 ∧ amount ≤ balance) (.balanceTooLow balance amount)
  let burned ←
    if amount = balance then pure held
    else do pure (min (← rayDiv .up amount reserve.supplyIndex) held)
  let (movement, reserve, vault) ← reserve.pull vault amount
  require (amount ≤ reserve.idle) (.liquidityTooLow reserve.idle amount)
  let idle ← bareSub reserve.idle amount
  let scaledSupply ← subAmount reserve.scaledSupply burned
  let reserve ← { reserve with idle, scaledSupply }.refreshRates
  let ledger ← (ledger.setReserve asset reserve).debit asset owner burned
  return (amount, movement, ledger, vault)

/-- Moves an amount out against new debt; returns the scaled debt. -/
def lend (ledger : Ledger) (vault : V) (asset : Asset) (amount now : Nat) :
    Result (Nat × Ledger × V) := do
  require (amount ≠ 0) .zeroAmount
  (← ledger.reserve asset).requireBorrowable
  let (_, ledger) ← ledger.accrue asset now
  let (_, reserve, vault) ← (← ledger.reserve asset).pull vault amount
  require (amount ≤ reserve.idle) (.liquidityTooLow reserve.idle amount)
  let scaled ← rayDiv .up amount reserve.debtIndex
  let idle ← bareSub reserve.idle amount
  let scaledDebt ← addAmount reserve.scaledDebt scaled
  let reserve ← { reserve with idle, scaledDebt }.refreshRates
  return (scaled, ledger.setReserve asset reserve, vault)

/-- Pays down a scaled debt; what exceeds the debt is not taken. The reserve must have been
accrued. -/
def repay (ledger : Ledger) (asset : Asset) (scaled amount : Nat) :
    Result (Repayment × Ledger) := do
  require (amount ≠ 0) .zeroAmount
  let reserve ← ledger.reserve asset
  let debt ← reserve.debtOf scaled
  let paid := min amount debt
  let burned ← if paid = debt then pure scaled else rayDiv .down paid reserve.debtIndex
  let idle ← addAmount reserve.idle paid
  let scaledDebt ← subAmount reserve.scaledDebt burned
  let reserve ← { reserve with idle, scaledDebt }.refreshRates
  let remaining ← bareSub scaled burned
  return (⟨paid, burned, remaining⟩, ledger.setReserve asset reserve)

/-- Gives up a scaled debt as lost; returns the loss. -/
def writeOff (ledger : Ledger) (asset : Asset) (scaled : Nat) : Result (Nat × Ledger) := do
  let reserve ← ledger.reserve asset
  let loss ← reserve.debtOf scaled
  let scaledDebt ← subAmount reserve.scaledDebt scaled
  let losses ← addAmount reserve.losses loss
  let reserve ← { reserve with scaledDebt, losses }.refreshRates
  return (loss, ledger.setReserve asset reserve)

/-! ### Configuration -/

/-- Sets the switches of a reserve; only a reserve without supply and debt can be made
inactive. -/
def setFlags (ledger : Ledger) (asset : Asset) (active frozen borrowing : Bool) :
    Result Ledger := do
  let reserve ← ledger.reserve asset
  require (active = true ∨ reserve.scaledSupply = 0 ∧ reserve.scaledDebt = 0)
    (.reserveInUse asset)
  return ledger.setReserve asset { reserve with active, frozen, borrowing }

/-- Changes the treasury's share of interest, after accruing at the old one. -/
def setFactor (ledger : Ledger) (asset : Asset) (bps now : Nat) : Result Ledger := do
  require (bps ≤ fullShare) (.configInvalid "reserve factor above 100%")
  let (_, ledger) ← ledger.accrue asset now
  let reserve ← { ← ledger.reserve asset with factor := bps }.refreshRates
  return ledger.setReserve asset reserve

/-- Changes the rate curve, after accruing at the old rates. -/
def setModel (ledger : Ledger) (asset : Asset) (model : RateModel) (now : Nat) :
    Result Ledger := do
  model.validate
  let (_, ledger) ← ledger.accrue asset now
  let reserve ← { ← ledger.reserve asset with model }.refreshRates
  return ledger.setReserve asset reserve

/-- Changes the share of liquidity that the vault may hold. -/
def setVaultShare (ledger : Ledger) (asset : Asset) (bps : Nat) : Result Ledger := do
  require (bps ≤ fullShare) (.configInvalid "vault debt ratio above 100%")
  return ledger.setReserve asset { ← ledger.reserve asset with vaultShare := bps }

/-- Moves the vault placement of a reserve toward its configured share. -/
def rebalance (ledger : Ledger) (vault : V) (asset : Asset) : Result (Movement × Ledger × V) := do
  let (movement, reserve, vault) ← (← ledger.reserve asset).rebalance vault
  return (movement, ledger.setReserve asset reserve, vault)

end Ledger

end PooledCredit
