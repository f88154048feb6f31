import PooledCredit.SortedMap
import PooledCredit.Yield.Vault

/-!
# A simulated vault

A vault kept in memory for dry runs. A position can be written down, which leaves a pending loss
that later withdrawals realize, and it can be made illiquid by a limit on what one withdrawal
returns.
-/

namespace PooledCredit

/-- What the simulated vault holds of one asset. -/
structure VaultPosition where
  balance : Nat := 0
  /-- Write-downs that no withdrawal has realized yet. -/
  pendingLoss : Nat := 0
  /-- Losses realized by withdrawals. -/
  totalLoss : Nat := 0
  /-- The most that one withdrawal returns, if there is a limit. -/
  liquidLimit : Option Nat := none
deriving DecidableEq, Inhabited

/-- A vault kept in memory. -/
structure SimulatedVault where
  positions : SortedMap Asset VaultPosition := ∅
deriving DecidableEq, Inhabited

namespace VaultPosition

/-- Takes up to `amount` out of a position; what is missing realizes pending losses. -/
def release (position : VaultPosition) (amount : Nat) : Result (Withdrawal × VaultPosition) := do
  let liquid := min position.balance (position.liquidLimit.getD maxAmount)
  let actual := min amount liquid
  let loss := min (← bareSub amount actual) position.pendingLoss
  let balance ← bareSub position.balance actual
  let pendingLoss ← bareSub position.pendingLoss loss
  let totalLoss ← addAmount position.totalLoss loss
  return (⟨actual, loss⟩, { position with balance, pendingLoss, totalLoss })

/-- Writes a position down, at most to zero. -/
def impair (position : VaultPosition) (loss : Nat) : Result VaultPosition := do
  let taken := min loss position.balance
  let balance ← bareSub position.balance taken
  let pendingLoss ← bareAdd amountBound position.pendingLoss taken
  return { position with balance, pendingLoss }

end VaultPosition

namespace SimulatedVault

/-- The position of an asset; an asset without one has an empty position. -/
def position (vault : SimulatedVault) (asset : Asset) : VaultPosition :=
  vault.positions.getD asset {}

/-- Stores the position of an asset. -/
def setPosition (vault : SimulatedVault) (asset : Asset) (position : VaultPosition) :
    SimulatedVault :=
  { vault with positions := vault.positions.insert asset position }

/-- Writes down what the vault holds of an asset. -/
def impair (vault : SimulatedVault) (asset : Asset) (loss : Nat) : Result SimulatedVault := do
  return vault.setPosition asset (← (vault.position asset).impair loss)

/-- Limits what one withdrawal of an asset returns, or lifts the limit. -/
def limit (vault : SimulatedVault) (asset : Asset) (liquidLimit : Option Nat) : SimulatedVault :=
  vault.setPosition asset { vault.position asset with liquidLimit }

instance : Vault SimulatedVault where
  place vault asset amount := do
    let position := vault.position asset
    let balance ← addAmount position.balance amount
    return vault.setPosition asset { position with balance }
  release vault asset amount := do
    let (withdrawal, position) ← (vault.position asset).release amount
    return (withdrawal, vault.setPosition asset position)
  report vault asset := ⟨(vault.position asset).balance, (vault.position asset).totalLoss⟩

end SimulatedVault

end PooledCredit
