import PooledCredit.Reserve.Basic
import PooledCredit.Yield.Vault

/-!
# Liquidity in the vault

A reserve pulls liquidity back from the vault when it needs more than it holds, and it moves its
placement toward the configured share of its liquidity. Losses that the vault reports or that
come with a withdrawal are added to the reserve's losses.
-/

namespace PooledCredit

/-- What moved between a reserve and the vault. -/
structure Movement where
  invested : Nat := 0
  divested : Nat := 0
  loss : Nat := 0
deriving DecidableEq, Inhabited

/-- Whether nothing moved and nothing was lost. -/
def Movement.isEmpty (movement : Movement) : Bool :=
  movement.invested == 0 && movement.divested == 0 && movement.loss == 0

namespace Reserve

/-- Books a withdrawal from the vault. The placement shrinks by what came back and what was lost,
but never below zero. -/
def receive (reserve : Reserve) (withdrawal : Withdrawal) : Result (Movement × Reserve) := do
  let released := min (← addAmount withdrawal.actual withdrawal.loss) reserve.invested
  let invested ← bareSub reserve.invested released
  let idle ← addAmount reserve.idle withdrawal.actual
  let losses ← addAmount reserve.losses withdrawal.loss
  return ({ divested := withdrawal.actual, loss := withdrawal.loss },
    { reserve with invested, idle, losses })

variable {V : Type} [Vault V]

/-- Asks the vault for what is missing to have `needed` at hand; it may return less. -/
def pull (reserve : Reserve) (vault : V) (needed : Nat) : Result (Movement × Reserve × V) :=
  if needed ≤ reserve.idle ∨ reserve.invested = 0 then
    .ok ({}, reserve, vault)
  else do
    let missing ← bareSub needed reserve.idle
    let (withdrawal, vault) ←
      Vault.release vault reserve.asset (min missing reserve.invested)
    let (movement, reserve) ← reserve.receive withdrawal
    return (movement, ← reserve.refreshRates, vault)

/-- Recognizes what the vault says it has lost of the placement; returns the loss. -/
def recognize (reserve : Reserve) (report : VaultReport) : Result (Nat × Reserve) :=
  if report.held < reserve.invested then do
    let loss ← bareSub reserve.invested report.held
    let losses ← addAmount reserve.losses loss
    return (loss, { reserve with invested := report.held, losses })
  else
    .ok (0, reserve)

/-- Moves the placement toward the configured share of the liquidity, after recognizing reported
losses. -/
def rebalance (reserve : Reserve) (vault : V) : Result (Movement × Reserve × V) := do
  let (reported, reserve) ← reserve.recognize (Vault.report vault reserve.asset)
  let target ← shareOf .down (← reserve.liquidity) reserve.vaultShare
  if reserve.invested < target then
    let missing ← bareSub target reserve.invested
    let amount := min missing reserve.idle
    if amount = 0 then
      return ({ loss := reported }, ← reserve.refreshRates, vault)
    let vault ← Vault.place vault reserve.asset amount
    let idle ← bareSub reserve.idle amount
    let invested ← addAmount reserve.invested amount
    let reserve := { reserve with idle, invested }
    return ({ invested := amount, loss := reported }, ← reserve.refreshRates, vault)
  else if target < reserve.invested then
    let excess ← bareSub reserve.invested target
    let (withdrawal, vault) ← Vault.release vault reserve.asset excess
    let (movement, reserve) ← reserve.receive withdrawal
    let loss ← addAmount reported movement.loss
    return ({ divested := movement.divested, loss }, ← reserve.refreshRates, vault)
  else
    return ({ loss := reported }, ← reserve.refreshRates, vault)

end Reserve

end PooledCredit
