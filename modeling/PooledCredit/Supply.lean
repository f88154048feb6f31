import PooledCredit.Store

/-!
# Supplying

An account supplies an asset to its reserve, for itself or for another account, and withdraws
what its supply is worth.
-/

namespace PooledCredit

/-- The event of a movement to or from the vault, if anything moved. -/
def Movement.events (movement : Movement) (asset : Asset) (now : Nat) : EventLog :=
  if movement.isEmpty then []
  else [.vaultMoved asset movement.invested movement.divested movement.loss now]

namespace Store

/-- The caller supplies an amount for a beneficiary; answers the scaled supply minted. -/
def deposit (store : Store) (caller : Account) (asset : Asset) (amount : Nat)
    (beneficiary : Account) (referral now : Nat) : Result (Outcome Nat) := do
  let (scaled, ledger) ← store.ledger.deposit asset beneficiary amount now
  let store := { store with ledger }
  let update ← store.reserveUpdate asset now
  return {
    reply := scaled
    store
    effects := {
      transfers := Transfer.payment asset caller store.poolAccount amount
      events := [.deposited asset caller beneficiary amount referral now, update] } }

/-- The caller withdraws an amount, or all of its supply when the largest amount is asked for, to
a recipient; answers the amount. -/
def withdraw {V : Type} [Vault V] (store : Store) (vault : V) (caller : Account) (asset : Asset)
    (amount : Nat) (recipient : Account) (now : Nat) : Result (Outcome Nat × V) := do
  let (paid, movement, ledger, vault) ← store.ledger.withdraw vault asset caller amount now
  let store := { store with ledger }
  let update ← store.reserveUpdate asset now
  let outcome : Outcome Nat := {
    reply := paid
    store
    effects := {
      transfers := Transfer.payment asset store.poolAccount recipient paid
      events := movement.events asset now ++
        [.withdrawn asset caller recipient paid now, update] } }
  return (outcome, vault)

end Store

end PooledCredit
