import PooledCredit.FixedPoint

/-!
# Yield vaults

Liquidity that a reserve does not need may be placed in an outside vault. A vault may give back
less than is asked for and may report a loss; nothing is assumed of it here beyond the three
requests it answers.
-/

namespace PooledCredit

/-- What a vault gave back. -/
structure Withdrawal where
  /-- The liquidity that came back. -/
  actual : Nat
  /-- The principal that is lost for good. -/
  loss : Nat
deriving DecidableEq, Inhabited

/-- What a vault says it holds for a reserve. -/
structure VaultReport where
  /-- The value now held. -/
  held : Nat
  /-- The losses realized so far. -/
  lost : Nat
deriving DecidableEq, Inhabited

/-- An outside strategy that holds liquidity for reserves. -/
class Vault (V : Type) where
  /-- Places liquidity in the vault. -/
  place : V → Asset → Nat → Result V
  /-- Asks for liquidity back. -/
  release : V → Asset → Nat → Result (Withdrawal × V)
  /-- What the vault holds for an asset. -/
  report : V → Asset → VaultReport

/-- The absent vault: it takes nothing and gives nothing back. -/
structure NoVault where
deriving DecidableEq, Inhabited

instance : Vault NoVault where
  place _ _ _ := refuse (.venueFailed "no yield vault configured")
  release vault _ _ := .ok (⟨0, 0⟩, vault)
  report _ _ := ⟨0, 0⟩

/-- Either of two vaults. -/
instance {V W : Type} [Vault V] [Vault W] : Vault (V ⊕ W) where
  place
    | .inl vault, asset, amount => .inl <$> Vault.place vault asset amount
    | .inr vault, asset, amount => .inr <$> Vault.place vault asset amount
  release
    | .inl vault, asset, amount =>
      (fun (withdrawal, vault) => (withdrawal, .inl vault)) <$> Vault.release vault asset amount
    | .inr vault, asset, amount =>
      (fun (withdrawal, vault) => (withdrawal, .inr vault)) <$> Vault.release vault asset amount
  report
    | .inl vault, asset => Vault.report vault asset
    | .inr vault, asset => Vault.report vault asset

end PooledCredit
