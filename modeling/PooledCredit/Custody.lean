import PooledCredit.Effect

/-!
# Custody

Custody keeps the balance of every account and the owner of every token, wrapped ones included.
The transfers that a request asks for are carried out here, one after the other; one that cannot
be honoured fails.
-/

namespace PooledCredit

/-- The balances of accounts and the owners of tokens. -/
structure Custody where
  balances : SortedMap Asset (SortedMap Account Nat) := ∅
  owners : SortedMap Item Account := ∅
deriving DecidableEq, Inhabited

namespace Custody

/-- The balances of one asset. -/
def accounts (custody : Custody) (asset : Asset) : SortedMap Account Nat :=
  custody.balances.getD asset ∅

/-- The balance of an account. -/
def balanceOf (custody : Custody) (asset : Asset) (account : Account) : Nat :=
  (custody.accounts asset).getD account 0

/-- The owner of a token, if it has one. -/
def ownerOf? (custody : Custody) (item : Item) : Option Account := custody.owners.get? item

/-- Sets the balance of an account. -/
def setBalance (custody : Custody) (asset : Asset) (account : Account) (amount : Nat) : Custody :=
  { custody with
    balances := custody.balances.insert asset ((custody.accounts asset).insert account amount) }

/-- Sets the owner of a token. -/
def setOwner (custody : Custody) (item : Item) (owner : Account) : Custody :=
  { custody with owners := custody.owners.insert item owner }

/-- Credits an account with an amount that comes from outside. -/
def fund (custody : Custody) (asset : Asset) (account : Account) (amount : Nat) :
    Result Custody := do
  return custody.setBalance asset account
    (← addAmount (custody.balanceOf asset account) amount)

/-- Carries out one transfer. -/
def apply (custody : Custody) : Transfer → Result Custody
  | .pay asset source target amount => do
    let available := custody.balanceOf asset source
    require (amount ≤ available) (.balanceTooLow available amount)
    let custody := custody.setBalance asset source (available - amount)
    custody.fund asset target amount
  | .hand item source target => do
    require (custody.ownerOf? item = some source) (.notOwner source "token")
    return custody.setOwner item target
  | .mint item target => do
    require (custody.ownerOf? item = none) (.inputInvalid "wrapped" "already minted")
    return custody.setOwner item target
  | .burn item => do
    require (custody.ownerOf? item ≠ none) (.inputInvalid "wrapped" "not minted")
    return { custody with owners := custody.owners.erase item }

/-- Carries out transfers one after the other. -/
def applyAll (custody : Custody) (transfers : List Transfer) : Result Custody :=
  transfers.foldlM apply custody

end Custody

end PooledCredit
