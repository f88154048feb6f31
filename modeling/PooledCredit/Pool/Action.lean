import PooledCredit.Foreclosure.Bidding
import PooledCredit.Foreclosure.Settlement
import PooledCredit.Resale.Trade
import PooledCredit.Supply

/-!
# User actions

What a user can ask of the pool. A user action runs on a *facility*, the store together with the
vault and the venue it deals with, and answers with a reply and the effects it asks for.
-/

namespace PooledCredit

/-- What a user can ask of the pool. -/
inductive UserAction where
  | deposit (asset : Asset) (amount : Nat) (beneficiary : Account) (referral : Nat)
  | withdraw (asset : Asset) (amount : Nat) (recipient : Account)
  | borrow (asset : Asset) (amount : Nat) (item : Item) (debtor : Account) (referral : Nat)
  | repay (item : Item) (amount : Nat)
  | setMandate (delegatee : Account) (approved : Bool)
  | bid (item : Item) (price : Nat) (bidder : Account)
  | redeem (item : Item) (amount maxFine : Nat)
  | liquidate (item : Item) (minPrice : Nat)
  | sell (item : Item)
  | list (item : Item) (kind : SaleKind) (price endsAt : Nat)
  | buyDebt (item : Item)
  | bidDebt (item : Item) (amount : Nat)
  | claimDebt (item : Item)
  | cancelListing (item : Item)
deriving DecidableEq

/-- The answer to an action. -/
inductive Reply where
  | done
  | amount (amount : Nat)
  | loan (id : LoanId)
  | repaid (reply : RepayReply)
  | redeemed (reply : RedeemReply)
  | settled (settlement : Settlement)
  | listed (id : ListingId)
  | passed (debtor : Account)
  | moved (movement : Movement)
deriving DecidableEq

/-- The store together with the vault and the venue it deals with. -/
structure Facility (V N : Type) where
  store : Store
  vault : V
  venue : N
deriving DecidableEq

namespace UserAction

variable {O V N : Type}

/-- Puts the outcome of a request that leaves the vault and the venue alone in its place. -/
def conclude {ρ : Type} (facility : Facility V N) (outcome : Outcome ρ) (reply : ρ → Reply) :
    Reply × Facility V N × Effects :=
  (reply outcome.reply, { facility with store := outcome.store }, outcome.effects)

variable [PriceSource O] [Vault V] [Venue N]

/-- Runs a user action of a caller at a moment. -/
def run (action : UserAction) (prices : O) (facility : Facility V N) (caller : Account)
    (now : Nat) : Result (Reply × Facility V N × Effects) :=
  let store := facility.store
  match action with
  | deposit asset amount beneficiary referral => do
    let outcome ← store.deposit caller asset amount beneficiary referral now
    return conclude facility outcome .amount
  | withdraw asset amount recipient => do
    let (outcome, vault) ← store.withdraw facility.vault caller asset amount recipient now
    return conclude { facility with vault } outcome .amount
  | borrow asset amount item debtor referral => do
    let (outcome, vault) ←
      store.borrow prices facility.vault caller asset amount item debtor referral now
    return conclude { facility with vault } outcome .loan
  | repay item amount => do
    return conclude facility (← store.repay caller item amount now) .repaid
  | setMandate delegatee approved => do
    return conclude facility (← store.setMandate caller delegatee approved now) fun _ => .done
  | bid item price bidder => do
    return conclude facility (← store.bid prices caller item price bidder now) fun _ => .done
  | redeem item amount maxFine => do
    return conclude facility (← store.redeem prices caller item amount maxFine now) .redeemed
  | liquidate item minPrice => do
    return conclude facility (← store.liquidate caller item minPrice now) .settled
  | sell item => do
    let (outcome, venue) ← store.sell prices facility.venue caller item now
    return conclude { facility with venue } outcome .settled
  | list item kind price endsAt => do
    return conclude facility (← store.list caller item kind price endsAt now) .listed
  | buyDebt item => do
    return conclude facility (← store.buyDebt caller item now) fun _ => .done
  | bidDebt item amount => do
    return conclude facility (← store.bidDebt caller item amount now) fun _ => .done
  | claimDebt item => do
    return conclude facility (← store.claimDebt item now) .passed
  | cancelListing item => do
    return conclude facility (← store.cancelListing caller item now) .amount

end UserAction

end PooledCredit
