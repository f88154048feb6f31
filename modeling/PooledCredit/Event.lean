import PooledCredit.Governance.Role
import PooledCredit.Resale.Listing

/-!
# Events

What a request did is told by the events it leaves in a log. Every event has a kind, by which a
log can be searched, and the time at which it happened.
-/

namespace PooledCredit

/-- Something that happened in the pool. -/
inductive Event where
  -- reserves
  | deposited (asset : Asset) (user beneficiary : Account) (amount referral time : Nat)
  | withdrawn (asset : Asset) (user recipient : Account) (amount time : Nat)
  | reserveUpdated (asset : Asset) (supplyRate borrowRate supplyIndex debtIndex time : Nat)
  | reserveOpened (asset : Asset) (decimals time : Nat)
  | reserveConfigured (asset : Asset) (active frozen borrowing : Bool) (factor time : Nat)
  | vaultMoved (asset : Asset) (invested divested loss time : Nat)
  -- loans
  | borrowed (asset : Asset) (user debtor : Account) (amount : Nat) (item : Item) (loan : LoanId)
      (borrowRate referral time : Nat)
  | repaid (asset : Asset) (user debtor : Account) (amount : Nat) (item : Item) (loan : LoanId)
      (closed : Bool) (time : Nat)
  | bidPlaced (asset : Asset) (user : Account) (price : Nat) (bidder : Account) (item : Item)
      (debtor : Account) (loan : LoanId) (time : Nat)
  | redeemed (asset : Asset) (user : Account) (repaid fine : Nat) (item : Item)
      (debtor : Account) (loan : LoanId) (time : Nat)
  | liquidated (asset : Asset) (user : Account) (repaid surplus loss : Nat) (item : Item)
      (debtor : Account) (loan : LoanId) (time : Nat)
  | sold (asset : Asset) (user : Account) (proceeds repaid surplus loss : Nat) (item : Item)
      (debtor : Account) (loan : LoanId) (time : Nat)
  | mandateSet (delegator delegatee : Account) (approved : Bool) (time : Nat)
  -- collateral
  | termsSet (collection : Collection) (token : Option Nat) (ltv threshold bonus time : Nat)
  | collateralSwitched (collection : Collection) (active frozen : Bool) (time : Nat)
  -- resale of debt
  | debtListed (listing : ListingId) (item : Item) (seller : Account) (kind : SaleKind)
      (price endsAt time : Nat)
  | debtSold (listing : ListingId) (item : Item) (seller buyer : Account) (price time : Nat)
  | debtBid (listing : ListingId) (item : Item) (bidder : Account) (amount time : Nat)
  | debtClaimed (listing : ListingId) (item : Item) (seller buyer : Account) (price time : Nat)
  | listingCancelled (listing : ListingId) (item : Item) (refunded time : Nat)
  -- governance
  | paused (account : Account) (time : Nat)
  | unpaused (account : Account) (time : Nat)
  | roleGranted (account : Account) (role : Role) (grantor : Account) (time : Nat)
  | roleRevoked (account : Account) (role : Role) (revoker : Account) (time : Nat)
  | priceUpdated (feed : Id) (token : Option Nat) (oldPrice newPrice time : Nat)
deriving DecidableEq

/-- The kind of an event. -/
inductive EventKind where
  | deposited
  | withdrawn
  | reserveUpdated
  | reserveOpened
  | reserveConfigured
  | vaultMoved
  | borrowed
  | repaid
  | bidPlaced
  | redeemed
  | liquidated
  | sold
  | mandateSet
  | termsSet
  | collateralSwitched
  | debtListed
  | debtSold
  | debtBid
  | debtClaimed
  | listingCancelled
  | paused
  | unpaused
  | roleGranted
  | roleRevoked
  | priceUpdated
deriving DecidableEq, Repr

namespace EventKind

/-- Every kind, in order. -/
def all : List EventKind :=
  [deposited, withdrawn, reserveUpdated, reserveOpened, reserveConfigured, vaultMoved, borrowed,
    repaid, bidPlaced, redeemed, liquidated, sold, mandateSet, termsSet, collateralSwitched,
    debtListed, debtSold, debtBid, debtClaimed, listingCancelled, paused, unpaused, roleGranted,
    roleRevoked, priceUpdated]

/-- The number of a kind. Kinds that belong together stand close together. -/
def code : EventKind → UInt8
  | deposited => 0x01
  | withdrawn => 0x02
  | reserveUpdated => 0x03
  | reserveOpened => 0x04
  | reserveConfigured => 0x05
  | vaultMoved => 0x06
  | borrowed => 0x20
  | repaid => 0x21
  | bidPlaced => 0x22
  | redeemed => 0x23
  | liquidated => 0x24
  | sold => 0x25
  | mandateSet => 0x26
  | termsSet => 0x40
  | collateralSwitched => 0x41
  | debtListed => 0x60
  | debtSold => 0x61
  | debtBid => 0x62
  | debtClaimed => 0x63
  | listingCancelled => 0x64
  | paused => 0x80
  | unpaused => 0x81
  | roleGranted => 0x82
  | roleRevoked => 0x83
  | priceUpdated => 0x84

end EventKind

namespace Event

/-- The kind of an event. -/
def kind : Event → EventKind
  | deposited .. => .deposited
  | withdrawn .. => .withdrawn
  | reserveUpdated .. => .reserveUpdated
  | reserveOpened .. => .reserveOpened
  | reserveConfigured .. => .reserveConfigured
  | vaultMoved .. => .vaultMoved
  | borrowed .. => .borrowed
  | repaid .. => .repaid
  | bidPlaced .. => .bidPlaced
  | redeemed .. => .redeemed
  | liquidated .. => .liquidated
  | sold .. => .sold
  | mandateSet .. => .mandateSet
  | termsSet .. => .termsSet
  | collateralSwitched .. => .collateralSwitched
  | debtListed .. => .debtListed
  | debtSold .. => .debtSold
  | debtBid .. => .debtBid
  | debtClaimed .. => .debtClaimed
  | listingCancelled .. => .listingCancelled
  | paused .. => .paused
  | unpaused .. => .unpaused
  | roleGranted .. => .roleGranted
  | roleRevoked .. => .roleRevoked
  | priceUpdated .. => .priceUpdated

/-- When an event happened. -/
def time : Event → Nat
  | deposited _ _ _ _ _ time => time
  | withdrawn _ _ _ _ time => time
  | reserveUpdated _ _ _ _ _ time => time
  | reserveOpened _ _ time => time
  | reserveConfigured _ _ _ _ _ time => time
  | vaultMoved _ _ _ _ time => time
  | borrowed _ _ _ _ _ _ _ _ time => time
  | repaid _ _ _ _ _ _ _ time => time
  | bidPlaced _ _ _ _ _ _ _ time => time
  | redeemed _ _ _ _ _ _ _ time => time
  | liquidated _ _ _ _ _ _ _ _ time => time
  | sold _ _ _ _ _ _ _ _ _ time => time
  | mandateSet _ _ _ time => time
  | termsSet _ _ _ _ _ time => time
  | collateralSwitched _ _ _ time => time
  | debtListed _ _ _ _ _ _ time => time
  | debtSold _ _ _ _ _ time => time
  | debtBid _ _ _ _ time => time
  | debtClaimed _ _ _ _ _ time => time
  | listingCancelled _ _ _ time => time
  | paused _ time => time
  | unpaused _ time => time
  | roleGranted _ _ _ time => time
  | roleRevoked _ _ _ time => time
  | priceUpdated _ _ _ _ time => time

end Event

/-- Events in the order in which they happened. -/
abbrev EventLog := List Event

namespace EventLog

/-- The events of one kind, in order. -/
def ofKind (log : EventLog) (kind : EventKind) : EventLog := log.filter fun e => e.kind == kind

end EventLog

end PooledCredit
