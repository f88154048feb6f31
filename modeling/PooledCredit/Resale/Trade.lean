import PooledCredit.Foreclosure.Pricing
import PooledCredit.Sha256
import PooledCredit.Store

/-!
# Selling a debt

The debtor of an active loan may sell the debt, at a fixed price or in an auction. A sale only
changes who owns the debt, and with it who holds the wrapped token. A listing whose loan has been
closed, put under auction or passed to another debtor is *stale*: it can no longer be bought, but
anyone may cancel it.
-/

namespace PooledCredit

/-- The name of a listing: the hash of its token, its loan and its number. -/
def Listing.nameFor (item : Item) (loan : LoanId) (nonce : Nat) : ListingId :=
  Sha256.hash
    (item.collection.bytes ++ Bytes.ofNat 8 item.token ++ Bytes.ofNat 8 loan ++
      Bytes.ofNat 8 nonce)

namespace Store

/-- Whether the loan behind a listing is no longer the one that was listed. -/
def isStale (store : Store) (listing : Listing) : Bool :=
  match store.loans.openLoan? listing.item with
  | some loan =>
    !(loan.id == listing.loan && loan.status == .active && loan.debtor == listing.seller)
  | none => true

/-- The listed loan, open or not. -/
def listedLoan (store : Store) (listing : Listing) : Result Loan :=
  orRefuse (store.loans.loan? listing.loan) (.listingStale listing.id)

/-- Refuses a listing that is stale. -/
def requireCurrent (store : Store) (listing : Listing) : Result Unit :=
  require (store.isStale listing = false) (.listingStale listing.id)

/-- When an auction that is to end at the given moment ends; zero for a fixed price. -/
def auctionEnd (settings : Settings) (kind : SaleKind) (endsAt now : Nat) : Result Nat :=
  match kind with
  | .fixedPrice => .ok 0
  | .auction => do
    require (now < endsAt) (.inputInvalid "auction_end" "must be in the future")
    let length ← bareSub endsAt now
    require (length ≤ settings.maxDebtAuction)
      (.inputInvalid "auction_end" "auction too long")
    return endsAt

/-- The caller offers the debt on a token for sale; answers the name of the listing. -/
def list (store : Store) (caller : Account) (item : Item) (kind : SaleKind)
    (price endsAt now : Nat) : Result (Outcome ListingId) := do
  let loan ← store.loans.openLoan item
  require (loan.debtor = caller) (.notOwner caller "loan debt")
  loan.requireStatus .active
  match store.board.activeListing? item with
  | some listing => refuse (.listingExists listing.id)
  | none =>
    require (price ≠ 0) .zeroAmount
    let endsAt ← auctionEnd store.settings kind endsAt now
    let id := Listing.nameFor item loan.id store.board.nonce
    let board ← store.board.post
      { id, item
        loan := loan.id
        kind
        seller := caller
        price, endsAt
        bidder := none
        bid := 0
        status := .active
        createdAt := now }
    return {
      reply := id
      store := { store with board }
      effects := { events := [.debtListed id item caller kind price endsAt now] } }

/-- Makes the buyer of a listing the owner of the debt; answers the reserve's asset and the
transfer of the wrapped token. -/
def passDebt (store : Store) (listing : Listing) (buyer : Account) :
    Result (Asset × List Transfer × Store) := do
  let loan ← store.loans.openLoan listing.item
  let store := { store with
    loans := store.loans.setLoan { loan with debtor := buyer }
    board := store.board.finish listing .sold }
  let wrapped := (← store.listedLoan listing).wrapped
  return (loan.asset, Transfer.handover wrapped listing.seller buyer, store)

/-- The caller buys the debt on a token at its fixed price. -/
def buyDebt (store : Store) (caller : Account) (item : Item) (now : Nat) :
    Result (Outcome Unit) := do
  let listing ← store.board.activeListing item
  require (listing.kind = .fixedPrice)
    (.listingInvalid listing.id "not a fixed-price listing")
  require (listing.seller ≠ caller) (.listingInvalid listing.id "seller cannot buy own listing")
  store.requireCurrent listing
  let (asset, handover, store) ← store.passDebt listing caller
  return {
    reply := ()
    store
    effects := {
      transfers := Transfer.payment asset caller listing.seller listing.price ++ handover
      events := [.debtSold listing.id listing.item listing.seller caller listing.price now] } }

/-- The least next bid on a listing. -/
def nextDebtBid (settings : Settings) (listing : Listing) : Result Nat :=
  match listing.bidder with
  | none => .ok listing.price
  | some _ => do addAmount listing.bid (← bidStep listing.bid settings.debtBidIncrement)

/-- The caller bids an amount, which is locked, for the debt on a token. -/
def bidDebt (store : Store) (caller : Account) (item : Item) (amount now : Nat) :
    Result (Outcome Unit) := do
  let listing ← store.board.activeListing item
  require (listing.kind = .auction) (.listingInvalid listing.id "not an auction listing")
  require (listing.seller ≠ caller) (.listingInvalid listing.id "seller cannot bid")
  require (now < listing.endsAt) (.windowClosed "debt auction" listing.endsAt now)
  store.requireCurrent listing
  let required ← nextDebtBid store.settings listing
  require (required ≤ amount) (.bidTooLow amount required)
  let asset := (← store.listedLoan listing).asset
  let pool := store.poolAccount
  let refund :=
    match listing.bidder with
    | some bidder => Transfer.payment asset pool bidder listing.bid
    | none => []
  let board := store.board.setListing { listing with bidder := some caller, bid := amount }
  return {
    reply := ()
    store := { store with board }
    effects := {
      transfers := refund ++ Transfer.payment asset caller pool amount
      events := [.debtBid listing.id item caller amount now] } }

/-- Settles the ended auction of the debt on a token; answers the new debtor. -/
def claimDebt (store : Store) (item : Item) (now : Nat) : Result (Outcome Account) := do
  let listing ← store.board.activeListing item
  require (listing.kind = .auction) (.listingInvalid listing.id "not an auction listing")
  require (listing.endsAt ≤ now) (.windowNotOpen "debt claim" listing.endsAt now)
  let buyer ← orRefuse listing.bidder (.noBids listing.id)
  store.requireCurrent listing
  let (asset, handover, store) ← store.passDebt listing buyer
  return {
    reply := buyer
    store
    effects := {
      transfers :=
        Transfer.payment asset store.poolAccount listing.seller listing.bid ++ handover
      events :=
        [.debtClaimed listing.id listing.item listing.seller buyer listing.bid now] } }

/-- The caller withdraws a listing that is its own or stale; answers the bid that is refunded. -/
def cancelListing (store : Store) (caller : Account) (item : Item) (now : Nat) :
    Result (Outcome Nat) := do
  let listing ← store.board.activeListing item
  require (listing.seller = caller ∨ store.isStale listing = true)
    (.notOwner caller "debt listing")
  let (refunded, refund) ←
    match listing.bidder with
    | some bidder => do
      let asset := (← store.listedLoan listing).asset
      pure (listing.bid, Transfer.payment asset store.poolAccount bidder listing.bid)
    | none => pure (0, [])
  return {
    reply := refunded
    store := { store with board := store.board.finish listing .cancelled }
    effects := {
      transfers := refund
      events := [.listingCancelled listing.id listing.item refunded now] } }

end Store

end PooledCredit
