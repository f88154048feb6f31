import PooledCredit.FixedPoint
import PooledCredit.SortedMap

/-!
# Debt listings

The owner of a debt may offer it for sale, at a fixed price or in an auction. A board keeps every
listing that was ever made and knows which one is active on a token.
-/

namespace PooledCredit

/-- How a debt is sold. -/
inductive SaleKind where
  /-- The first buyer who pays the price gets the debt. -/
  | fixedPrice
  /-- The highest bid at the end gets the debt. -/
  | auction
deriving DecidableEq, Repr

/-- Where a listing stands. -/
inductive ListingStatus where
  | active
  | sold
  | cancelled
deriving DecidableEq, Repr

/-- An offer to sell a debt. -/
structure Listing where
  id : ListingId
  item : Item
  loan : LoanId
  kind : SaleKind
  seller : Account
  /-- The price, or the least first bid of an auction. -/
  price : Nat
  /-- When an auction ends; zero for a fixed price. -/
  endsAt : Nat
  bidder : Option Account
  bid : Nat
  status : ListingStatus
  createdAt : Nat
deriving DecidableEq

/-- Every listing, the active one on each token, and the number of listings made so far. -/
structure ListingBoard where
  listings : SortedMap ListingId Listing := ∅
  active : SortedMap Item ListingId := ∅
  nonce : Nat := 0
deriving DecidableEq, Inhabited

namespace ListingBoard

/-- A listing by its name. -/
def listing? (board : ListingBoard) (id : ListingId) : Option Listing := board.listings.get? id

/-- The active listing on a token. -/
def activeListing? (board : ListingBoard) (item : Item) : Option Listing :=
  (board.active.get? item).bind board.listing?

/-- The active listing on a token, which must exist. -/
def activeListing (board : ListingBoard) (item : Item) : Result Listing :=
  orRefuse (board.activeListing? item) (.listingUnknown item.collection item.token)

/-- Stores a listing under its name. -/
def setListing (board : ListingBoard) (listing : Listing) : ListingBoard :=
  { board with listings := board.listings.insert listing.id listing }

/-- Ends a listing with a final status. -/
def finish (board : ListingBoard) (listing : Listing) (status : ListingStatus) : ListingBoard :=
  { board.setListing { listing with status } with active := board.active.erase listing.item }

/-- Adds a listing, which becomes the active one on its token. -/
def post (board : ListingBoard) (listing : Listing) : Result ListingBoard := do
  let nonce ← fitClock (board.nonce + 1)
  return { board.setListing listing with
    active := board.active.insert listing.item listing.id
    nonce }

end ListingBoard

end PooledCredit
