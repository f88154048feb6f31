import PooledCredit.FixedPoint
import PooledCredit.SortedMap

/-!
# Sale venues

An outside venue buys collateral. It names the account that takes the token and pays for it, and
it sells a token for at least a given amount or fails.
-/

namespace PooledCredit

/-- An outside buyer of collateral. -/
class Venue (N : Type) where
  /-- Sells a token for an asset, for at least the given amount; returns the proceeds. -/
  sell : N → Item → Asset → Nat → Result (Nat × N)
  /-- The account that takes the token and pays the proceeds. -/
  account : N → Account

/-- A collection and the asset it is sold for. -/
structure Market where
  collection : Collection
  asset : Asset
deriving DecidableEq

namespace Market

instance : Ord Market := ⟨compareLex (compareOn Market.collection) (compareOn Market.asset)⟩

instance : Std.TransOrd Market :=
  inferInstanceAs
    (Std.TransCmp (compareLex (compareOn Market.collection) (compareOn Market.asset)))

end Market

/-- A venue with one fixed quote for each market. -/
structure QuotedVenue where
  account : Account
  quotes : SortedMap Market Nat := ∅
  available : Bool := true
deriving DecidableEq

namespace QuotedVenue

/-- Quotes a price for a market. -/
def setQuote (venue : QuotedVenue) (market : Market) (price : Nat) : QuotedVenue :=
  { venue with quotes := venue.quotes.insert market price }

instance : Venue QuotedVenue where
  sell venue item asset least := do
    require (venue.available = true) (.venueFailed "venue offline")
    let quote ← orRefuse (venue.quotes.get? ⟨item.collection, asset⟩)
      (.venueFailed "no market for collection")
    require (least ≤ quote) (.priceBelowMinimum quote least)
    return (quote, venue)
  account venue := venue.account

end QuotedVenue

/-- A venue that pays the same for everything, whatever the least is that it is asked for. -/
structure FlatVenue where
  account : Account
  proceeds : Nat
deriving DecidableEq

instance : Venue FlatVenue where
  sell venue _ _ _ := .ok (venue.proceeds, venue)
  account venue := venue.account

/-- Either of two venues. -/
instance {N M : Type} [Venue N] [Venue M] : Venue (N ⊕ M) where
  sell
    | .inl venue, item, asset, least =>
      (fun (proceeds, venue) => (proceeds, .inl venue)) <$> Venue.sell venue item asset least
    | .inr venue, item, asset, least =>
      (fun (proceeds, venue) => (proceeds, .inr venue)) <$> Venue.sell venue item asset least
  account
    | .inl venue => Venue.account venue
    | .inr venue => Venue.account venue

end PooledCredit
