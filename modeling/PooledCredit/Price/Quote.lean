import PooledCredit.FixedPoint

/-!
# Prices

Prices are given in base units, as wads, together with the moment they were published. A price
that is missing, zero or too old is never used.
-/

namespace PooledCredit

/-- A published price. -/
structure Quote where
  price : Nat
  updatedAt : Nat
deriving DecidableEq, Inhabited

/-- A source of prices for assets and for tokens. -/
class PriceSource (O : Type) where
  /-- The latest price of an asset. -/
  assetQuote : O → Asset → Option Quote
  /-- The latest price of a token. -/
  itemQuote : O → Item → Option Quote

namespace Quote

/-- Whether a quote is older than allowed; a quote from the future is not old. -/
def isStale (quote : Quote) (now maxAge : Nat) : Bool := decide (maxAge < now - quote.updatedAt)

/-- The price of a quote that is present, positive and not too old. -/
def fresh (quote : Option Quote) (what : String) (now maxAge : Nat) : Result Nat := do
  let quote ← orRefuse quote (.priceMissing what)
  require (quote.price ≠ 0) (.priceZero what)
  require (quote.isStale now maxAge = false) (.priceStale quote.updatedAt now maxAge)
  return quote.price

end Quote

variable {O : Type} [PriceSource O]

/-- The fresh price of an asset. -/
def assetPrice (prices : O) (asset : Asset) (now maxAge : Nat) : Result Nat :=
  Quote.fresh (PriceSource.assetQuote prices asset) "reserve asset" now maxAge

/-- The fresh price of a token. -/
def itemPrice (prices : O) (item : Item) (now maxAge : Nat) : Result Nat :=
  Quote.fresh (PriceSource.itemQuote prices item) "nft" now maxAge

end PooledCredit
