import PooledCredit.Event
import PooledCredit.Price.Quote

/-!
# Price feeds

Prices are published by operators: one feed for each asset, a floor for each collection, and
appraisals of single tokens, which take precedence over the floor. One update may move a feed by
no more than a given share of its old price.
-/

namespace PooledCredit

/-- The feeds and who may publish them. -/
structure PriceFeeds where
  roles : RoleRegister
  /-- Whether prices are served. -/
  active : Bool
  /-- The largest move of one update, in basis points of the old price. -/
  maxDeviation : Nat
  assets : SortedMap Asset Quote
  /-- The floor of each collection. -/
  floors : SortedMap Collection Quote
  /-- The appraisals of single tokens. -/
  appraisals : SortedMap Item Quote
deriving DecidableEq

/-- The largest move of one update, unless it is changed (50%). -/
def defaultDeviation : Nat := 5000

/-- The number of decimals of a price. -/
def priceDecimals : Nat := 18

/-- How far a new price lies from an old one, in basis points of the old one. What does not fit
counts as the largest number. -/
def deviation (old new : Nat) : Nat :=
  let moved := ((new - old) + (old - new)) * fullShare
  if moved < amountBound then min (moved / old) maxClock else maxClock

/-- Publishes a price in a set of feeds; returns the old price, which is zero for a new feed. -/
def publish {κ : Type} [Ord κ] [Std.TransOrd κ] (feeds : SortedMap κ Quote) (key : κ)
    (price now maxDeviation : Nat) : Result (Nat × SortedMap κ Quote) := do
  require (price ≠ 0) (.priceZero "published price")
  let old := (feeds.get? key).elim 0 Quote.price
  require (old = 0 ∨ deviation old price ≤ maxDeviation)
    (.priceJump (deviation old price) maxDeviation)
  return (old, feeds.insert key ⟨price, now⟩)

namespace PriceFeeds

/-- Empty feeds whose founder may manage operators and publish. -/
def create (founder : Account) (now : Nat) : PriceFeeds where
  roles := (RoleRegister.found founder now).appoint ⟨founder, .publisher, now, founder⟩
  active := true
  maxDeviation := defaultDeviation
  assets := ∅
  floors := ∅
  appraisals := ∅

/-- Lets an account publish. -/
def addOperator (feeds : PriceFeeds) (caller account : Account) (now : Nat) :
    Result PriceFeeds := do
  return { feeds with roles := ← feeds.roles.grant caller account .publisher now }

/-- Stops an account from publishing. -/
def removeOperator (feeds : PriceFeeds) (caller account : Account) (now : Nat) :
    Result PriceFeeds := do
  return { feeds with roles := ← feeds.roles.revoke caller account .publisher now }

/-- Starts or stops serving prices. -/
def setActive (feeds : PriceFeeds) (caller : Account) (active : Bool) : Result PriceFeeds := do
  feeds.roles.requirePermission caller .grantRole
  return { feeds with active }

/-- Changes the largest move of one update. -/
def setMaxDeviation (feeds : PriceFeeds) (caller : Account) (bps : Nat) : Result PriceFeeds := do
  feeds.roles.requirePermission caller .grantRole
  require (bps ≠ 0 ∧ bps ≤ fullShare) (.configInvalid "deviation bound outside (0, 100%]")
  return { feeds with maxDeviation := bps }

/-- Goes on only if the caller may publish and the feeds are active. -/
def requirePublisher (feeds : PriceFeeds) (caller : Account) : Result Unit := do
  feeds.roles.requirePermission caller .updatePrice
  require (feeds.active = true) (.priceMissing "oracle inactive")

/-- Publishes the price of an asset. -/
def updateAsset (feeds : PriceFeeds) (caller : Account) (asset : Asset) (price now : Nat) :
    Result (Event × PriceFeeds) := do
  feeds.requirePublisher caller
  let (old, assets) ← publish feeds.assets asset price now feeds.maxDeviation
  return (.priceUpdated asset none old price now, { feeds with assets })

/-- Publishes the floor of a collection. -/
def updateFloor (feeds : PriceFeeds) (caller : Account) (collection : Collection)
    (price now : Nat) : Result (Event × PriceFeeds) := do
  feeds.requirePublisher caller
  let (old, floors) ← publish feeds.floors collection price now feeds.maxDeviation
  return (.priceUpdated collection none old price now, { feeds with floors })

/-- Publishes the appraisal of a token. -/
def updateAppraisal (feeds : PriceFeeds) (caller : Account) (item : Item) (price now : Nat) :
    Result (Event × PriceFeeds) := do
  feeds.requirePublisher caller
  let (old, appraisals) ← publish feeds.appraisals item price now feeds.maxDeviation
  return (.priceUpdated item.collection (some item.token) old price now,
    { feeds with appraisals })

/-- Drops the appraisal of a token, so that the floor of its collection holds again. -/
def clearAppraisal (feeds : PriceFeeds) (caller : Account) (item : Item) : Result PriceFeeds := do
  feeds.requirePublisher caller
  require (feeds.appraisals.contains item = true) (.priceMissing "token appraisal")
  return { feeds with appraisals := feeds.appraisals.erase item }

/-- The quote of a token, whether or not the feeds are active: its appraisal, or else the floor
of its collection. -/
def recorded (feeds : PriceFeeds) (item : Item) : Option Quote :=
  (feeds.appraisals.get? item).or (feeds.floors.get? item.collection)

/-- The price of a token for display, with a flag that is set when it is too old. It is told even
when the feeds are not active, so no decision may rest on it. -/
def displayed (feeds : PriceFeeds) (item : Item) (now maxAge : Nat) : Option (Nat × Bool) :=
  (feeds.recorded item).map fun quote => (quote.price, quote.isStale now maxAge)

instance : PriceSource PriceFeeds where
  assetQuote feeds asset := if feeds.active then feeds.assets.get? asset else none
  itemQuote feeds item := if feeds.active then feeds.recorded item else none

/-- Whether the price of an asset is served and not too old. -/
def isAssetFresh (feeds : PriceFeeds) (asset : Asset) (now maxAge : Nat) : Bool :=
  match PriceSource.assetQuote feeds asset with
  | some quote => !quote.isStale now maxAge
  | none => false

end PriceFeeds

end PooledCredit
