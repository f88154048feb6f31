import PooledCredit.Foreclosure.Pricing
import PooledCredit.Store

/-!
# Views

What a token, a debt or an auction amounts to at a moment. A view projects interest and changes
nothing.
-/

namespace PooledCredit

/-- What may be borrowed against a token, and on which terms. -/
structure CollateralView where
  /-- The token's value in units of the reserve's asset. -/
  collateral : Nat
  capacity : Nat
  ltv : Nat
  threshold : Nat
  bonus : Nat
deriving DecidableEq

/-- The open loan on a token. -/
structure DebtView where
  loan : LoanId
  asset : Asset
  debtor : Account
  status : LoanStatus
  /-- The token's value in units of the reserve's asset. -/
  collateral : Nat
  debt : Nat
  capacity : Nat
  health : Nat
deriving DecidableEq

/-- What the next bid and a redeem of a loan would cost. -/
structure AuctionView where
  loan : LoanId
  bidder : Option Account
  price : Nat
  /-- The debt at the time of the bid, or now when there is none. -/
  debt : Nat
  /-- The fine that a redeem pays. -/
  fine : Nat
  startedAt : Nat
  /-- The least next bid. -/
  minBid : Nat
deriving DecidableEq

namespace Store

variable {O : Type} [PriceSource O]

/-- What may be borrowed against a token in a reserve, given what is already borrowed there. -/
def collateralView (store : Store) (prices : O) (item : Item) (asset : Asset) (now : Nat) :
    Result CollateralView := do
  let scaled :=
    match store.loans.openLoan? item with
    | some loan => if loan.asset = asset then loan.scaled else 0
    | none => 0
  let (config, valuation) ← store.valuation prices item asset scaled now
  return {
    collateral := valuation.collateralAmount
    capacity := valuation.capacity
    ltv := config.terms.ltv
    threshold := config.terms.threshold
    bonus := config.terms.bonus }

/-- The debt and health of the open loan on a token. -/
def debtView (store : Store) (prices : O) (item : Item) (now : Nat) : Result DebtView := do
  let loan ← store.loans.openLoan item
  let (_, valuation) ← store.valuation prices item loan.asset loan.scaled now
  return {
    loan := loan.id
    asset := loan.asset
    debtor := loan.debtor
    status := loan.status
    collateral := valuation.collateralAmount
    debt := valuation.debt
    capacity := valuation.capacity
    health := valuation.health }

/-- The bid, fine and least next bid of the open loan on a token. -/
def auctionView (store : Store) (prices : O) (item : Item) (now : Nat) : Result AuctionView := do
  let loan ← store.loans.openLoan item
  let (config, valuation) ← store.valuation prices item loan.asset loan.scaled now
  match loan.bid with
  | some bid =>
    let step ← bidStep bid.price store.settings.bidIncrement
    return {
      loan := loan.id
      bidder := some bid.bidder
      price := bid.price
      debt := bid.debt
      fine := bid.fine
      startedAt := bid.startedAt
      minBid := max (min (bid.price + step) maxAmount) valuation.debt }
  | none =>
    let decimals := (← store.ledger.reserve loan.asset).decimals
    let fine ← config.terms.redeemFine valuation.debt valuation.price decimals
    let minBid ← config.terms.firstBid valuation.collateralAmount valuation.debt
    return {
      loan := loan.id
      bidder := none
      price := 0
      debt := valuation.debt
      fine
      startedAt := 0
      minBid }

/-- The health of the open loan on a token; the highest when there is none. -/
def health (store : Store) (prices : O) (item : Item) (now : Nat) : Result Nat :=
  match store.loans.openLoan? item with
  | none => .ok maxHealth
  | some _ => do return (← store.debtView prices item now).health

/-- The supply index of a reserve at a moment. -/
def supplyIndexAt (store : Store) (asset : Asset) (now : Nat) : Result Nat := do
  (← store.ledger.reserve asset).supplyIndexAt now

/-- The debt index of a reserve at a moment. -/
def debtIndexAt (store : Store) (asset : Asset) (now : Nat) : Result Nat := do
  (← store.ledger.reserve asset).debtIndexAt now

end Store

end PooledCredit
