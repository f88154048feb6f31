import PooledCredit.Id
import PooledCredit.Loan.Status

/-!
# Why a request fails

A request is *refused* for a cause the rules foresee, with a stable code, a message and a
category, or it ends in a *fault*: an arithmetic step that the rules rely on left its range, or
an outside party broke off. `Result` is the type of everything that can fail.
-/

namespace PooledCredit

/-- A cause for which the rules refuse a request. -/
inductive Refusal where
  -- authority
  | unauthorized (caller : Account) (reason : String)
  | permissionMissing (caller : Account) (permission : String)
  | notOwner (caller : Account) (what : String)
  -- lifecycle
  | reserveUnknown (asset : Asset)
  | reserveExists (asset : Asset)
  | reserveInactive (asset : Asset)
  | reserveFrozen (asset : Asset)
  | borrowingDisabled (asset : Asset)
  | reserveInUse (asset : Asset)
  | collateralUnknown (collection : Collection)
  | collateralInactive (collection : Collection)
  | collateralFrozen (collection : Collection)
  | collateralInUse (collection : Collection) (openLoans : Nat)
  | wrapperUnknown (collection : Collection)
  | loanUnknown (collection : Collection) (token : Nat)
  | loanExists (loan : LoanId)
  | loanStatus (loan : LoanId) (expected actual : LoanStatus)
  | listingUnknown (collection : Collection) (token : Nat)
  | listingExists (listing : ListingId)
  | listingInvalid (listing : ListingId) (reason : String)
  | listingStale (listing : ListingId)
  | noBids (listing : ListingId)
  | busy
  -- solvency
  | healthTooLow (health : Nat)
  | capacityExceeded (requested available : Nat)
  | loanHealthy (loan : LoanId) (health : Nat)
  | bidTooLow (bid required : Nat)
  | fineTooLow (paid required : Nat)
  | redeemTooSmall (remaining limit : Nat)
  | priceBelowMinimum (price minimum : Nat)
  | balanceTooLow (available requested : Nat)
  -- availability
  | paused
  | liquidityTooLow (available requested : Nat)
  | venueFailed (reason : String)
  -- input
  | zeroAmount
  | amountInvalid (amount : Nat) (reason : String)
  | inputInvalid (param reason : String)
  | configInvalid (reason : String)
  | tokenOutOfRange (token maximum : Nat)
  -- timing
  | windowClosed (window : String) (deadline now : Nat)
  | windowNotOpen (window : String) (opensAt now : Nat)
  | timeBackwards (last now : Nat)
  -- prices
  | priceMissing (what : String)
  | priceZero (what : String)
  | priceStale (updatedAt now maxAge : Nat)
  | priceJump (deviation maximum : Nat)
  -- arithmetic
  | overflow
  | underflow
  | divisionByZero
deriving DecidableEq

/-- What kind of cause a refusal is. -/
inductive Category where
  | authorization
  | state
  | solvency
  | availability
  | parameter
  | timing
  | oracle
  | math
deriving DecidableEq, Repr

namespace Refusal

/-- The stable code of a refusal. -/
def code : Refusal → String
  | unauthorized .. => "E001_UNAUTHORIZED"
  | permissionMissing .. => "E002_MISSING_PERMISSION"
  | notOwner .. => "E003_NOT_OWNER"
  | reserveUnknown .. => "E010_RESERVE_NOT_FOUND"
  | reserveExists .. => "E011_RESERVE_EXISTS"
  | reserveInactive .. => "E012_RESERVE_INACTIVE"
  | reserveFrozen .. => "E013_RESERVE_FROZEN"
  | borrowingDisabled .. => "E014_BORROWING_DISABLED"
  | reserveInUse .. => "E015_RESERVE_IN_USE"
  | collateralUnknown .. => "E020_COLLATERAL_NOT_CONFIGURED"
  | collateralInactive .. => "E021_COLLATERAL_INACTIVE"
  | collateralFrozen .. => "E022_COLLATERAL_FROZEN"
  | collateralInUse .. => "E023_COLLATERAL_IN_USE"
  | wrapperUnknown .. => "E024_NO_WRAPPER"
  | loanUnknown .. => "E030_LOAN_NOT_FOUND"
  | loanExists .. => "E031_LOAN_EXISTS"
  | loanStatus .. => "E032_INVALID_LOAN_STATE"
  | listingUnknown .. => "E040_LISTING_NOT_FOUND"
  | listingExists .. => "E041_LISTING_EXISTS"
  | listingInvalid .. => "E042_INVALID_LISTING"
  | listingStale .. => "E043_LISTING_STALE"
  | noBids .. => "E044_NO_BIDS"
  | busy => "E050_REENTRANCY"
  | healthTooLow .. => "E060_HEALTH_FACTOR_LOW"
  | capacityExceeded .. => "E061_COLLATERAL_CANNOT_COVER"
  | loanHealthy .. => "E062_NOT_LIQUIDATABLE"
  | bidTooLow .. => "E063_BID_TOO_LOW"
  | fineTooLow .. => "E064_BID_FINE_TOO_LOW"
  | redeemTooSmall .. => "E065_REDEEM_INSUFFICIENT"
  | priceBelowMinimum .. => "E066_PRICE_BELOW_MIN"
  | balanceTooLow .. => "E067_INSUFFICIENT_BALANCE"
  | paused => "E070_PAUSED"
  | liquidityTooLow .. => "E071_INSUFFICIENT_LIQUIDITY"
  | venueFailed .. => "E072_VENUE_UNAVAILABLE"
  | zeroAmount => "E080_ZERO_AMOUNT"
  | amountInvalid .. => "E081_INVALID_AMOUNT"
  | inputInvalid .. => "E082_INVALID_INPUT"
  | configInvalid .. => "E083_INVALID_CONFIG"
  | tokenOutOfRange .. => "E084_TOKEN_ID_RANGE"
  | windowClosed .. => "E090_WINDOW_CLOSED"
  | windowNotOpen .. => "E091_WINDOW_NOT_OPEN"
  | timeBackwards .. => "E092_TIME_BACKWARDS"
  | priceMissing .. => "E100_PRICE_UNAVAILABLE"
  | priceZero .. => "E101_PRICE_ZERO"
  | priceStale .. => "E102_PRICE_STALE"
  | priceJump .. => "E103_PRICE_DEVIATION"
  | overflow => "E110_OVERFLOW"
  | underflow => "E111_UNDERFLOW"
  | divisionByZero => "E112_DIV_ZERO"

/-- The message of a refusal. -/
def message : Refusal → String
  | unauthorized caller reason => s!"caller {caller.text} is not authorized: {reason}"
  | permissionMissing caller permission => s!"caller {caller.text} lacks permission {permission}"
  | notOwner caller what => s!"caller {caller.text} does not own {what}"
  | reserveUnknown asset => s!"reserve {asset.text} not found"
  | reserveExists asset => s!"reserve {asset.text} already exists"
  | reserveInactive asset => s!"reserve {asset.text} is not active"
  | reserveFrozen asset => s!"reserve {asset.text} is frozen"
  | borrowingDisabled asset => s!"borrowing disabled on reserve {asset.text}"
  | reserveInUse asset => s!"reserve {asset.text} still has open balances"
  | collateralUnknown collection => s!"collection {collection.text} is not configured as collateral"
  | collateralInactive collection => s!"collateral {collection.text} is not active"
  | collateralFrozen collection => s!"collateral {collection.text} is frozen"
  | collateralInUse collection openLoans =>
    s!"collection {collection.text} has {openLoans} open loans"
  | wrapperUnknown collection => s!"collection {collection.text} has no wrapper"
  | loanUnknown collection token => s!"no open loan for token {token} of {collection.text}"
  | loanExists loan => s!"loan {loan} already open on this collateral"
  | loanStatus loan expected actual =>
    s!"loan {loan} is {actual.name}, expected {expected.name}"
  | listingUnknown collection token =>
    s!"no active debt listing for token {token} of {collection.text}"
  | listingExists listing => s!"debt listing {listing.text} already active"
  | listingInvalid listing reason => s!"debt listing {listing.text}: {reason}"
  | listingStale listing => s!"debt listing {listing.text} no longer matches its loan"
  | noBids listing => s!"debt listing {listing.text} has no bids"
  | busy => "reentrant call rejected"
  | healthTooLow health => s!"health factor {health} below 1"
  | capacityExceeded requested available =>
    s!"requested {requested} exceeds available borrows {available}"
  | loanHealthy loan health => s!"loan {loan} is healthy (health factor {health})"
  | bidTooLow bid required => s!"bid {bid} below required {required}"
  | fineTooLow paid required => s!"bid fine {paid} below required {required}"
  | redeemTooSmall remaining limit =>
    s!"remaining debt {remaining} not below redeem limit {limit}"
  | priceBelowMinimum price minimum => s!"settlement price {price} below minimum {minimum}"
  | balanceTooLow available requested =>
    s!"insufficient balance: available {available}, requested {requested}"
  | paused => "pool is paused"
  | liquidityTooLow available requested =>
    s!"insufficient liquidity: available {available}, requested {requested}"
  | venueFailed reason => s!"external venue failed: {reason}"
  | zeroAmount => "amount must be positive"
  | amountInvalid amount reason => s!"invalid amount {amount}: {reason}"
  | inputInvalid param reason => s!"invalid {param}: {reason}"
  | configInvalid reason => s!"invalid configuration: {reason}"
  | tokenOutOfRange token maximum => s!"token id {token} exceeds max {maximum}"
  | windowClosed window deadline now => s!"{window} ended at {deadline}, now {now}"
  | windowNotOpen window opensAt now => s!"{window} opens after {opensAt}, now {now}"
  | timeBackwards last now => s!"timestamp {now} precedes last update {last}"
  | priceMissing what => s!"price unavailable: {what}"
  | priceZero what => s!"price is zero: {what}"
  | priceStale updatedAt now maxAge =>
    s!"price stale: updated {updatedAt}, now {now}, max age {maxAge}"
  | priceJump deviation maximum => s!"price deviation {deviation} bps exceeds {maximum}"
  | overflow => "arithmetic overflow"
  | underflow => "arithmetic underflow"
  | divisionByZero => "division by zero"

/-- The category of a refusal. -/
def category : Refusal → Category
  | unauthorized .. | permissionMissing .. | notOwner .. => .authorization
  | reserveUnknown .. | reserveExists .. | reserveInactive .. | reserveFrozen ..
  | borrowingDisabled .. | reserveInUse .. | collateralUnknown .. | collateralInactive ..
  | collateralFrozen .. | collateralInUse .. | wrapperUnknown .. | loanUnknown ..
  | loanExists .. | loanStatus .. | listingUnknown .. | listingExists .. | listingInvalid ..
  | listingStale .. | noBids .. | busy => .state
  | healthTooLow .. | capacityExceeded .. | loanHealthy .. | bidTooLow .. | fineTooLow ..
  | redeemTooSmall .. | priceBelowMinimum .. | balanceTooLow .. => .solvency
  | paused | liquidityTooLow .. | venueFailed .. => .availability
  | zeroAmount | amountInvalid .. | inputInvalid .. | configInvalid .. | tokenOutOfRange .. =>
    .parameter
  | windowClosed .. | windowNotOpen .. | timeBackwards .. => .timing
  | priceMissing .. | priceZero .. | priceStale .. | priceJump .. => .oracle
  | overflow | underflow | divisionByZero => .math

/-- Whether the same request may succeed when it is made again later. -/
def isRetriable : Refusal → Bool
  | paused | liquidityTooLow .. | venueFailed .. | windowNotOpen .. | priceStale .. | busy => true
  | _ => false

/-- Whether a refusal says that the pool is paused. -/
def isPause : Refusal → Bool
  | paused => true
  | _ => false

end Refusal

/-- A break that no rule foresees. -/
inductive Fault where
  /-- An unchecked sum left its range. -/
  | addition
  /-- An unchecked difference left its range. -/
  | subtraction
  /-- An outside party broke off with the given text. -/
  | collaborator (text : String)
deriving DecidableEq

namespace Fault

/-- The text of a fault. -/
def message : Fault → String
  | addition => "attempt to add with overflow"
  | subtraction => "attempt to subtract with overflow"
  | collaborator text => text

end Fault

/-- Why a request did not succeed. -/
inductive Failure where
  | refused (cause : Refusal)
  | fault (cause : Fault)
deriving DecidableEq

/-- The outcome of a request that can fail. -/
abbrev Result := Except Failure

/-- Ends a request with a refusal. -/
def refuse {α : Type} (cause : Refusal) : Result α := .error (.refused cause)

/-- Ends a request with a fault. -/
def breakOff {α : Type} (cause : Fault) : Result α := .error (.fault cause)

/-- Goes on only if a condition holds, and refuses otherwise. -/
def require (condition : Prop) [Decidable condition] (cause : Refusal) : Result Unit :=
  if condition then .ok () else refuse cause

/-- Opens an optional value, and refuses when there is none. -/
def orRefuse {α : Type} (value : Option α) (cause : Refusal) : Result α :=
  match value with
  | some a => .ok a
  | none => refuse cause

end PooledCredit
