import PooledCredit.Store

/-!
# Borrowing and repaying

An account borrows against a token, in its own name or in that of an account that gave it a
mandate. The token goes into custody, the wrapped token to the debtor and the funds to the
borrowing account. Anyone may repay; when the debt is covered, the debtor gets the token back.
-/

namespace PooledCredit

/-- What a repayment of a loan did. -/
structure RepayReply where
  paid : Nat
  closed : Bool
deriving DecidableEq

namespace Store

/-- The caller borrows an amount against a token, with `debtor` as owner of the debt; answers the
number of the loan. -/
def borrow {O V : Type} [PriceSource O] [Vault V] (store : Store) (prices : O) (vault : V)
    (caller : Account) (asset : Asset) (amount : Nat) (item : Item) (debtor : Account)
    (referral now : Nat) : Result (Outcome LoanId × V) := do
  require (amount ≠ 0) .zeroAmount
  require (debtor = caller ∨ store.loans.isMandated debtor caller = true)
    (.unauthorized caller "no credit delegation from on_behalf_of")
  -- the collateral takes a new loan
  let config ←
    store.collateral.requireBorrowable item (store.loans.openCount item.collection)
  let wrapped ← store.wrappers.wrap item
  match store.loans.openLoan? item with
  | some loan => refuse (.loanExists loan.id)
  | none =>
    -- a fresh valuation leaves room for the amount
    (← store.ledger.reserve asset).requireBorrowable
    let (_, ledger) ← store.ledger.accrue asset now
    let maxAge := store.settings.maxPriceAge
    let before ← Valuation.of prices (← ledger.reserve asset) config.terms item 0 now maxAge
    require (amount ≤ before.capacity) (.capacityExceeded amount before.capacity)
    let (scaled, ledger, vault) ← ledger.lend vault asset amount now
    -- the loan that results is healthy
    let after ← Valuation.of prices (← ledger.reserve asset) config.terms item scaled now maxAge
    require (wad ≤ after.health) (.healthTooLow after.health)
    let (loan, loans) ← store.loans.openNew debtor caller item wrapped asset scaled now
    let store := { store with ledger, loans }
    let borrowRate := (← store.ledger.reserve asset).borrowRate
    let update ← store.reserveUpdate asset now
    let outcome : Outcome LoanId := {
      reply := loan
      store
      effects := {
        transfers := Transfer.handover item caller store.poolAccount ++
          .mint wrapped debtor :: Transfer.payment asset store.poolAccount caller amount
        events :=
          [.borrowed asset caller debtor amount item loan borrowRate referral now, update] } }
    return (outcome, vault)

/-- What is paid of a debt when an amount is offered: no more than the debt, and all of it when
only dust would be left. -/
def paymentFor (settings : Settings) (debt offered : Nat) : Nat :=
  if debt - min offered debt ≤ settings.debtDust then debt else min offered debt

/-- The transfers that give the tokens of a repaid loan back; none while the loan stays open. -/
def release (store : Store) (loan : Loan) (closed : Bool) : List Transfer :=
  if closed then
    Transfer.handover loan.item store.poolAccount loan.debtor ++ [.burn loan.wrapped]
  else []

/-- The caller repays up to an amount of the active loan on a token. -/
def repay (store : Store) (caller : Account) (item : Item) (amount now : Nat) :
    Result (Outcome RepayReply) := do
  require (amount ≠ 0) .zeroAmount
  let loan ← store.loans.openLoan item
  loan.requireStatus .active
  (← store.ledger.reserve loan.asset).requireActive
  let (_, ledger) ← store.ledger.accrue loan.asset now
  let debt ← (← ledger.reserve loan.asset).debtOf loan.scaled
  let (repayment, ledger) ←
    ledger.repay loan.asset loan.scaled (paymentFor store.settings debt amount)
  let closed : Bool := repayment.remaining == 0
  let loans ← store.loans.payDown loan repayment.remaining now
  let store := { store with ledger, loans }
  let update ← store.reserveUpdate loan.asset now
  return {
    reply := ⟨repayment.paid, closed⟩
    store
    effects := {
      transfers :=
        Transfer.payment loan.asset caller store.poolAccount repayment.paid ++
          store.release loan closed
      events :=
        [.repaid loan.asset caller loan.debtor repayment.paid loan.item loan.id closed now,
          update] } }

/-- The caller gives or takes back leave to borrow in its name. -/
def setMandate (store : Store) (caller delegatee : Account) (approved : Bool) (now : Nat) :
    Result (Outcome Unit) := do
  require (caller ≠ delegatee) (.inputInvalid "delegatee" "cannot delegate to self")
  return {
    reply := ()
    store := { store with loans := store.loans.setMandate caller delegatee approved }
    effects := { events := [.mandateSet caller delegatee approved now] } }

end Store

end PooledCredit
