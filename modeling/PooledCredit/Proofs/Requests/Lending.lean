import PooledCredit.Loan.Borrowing
import PooledCredit.Proofs.Loans.Book
import PooledCredit.Proofs.Reserves.Ledger
import PooledCredit.Supply

/-!
# What supplying, borrowing and repaying do

For each request a structure holds what a successful one went through, and one lemma says that a
success comes from such steps and what it answers: the new store, the transfers and the events.
The arguments about whole runs read the requests only through these lemmas.
-/

namespace PooledCredit

namespace Store

variable {store : Store} {caller : Account} {asset : Asset} {item : Item} {amount now : Nat}

/-- Accruing on the store accrues its ledger. -/
lemma accrue_eq_ok {store' : Store} (h : store.accrue asset now = .ok store') :
    ∃ accrual ledger, store.ledger.accrue asset now = .ok (accrual, ledger) ∧
      store' = { store with ledger } := by
  simp only [accrue, bind_eq_ok, pure_eq_ok, Prod.exists] at h
  obtain ⟨accrual, ledger, ha, rfl⟩ := h
  exact ⟨accrual, ledger, ha, rfl⟩

/-! ## Supplying -/

/-- A deposit goes to the ledger, and the amount goes from the caller to the pool. -/
lemma deposit_eq_ok {beneficiary : Account} {referral : Nat} {outcome : Outcome Nat}
    (h : store.deposit caller asset amount beneficiary referral now = .ok outcome) :
    ∃ scaled ledger update,
      store.ledger.deposit asset beneficiary amount now = .ok (scaled, ledger) ∧
      { store with ledger }.reserveUpdate asset now = .ok update ∧
      outcome = {
        reply := scaled
        store := { store with ledger }
        effects := {
          transfers := Transfer.payment asset caller store.poolAccount amount
          events := [.deposited asset caller beneficiary amount referral now, update] } } := by
  simp only [deposit, bind_eq_ok, pure_eq_ok, Prod.exists] at h
  obtain ⟨scaled, ledger, hd, update, hu, rfl⟩ := h
  exact ⟨scaled, ledger, update, hd, hu, rfl⟩

variable {O V : Type} [PriceSource O] [Vault V] {prices : O} {vault vault' : V}

/-- A withdrawal goes to the ledger, and what it pays goes from the pool to the recipient. -/
lemma withdraw_eq_ok {recipient : Account} {outcome : Outcome Nat}
    (h : store.withdraw vault caller asset amount recipient now = .ok (outcome, vault')) :
    ∃ paid movement ledger update,
      store.ledger.withdraw vault asset caller amount now = .ok (paid, movement, ledger, vault') ∧
      { store with ledger }.reserveUpdate asset now = .ok update ∧
      outcome = {
        reply := paid
        store := { store with ledger }
        effects := {
          transfers := Transfer.payment asset store.poolAccount recipient paid
          events := movement.events asset now ++
            [.withdrawn asset caller recipient paid now, update] } } := by
  simp only [withdraw, bind_eq_ok, pure_eq_ok, Prod.exists, Prod.mk.injEq] at h
  obtain ⟨paid, movement, ledger, _, hw, update, hu, rfl, rfl⟩ := h
  exact ⟨paid, movement, ledger, update, hw, hu, rfl⟩

/-! ## Borrowing -/

/-- The steps of a borrow. The reserve is accrued, the token backs no loan yet, the amount is
within the capacity and leaves the loan healthy. -/
structure BorrowSteps (store : Store) (prices : O) (vault : V) (caller : Account) (asset : Asset)
    (amount : Nat) (item : Item) (debtor : Account) (now : Nat) (vault' : V) where
  config : CollateralConfig
  wrapped : Item
  accrual : Accrual
  /-- The ledger after the accrual. -/
  accrued : Ledger
  /-- The reserve after the accrual. -/
  reserve : Reserve
  /-- The valuation before the loan. -/
  before : Valuation
  scaled : Nat
  /-- The ledger after the amount was lent. -/
  lent : Ledger
  /-- The reserve after the amount was lent. -/
  charged : Reserve
  /-- The valuation of the loan. -/
  after : Valuation
  id : LoanId
  loans : LoanBook
  update : Event
  mandated : debtor = caller ∨ store.loans.isMandated debtor caller = true
  accepted :
    store.collateral.requireBorrowable item (store.loans.openCount item.collection) = .ok config
  wraps : store.wrappers.wrap item = .ok wrapped
  unpledged : store.loans.openLoan? item = none
  accrues : store.ledger.accrue asset now = .ok (accrual, accrued)
  found : accrued.reserves.get? asset = some reserve
  valued : Valuation.of prices reserve config.terms item 0 now store.settings.maxPriceAge =
    .ok before
  affordable : amount ≤ before.capacity
  lends : accrued.lend vault asset amount now = .ok (scaled, lent, vault')
  refound : lent.reserves.get? asset = some charged
  revalued : Valuation.of prices charged config.terms item scaled now store.settings.maxPriceAge =
    .ok after
  healthy : wad ≤ after.health
  opens : store.loans.openNew debtor caller item wrapped asset scaled now = .ok (id, loans)
  updates : { store with ledger := lent, loans }.reserveUpdate asset now = .ok update

/-- A borrow opens a loan; the token goes to the pool, the wrapped token to the debtor and the
amount to the caller. -/
lemma borrow_eq_ok {debtor : Account} {referral : Nat} {outcome : Outcome LoanId}
    (h : store.borrow prices vault caller asset amount item debtor referral now =
      .ok (outcome, vault')) :
    ∃ s : BorrowSteps store prices vault caller asset amount item debtor now vault',
      outcome = {
        reply := s.id
        store := { store with ledger := s.lent, loans := s.loans }
        effects := {
          transfers := Transfer.handover item caller store.poolAccount ++
            .mint s.wrapped debtor :: Transfer.payment asset store.poolAccount caller amount
          events :=
            [.borrowed asset caller debtor amount item s.id s.charged.borrowRate referral now,
              s.update] } } := by
  simp only [borrow, Ledger.reserve, bind_eq_ok, require_eq_ok, exists_const] at h
  obtain ⟨-, mandated, config, accepted, wrapped, wraps, h⟩ := h
  split at h
  · exact (refuse_eq_ok.mp h).elim
  · next unpledged =>
    simp only [bind_eq_ok, require_eq_ok, exists_const, orRefuse_eq_ok, pure_eq_ok, Prod.exists,
      Prod.mk.injEq] at h
    obtain ⟨_, -, _, -, accrual, accrued, accrues, reserve, found, before, valued, affordable,
      scaled, lent, _, lends, charged, refound, after, revalued, healthy, id, loans, opens,
      charged', hcharged', update, updates, rfl, rfl⟩ := h
    rw [refound] at hcharged'
    obtain rfl := Option.some.inj hcharged'
    exact ⟨⟨config, wrapped, accrual, accrued, reserve, before, scaled, lent, charged, after, id,
      loans, update, mandated, accepted, wraps, unpledged, accrues, found, valued, affordable,
      lends, refound, revalued, healthy, opens, updates⟩, rfl⟩

/-! ## Repaying -/

/-- The steps of a repayment of an active loan. -/
structure RepaySteps (store : Store) (item : Item) (amount now : Nat) where
  loan : Loan
  accrual : Accrual
  /-- The ledger after the accrual. -/
  accrued : Ledger
  /-- The reserve after the accrual. -/
  reserve : Reserve
  debt : Nat
  repayment : Repayment
  /-- The ledger after the repayment. -/
  repaid : Ledger
  loans : LoanBook
  update : Event
  offers : amount ≠ 0
  isOpen : store.loans.openLoan? item = some loan
  active : loan.status = .active
  accrues : store.ledger.accrue loan.asset now = .ok (accrual, accrued)
  found : accrued.reserves.get? loan.asset = some reserve
  owes : reserve.debtOf loan.scaled = .ok debt
  repays : accrued.repay loan.asset loan.scaled (paymentFor store.settings debt amount) =
    .ok (repayment, repaid)
  paysDown : store.loans.payDown loan repayment.remaining now = .ok loans
  updates : { store with ledger := repaid, loans }.reserveUpdate loan.asset now = .ok update

/-- What a repayment pays goes from the caller to the pool, and the tokens are given back when
nothing is left. -/
lemma repay_eq_ok {outcome : Outcome RepayReply}
    (h : store.repay caller item amount now = .ok outcome) :
    ∃ s : RepaySteps store item amount now,
      outcome = {
        reply := ⟨s.repayment.paid, s.repayment.remaining == 0⟩
        store := { store with ledger := s.repaid, loans := s.loans }
        effects := {
          transfers :=
            Transfer.payment s.loan.asset caller store.poolAccount s.repayment.paid ++
              store.release s.loan (s.repayment.remaining == 0)
          events :=
            [.repaid s.loan.asset caller s.loan.debtor s.repayment.paid s.loan.item s.loan.id
              (s.repayment.remaining == 0) now, s.update] } } := by
  simp only [repay, LoanBook.openLoan, Loan.requireStatus, Ledger.reserve, bind_eq_ok,
    require_eq_ok, exists_const, orRefuse_eq_ok, pure_eq_ok, Prod.exists] at h
  obtain ⟨offers, loan, isOpen, active, _, -, _, -, accrual, accrued, accrues, reserve, found,
    debt, owes, repayment, repaid, repays, loans, paysDown, update, updates, rfl⟩ := h
  exact ⟨⟨loan, accrual, accrued, reserve, debt, repayment, repaid, loans, update, offers, isOpen,
    active, accrues, found, owes, repays, paysDown, updates⟩, rfl⟩

/-- A mandate goes to the loan book; nobody gives one to itself. -/
lemma setMandate_eq_ok {delegatee : Account} {approved : Bool} {outcome : Outcome Unit}
    (h : store.setMandate caller delegatee approved now = .ok outcome) :
    caller ≠ delegatee ∧
      outcome = {
        reply := ()
        store := { store with loans := store.loans.setMandate caller delegatee approved }
        effects := { events := [.mandateSet caller delegatee approved now] } } := by
  simp only [setMandate, bind_eq_ok, require_eq_ok, exists_const, pure_eq_ok] at h
  obtain ⟨hne, rfl⟩ := h
  exact ⟨hne, rfl⟩

end Store

end PooledCredit
