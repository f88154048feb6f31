import PooledCredit.Foreclosure.Bidding
import PooledCredit.Foreclosure.Settlement
import PooledCredit.Proofs.Requests.Lending

/-!
# What bidding, redeeming and settling do

The requests around an auction, read like those of lending: a structure holds what a successful
request went through, and one lemma says what it answers.
-/

namespace PooledCredit

namespace Store

variable {store : Store} {caller : Account} {item : Item} {now : Nat}
variable {O : Type} [PriceSource O] {prices : O}

/-- A valuation looks up the terms of the token and the reserve of the debt. -/
lemma valuation_eq_ok {asset : Asset} {scaled : Nat} {config : CollateralConfig}
    {valuation : Valuation}
    (h : store.valuation prices item asset scaled now = .ok (config, valuation)) :
    ∃ reserve, store.collateral.config item = .ok config ∧
      store.ledger.reserves.get? asset = some reserve ∧
      Valuation.of prices reserve config.terms item scaled now store.settings.maxPriceAge =
        .ok valuation := by
  simp only [Store.valuation, Ledger.reserve, bind_eq_ok, orRefuse_eq_ok, pure_eq_ok,
    Prod.mk.injEq] at h
  obtain ⟨_, hc, reserve, hr, _, hv, rfl, rfl⟩ := h
  exact ⟨reserve, hc, hr, hv⟩

/-- A window is over exactly when its deadline has passed. -/
lemma requireOver_eq_ok {deadline : Nat} {u : Unit} :
    requireOver deadline now = .ok u ↔ deadline < now := by
  unfold requireOver
  split
  · next hle =>
    simp only [bind_eq_ok, refuse_eq_ok, and_false, exists_false, false_iff]
    omega
  · next hlt => simp only [true_iff]; omega

/-! ## Bidding -/

/-- What a first bid needs: an unhealthy loan and a price that covers the least first bid. It
starts the windows and sets the fine, and there is nothing to refund. -/
structure FirstBid (loan : Loan) (terms : CollateralTerms) (valuation : Valuation)
    (decimals price now startedAt fine : Nat) (refund : List Transfer) where
  required : Nat
  active : loan.status = .active
  unhealthy : isUnhealthy valuation.health = true
  requires : terms.firstBid valuation.collateralAmount valuation.debt = .ok required
  covers : required ≤ price
  fines : terms.redeemFine valuation.debt valuation.price decimals = .ok fine
  starts : startedAt = now
  refunds : refund = []

/-- What a later bid needs: an open bid window and a price that raises the bid before it by the
least step and covers the debt. Start and fine stay, and the bid before is refunded. -/
structure LaterBid (settings : Settings) (loan : Loan) (terms : CollateralTerms)
    (valuation : Valuation) (price now startedAt fine : Nat) (refund : List Transfer) where
  previous : Bid
  deadline : Nat
  step : Nat
  auction : loan.status = .auction
  locked : loan.bid = some previous
  closes : previous.deadline terms.bidWindow = .ok deadline
  inTime : now ≤ deadline
  steps : bidStep previous.price settings.bidIncrement = .ok step
  raises : previous.price + step ≤ price
  covers : valuation.debt ≤ price
  starts : startedAt = previous.startedAt
  fines : fine = previous.fine
  refunds : refund =
    Transfer.payment loan.asset settings.poolAccount previous.payer previous.price

/-- The steps of a bid. -/
structure BidSteps (store : Store) (prices : O) (caller : Account) (item : Item) (price : Nat)
    (bidder : Account) (now : Nat) where
  loan : Loan
  accrual : Accrual
  /-- The ledger after the accrual. -/
  accrued : Ledger
  config : CollateralConfig
  reserve : Reserve
  valuation : Valuation
  startedAt : Nat
  fine : Nat
  /-- The transfers that refund the bid before. -/
  refund : List Transfer
  update : Event
  offers : price ≠ 0
  isOpen : store.loans.openLoan? item = some loan
  accrues : store.ledger.accrue loan.asset now = .ok (accrual, accrued)
  configured : store.collateral.config loan.item = .ok config
  found : accrued.reserves.get? loan.asset = some reserve
  valued : Valuation.of prices reserve config.terms loan.item loan.scaled now
    store.settings.maxPriceAge = .ok valuation
  admitted :
    Nonempty (FirstBid loan config.terms valuation reserve.decimals price now startedAt fine
      refund) ∨
    Nonempty (LaterBid store.settings loan config.terms valuation price now startedAt fine refund)

/-- The loan as a bid leaves it. -/
def BidSteps.bidden {price : Nat} {bidder : Account}
    (s : BidSteps store prices caller item price bidder now) : Loan :=
  { s.loan with
    status := .auction
    bid := some ⟨bidder, caller, price, s.valuation.debt, s.fine, s.startedAt⟩
    updatedAt := now }

/-- A bid locks its price with the pool, refunds the bid before it and puts the loan under
auction. -/
lemma bid_eq_ok {price : Nat} {bidder : Account} {outcome : Outcome Unit}
    (h : store.bid prices caller item price bidder now = .ok outcome) :
    ∃ s : BidSteps store prices caller item price bidder now,
      { store with
        ledger := s.accrued
        loans := store.loans.setLoan s.bidden }.reserveUpdate s.loan.asset now = .ok s.update ∧
      outcome = {
        reply := ()
        store := { store with ledger := s.accrued, loans := store.loans.setLoan s.bidden }
        effects := {
          transfers := s.refund ++ Transfer.payment s.loan.asset caller store.poolAccount price
          events :=
            [.bidPlaced s.loan.asset caller price bidder s.loan.item s.loan.debtor s.loan.id now,
              s.update] } } := by
  simp only [bid, LoanBook.openLoan, Ledger.reserve, bind_eq_ok, require_eq_ok, exists_const,
    orRefuse_eq_ok, Prod.exists] at h
  obtain ⟨offers, loan, isOpen, _, haccrue, config, valuation, hv, reserve, found, h⟩ := h
  obtain ⟨accrual, accrued, accrues, rfl⟩ := accrue_eq_ok haccrue
  obtain ⟨reserve', configured, hr', valued⟩ := valuation_eq_ok hv
  rw [found] at hr'
  obtain rfl := Option.some.inj hr'
  split at h
  · next active =>
    simp only [bind_eq_ok, require_eq_ok, exists_const, pure_eq_ok] at h
    obtain ⟨unhealthy, required, requires, covers, fine, fines, _, rfl, update, hu, rfl⟩ := h
    exact ⟨⟨loan, accrual, accrued, config, reserve, valuation, _, fine, _, update, offers,
      isOpen, accrues, configured, found, valued,
      .inl ⟨⟨required, active, unhealthy, requires, covers, fines, rfl, rfl⟩⟩⟩, hu, rfl⟩
  · next auction =>
    simp only [Loan.requireBid, bind_eq_ok, require_eq_ok, exists_const, orRefuse_eq_ok,
      pure_eq_ok, addAmount_eq_ok] at h
    obtain ⟨previous, locked, deadline, closes, inTime, step, steps, _, ⟨-, rfl⟩, hle, _, rfl,
      update, hu, rfl⟩ := h
    obtain ⟨raises, covers⟩ := Nat.max_le.mp hle
    exact ⟨⟨loan, accrual, accrued, config, reserve, valuation, _, _, _, update, offers, isOpen,
      accrues, configured, found, valued,
      .inr ⟨⟨previous, deadline, step, auction, locked, closes, inTime, steps, raises, covers,
        rfl, rfl, rfl⟩⟩⟩, hu, rfl⟩
  · simp only [bind_eq_ok, refuse_eq_ok, false_and, exists_const] at h

/-! ## Redeeming -/

/-- The steps of a redeem, which needs a loan under auction and an open redeem window. -/
structure RedeemSteps (store : Store) (prices : O) (item : Item) (amount maxFine now : Nat) where
  loan : Loan
  bid : Bid
  config : CollateralConfig
  deadline : Nat
  accrual : Accrual
  /-- The ledger after the accrual. -/
  accrued : Ledger
  reserve : Reserve
  valuation : Valuation
  repayment : Repayment
  /-- The ledger after the repayment. -/
  repaid : Ledger
  loans : LoanBook
  update : Event
  offers : amount ≠ 0
  isOpen : store.loans.openLoan? item = some loan
  auction : loan.status = .auction
  locked : loan.bid = some bid
  configured : store.collateral.config loan.item = .ok config
  closes : bid.deadline config.terms.redeemWindow = .ok deadline
  inTime : now ≤ deadline
  accrues : store.ledger.accrue loan.asset now = .ok (accrual, accrued)
  found : accrued.reserves.get? loan.asset = some reserve
  valued : Valuation.of prices reserve config.terms loan.item loan.scaled now
    store.settings.maxPriceAge = .ok valuation
  fineAccepted : bid.fine ≤ maxFine
  checks : checkRedeem store.settings config.terms valuation reserve.decimals
    (paymentFor store.settings valuation.debt amount) = .ok ()
  repays : accrued.repay loan.asset loan.scaled (paymentFor store.settings valuation.debt amount) =
    .ok (repayment, repaid)
  paysDown :
    store.loans.payDown { loan with status := .active, bid := none } repayment.remaining now =
      .ok loans
  updates : { store with ledger := repaid, loans }.reserveUpdate loan.asset now = .ok update

/-- A redeem of a part of the debt leaves less of it, in worth, than the collateral at the redeem
threshold. -/
lemma checkRedeem_eq_ok {settings : Settings} {terms : CollateralTerms} {valuation : Valuation}
    {decimals pay : Nat} {u : Unit} (hpart : pay < valuation.debt)
    (h : checkRedeem settings terms valuation decimals pay = .ok u) :
    ∃ worth goal, worthOf .up (valuation.debt - pay) valuation.price decimals = .ok worth ∧
      shareOf .down valuation.collateralValue terms.redeemThreshold = .ok goal ∧ worth < goal := by
  rw [checkRedeem, if_pos hpart] at h
  simp only [bind_eq_ok, require_eq_ok, bareSub_eq_ok, exists_const] at h
  obtain ⟨_, -, -, _, ⟨-, rfl⟩, worth, hworth, goal, hgoal, hlt⟩ := h
  exact ⟨worth, goal, hworth, hgoal, hlt⟩

/-- A redeem takes the payment and the fine from the caller, gives the bid back to its payer with
the fine for the bidder, and gives the tokens back when nothing is left. -/
lemma redeem_eq_ok {amount maxFine : Nat} {outcome : Outcome RedeemReply}
    (h : store.redeem prices caller item amount maxFine now = .ok outcome) :
    ∃ s : RedeemSteps store prices item amount maxFine now,
      outcome = {
        reply := ⟨s.repayment.paid, s.bid.fine, s.repayment.remaining == 0⟩
        store := { store with ledger := s.repaid, loans := s.loans }
        effects := {
          transfers :=
            Transfer.payment s.loan.asset caller store.poolAccount
                (s.repayment.paid + s.bid.fine) ++
              Transfer.payment s.loan.asset store.poolAccount s.bid.payer s.bid.price ++
                Transfer.payment s.loan.asset store.poolAccount s.bid.bidder s.bid.fine ++
                  store.release s.loan (s.repayment.remaining == 0)
          events :=
            [.redeemed s.loan.asset caller s.repayment.paid s.bid.fine s.loan.item s.loan.debtor
              s.loan.id now, s.update] } } := by
  simp only [redeem, LoanBook.openLoan, Loan.requireStatus, Loan.requireBid, Ledger.reserve,
    bind_eq_ok, require_eq_ok, exists_const, orRefuse_eq_ok, pure_eq_ok, addAmount_eq_ok,
    Prod.exists] at h
  obtain ⟨offers, loan, isOpen, auction, bid, locked, config, configured, deadline, closes, inTime,
    _, haccrue, config', valuation, hv, reserve, found, fineAccepted, _, checks, repayment, repaid,
    repays, _, ⟨-, rfl⟩, loans, paysDown, update, updates, rfl⟩ := h
  obtain ⟨accrual, accrued, accrues, rfl⟩ := accrue_eq_ok haccrue
  obtain ⟨reserve', hc', hr', valued⟩ := valuation_eq_ok hv
  rw [found] at hr'
  obtain rfl := Option.some.inj hr'
  rw [configured] at hc'
  obtain rfl := Except.ok.inj hc'
  exact ⟨⟨loan, bid, config, deadline, accrual, accrued, reserve, valuation, repayment, repaid,
    loans, update, offers, isOpen, auction, locked, configured, closes, inTime, accrues, found,
    valued, fineAccepted, checks, repays, paysDown, updates⟩, rfl⟩

/-! ## Settling -/

/-- The steps of a settlement: the proceeds pay the debt as far as they go, what is left of it is
written off, and the loan is closed. -/
structure SettleSteps (store : Store) (loan : Loan) (proceeds now : Nat) where
  reserve : Reserve
  debt : Nat
  remaining : Nat
  /-- The ledger after the repayment. -/
  repaid : Ledger
  loss : Nat
  /-- The ledger after the write-off. -/
  settled : Ledger
  loans : LoanBook
  found : store.ledger.reserves.get? loan.asset = some reserve
  owes : reserve.debtOf loan.scaled = .ok debt
  repays :
    (min proceeds debt = 0 ∧ remaining = loan.scaled ∧ repaid = store.ledger) ∨
    ∃ repayment, min proceeds debt ≠ 0 ∧
      store.ledger.repay loan.asset loan.scaled (min proceeds debt) = .ok (repayment, repaid) ∧
      remaining = repayment.remaining
  writesOff :
    (remaining = 0 ∧ loss = 0 ∧ settled = repaid) ∨
    remaining ≠ 0 ∧ repaid.writeOff loan.asset remaining = .ok (loss, settled)
  closes :
    store.loans.close loan.id (if loss = 0 then .repaid else .defaulted) now = .ok loans

/-- Paying an amount on a debt, unless the amount is zero, leaves the whole debt or what the
payment does. -/
lemma paid_eq_ok {ledger repaid : Ledger} {asset : Asset} {scaled amount remaining : Nat}
    (h : (if amount = 0 then pure (scaled, ledger)
      else (fun (repayment, ledger) => (repayment.remaining, ledger)) <$>
        ledger.repay asset scaled amount) = .ok (remaining, repaid)) :
    (amount = 0 ∧ remaining = scaled ∧ repaid = ledger) ∨
      ∃ repayment, amount ≠ 0 ∧ ledger.repay asset scaled amount = .ok (repayment, repaid) ∧
        remaining = repayment.remaining := by
  split at h
  · next hz =>
    obtain ⟨rfl, rfl⟩ := Prod.mk.inj (pure_eq_ok.mp h)
    exact .inl ⟨hz, rfl, rfl⟩
  · next hnz =>
    obtain ⟨⟨repayment, _⟩, hp, heq⟩ := map_eq_ok.mp h
    obtain ⟨rfl, rfl⟩ := Prod.mk.inj heq
    exact .inr ⟨repayment, hnz, hp, rfl⟩

/-- A settlement passes on the surplus and the tokens. -/
lemma settle_eq_ok {loan : Loan} {proceeds : Nat} {winner : Option Account}
    {settlement : Settlement} {store' : Store} {transfers : List Transfer}
    (h : store.settle loan proceeds winner now = .ok (settlement, store', transfers)) :
    ∃ s : SettleSteps store loan proceeds now,
      settlement = {
        loan := loan.id
        repaid := min proceeds s.debt
        surplus := proceeds - min proceeds s.debt
        loss := s.loss
        status := if s.loss = 0 then .repaid else .defaulted } ∧
      store' = { store with ledger := s.settled, loans := s.loans } ∧
      transfers =
        Transfer.payment loan.asset store.poolAccount loan.debtor
            (proceeds - min proceeds s.debt) ++
          winner.elim [] (Transfer.handover loan.item store.poolAccount) ++
            [.burn loan.wrapped] := by
  simp only [settle, Ledger.reserve, bind_pure_bind, ite_bind, bind_eq_ok, orRefuse_eq_ok,
    pure_eq_ok, bareSub_eq_ok, Prod.exists, Prod.mk.injEq] at h
  obtain ⟨reserve, found, debt, owes, remaining, repaid, hpay, loss, settled, hloss, _, ⟨-, rfl⟩,
    loans, closes, rfl, rfl, rfl⟩ := h
  refine ⟨⟨reserve, debt, remaining, repaid, loss, settled, loans, found, owes, paid_eq_ok hpay, ?_,
    closes⟩, rfl, rfl, ?_⟩
  · split at hloss
    · next hz =>
      obtain ⟨rfl, rfl⟩ := Prod.mk.inj (pure_eq_ok.mp hloss)
      exact .inl ⟨hz, rfl, rfl⟩
    · next hnz => exact .inr ⟨hnz, hloss⟩
  · cases winner <;> rfl

/-- The steps of a liquidation, which needs a loan under auction whose bid window is over. -/
structure LiquidateSteps (store : Store) (item : Item) (minPrice now : Nat) where
  loan : Loan
  bid : Bid
  config : CollateralConfig
  deadline : Nat
  accrual : Accrual
  /-- The ledger after the accrual. -/
  accrued : Ledger
  settlement : Settlement
  store' : Store
  /-- The transfers of the settlement. -/
  transfers : List Transfer
  update : Event
  isOpen : store.loans.openLoan? item = some loan
  auction : loan.status = .auction
  locked : loan.bid = some bid
  configured : store.collateral.config loan.item = .ok config
  closes : bid.deadline config.terms.bidWindow = .ok deadline
  elapsed : deadline < now
  expected : minPrice ≤ bid.price
  accrues : store.ledger.accrue loan.asset now = .ok (accrual, accrued)
  settles : { store with ledger := accrued }.settle loan bid.price (some bid.bidder) now =
    .ok (settlement, store', transfers)
  updates : store'.reserveUpdate loan.asset now = .ok update

/-- A liquidation settles a loan by its bid. -/
lemma liquidate_eq_ok {minPrice : Nat} {outcome : Outcome Settlement}
    (h : store.liquidate caller item minPrice now = .ok outcome) :
    ∃ s : LiquidateSteps store item minPrice now,
      outcome = {
        reply := s.settlement
        store := s.store'
        effects := {
          transfers := s.transfers
          events :=
            [.liquidated s.loan.asset caller s.settlement.repaid s.settlement.surplus
              s.settlement.loss s.loan.item s.loan.debtor s.loan.id now, s.update] } } := by
  simp only [liquidate, LoanBook.openLoan, Loan.requireStatus, Loan.requireBid, bind_eq_ok,
    require_eq_ok, requireOver_eq_ok, exists_const, orRefuse_eq_ok, pure_eq_ok, Prod.exists] at h
  obtain ⟨loan, isOpen, auction, bid, locked, config, configured, deadline, closes, elapsed,
    expected, _, haccrue, settlement, store', transfers, settles, update, updates, rfl⟩ := h
  obtain ⟨accrual, accrued, accrues, rfl⟩ := accrue_eq_ok haccrue
  exact ⟨⟨loan, bid, config, deadline, accrual, accrued, settlement, store', transfers, update,
    isOpen, auction, locked, configured, closes, elapsed, expected, accrues, settles, updates⟩, rfl⟩

/-- A loan may be sold when it is active and unhealthy, or when the window of its bid is over and
the bid has fallen below the floor; the bid is then refunded. -/
lemma checkSale_eq_ok {loan : Loan} {config : CollateralConfig} {valuation : Valuation}
    {floor : Nat} {refund : List Transfer}
    (h : store.checkSale loan config valuation floor now = .ok refund) :
    (loan.status = .active ∧ isUnhealthy valuation.health = true ∧ refund = []) ∨
    ∃ bid deadline, loan.status = .auction ∧ loan.bid = some bid ∧
      bid.deadline config.terms.bidWindow = .ok deadline ∧ deadline < now ∧ bid.price < floor ∧
      refund = Transfer.payment loan.asset store.poolAccount bid.payer bid.price := by
  unfold checkSale at h
  split at h
  · next hactive =>
    simp only [bind_eq_ok, require_eq_ok, exists_const, pure_eq_ok] at h
    obtain ⟨hhealth, rfl⟩ := h
    exact .inl ⟨hactive, hhealth, rfl⟩
  · next hauction =>
    simp only [Loan.requireBid, bind_eq_ok, require_eq_ok, requireOver_eq_ok, exists_const,
      orRefuse_eq_ok, pure_eq_ok] at h
    obtain ⟨bid, hbid, deadline, hd, hover, hlt, rfl⟩ := h
    exact .inr ⟨bid, deadline, hauction, hbid, hd, hover, hlt, rfl⟩
  · exact (refuse_eq_ok.mp h).elim

/-- The steps of a sale to a venue. -/
structure SellSteps {N : Type} [Venue N] (store : Store) (prices : O) (venue : N) (item : Item)
    (now : Nat) (venue' : N) where
  loan : Loan
  accrual : Accrual
  /-- The ledger after the accrual. -/
  accrued : Ledger
  config : CollateralConfig
  reserve : Reserve
  valuation : Valuation
  floor : Nat
  /-- The transfers that refund the bid on the loan. -/
  refund : List Transfer
  proceeds : Nat
  settlement : Settlement
  store' : Store
  /-- The transfers of the settlement. -/
  transfers : List Transfer
  update : Event
  isOpen : store.loans.openLoan? item = some loan
  accrues : store.ledger.accrue loan.asset now = .ok (accrual, accrued)
  configured : store.collateral.config loan.item = .ok config
  found : accrued.reserves.get? loan.asset = some reserve
  valued : Valuation.of prices reserve config.terms loan.item loan.scaled now
    store.settings.maxPriceAge = .ok valuation
  floors : config.terms.saleFloor valuation.collateralAmount = .ok floor
  checks : { store with ledger := accrued }.checkSale loan config valuation floor now = .ok refund
  sells : Venue.sell venue loan.item loan.asset floor = .ok (proceeds, venue')
  covers : floor ≤ proceeds
  settles : { store with ledger := accrued }.settle loan proceeds none now =
    .ok (settlement, store', transfers)
  updates : store'.reserveUpdate loan.asset now = .ok update

/-- A sale refunds the bid, gives the token to the venue for the proceeds and settles the loan
with them. -/
lemma sell_eq_ok {N : Type} [Venue N] {venue venue' : N} {outcome : Outcome Settlement}
    (h : store.sell prices venue caller item now = .ok (outcome, venue')) :
    ∃ s : SellSteps store prices venue item now venue',
      outcome = {
        reply := s.settlement
        store := s.store'
        effects := {
          transfers :=
            s.refund ++ Transfer.handover s.loan.item store.poolAccount (Venue.account venue') ++
              Transfer.payment s.loan.asset (Venue.account venue') store.poolAccount s.proceeds ++
                s.transfers
          events :=
            [.sold s.loan.asset caller s.proceeds s.settlement.repaid s.settlement.surplus
              s.settlement.loss s.loan.item s.loan.debtor s.loan.id now, s.update] } } := by
  simp only [sell, LoanBook.openLoan, bind_eq_ok, require_eq_ok, exists_const, orRefuse_eq_ok,
    pure_eq_ok, Prod.exists, Prod.mk.injEq] at h
  obtain ⟨loan, isOpen, _, haccrue, config, valuation, hv, floor, floors, refund, checks,
    proceeds, _, sells, covers, settlement, store', transfers, settles, update, updates, rfl,
    rfl⟩ := h
  obtain ⟨accrual, accrued, accrues, rfl⟩ := accrue_eq_ok haccrue
  obtain ⟨reserve, configured, found, valued⟩ := valuation_eq_ok hv
  exact ⟨⟨loan, accrual, accrued, config, reserve, valuation, floor, refund, proceeds, settlement,
    store', transfers, update, isOpen, accrues, configured, found, valued, floors, checks, sells,
    covers, settles, updates⟩, rfl⟩

end Store

end PooledCredit
