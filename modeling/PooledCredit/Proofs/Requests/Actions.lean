import PooledCredit.Pool.Basic
import PooledCredit.Proofs.Requests.Foreclosure
import PooledCredit.Proofs.Requests.Resale

/-!
# What an action does

A user's action that succeeds is one of fourteen requests, with the steps of that request behind
it. An operator's action changes the ledger by at most one operation of it and leaves the loans,
the listings and custody alone. Neither changes the settings.
-/

namespace PooledCredit

open Store

variable {O V N : Type} [PriceSource O] [Vault V] [Venue N]

/-! ## Users -/

/-- What a user's action that succeeds on a store, a vault and a venue makes of them, and the
transfers that it asks for: for each action the steps it went through and what comes of them. -/
inductive UserAction.Serves (prices : O) (store : Store) (vault : V) (venue : N)
    (caller : Account) (now : Nat) : UserAction → Facility V N → List Transfer → Prop where
  | deposit {asset : Asset} {amount referral scaled : Nat} {beneficiary : Account}
      {ledger : Ledger}
      (deposits : store.ledger.deposit asset beneficiary amount now = .ok (scaled, ledger)) :
      Serves prices store vault venue caller now (.deposit asset amount beneficiary referral)
        ⟨{ store with ledger }, vault, venue⟩
        (Transfer.payment asset caller store.poolAccount amount)
  | withdraw {asset : Asset} {amount paid : Nat} {recipient : Account} {movement : Movement}
      {ledger : Ledger} {vault' : V}
      (withdraws : store.ledger.withdraw vault asset caller amount now =
        .ok (paid, movement, ledger, vault')) :
      Serves prices store vault venue caller now (.withdraw asset amount recipient)
        ⟨{ store with ledger }, vault', venue⟩
        (Transfer.payment asset store.poolAccount recipient paid)
  | borrow {asset : Asset} {amount referral : Nat} {item : Item} {debtor : Account} {vault' : V}
      (s : BorrowSteps store prices vault caller asset amount item debtor now vault') :
      Serves prices store vault venue caller now (.borrow asset amount item debtor referral)
        ⟨{ store with ledger := s.lent, loans := s.loans }, vault', venue⟩
        (Transfer.handover item caller store.poolAccount ++
          .mint s.wrapped debtor :: Transfer.payment asset store.poolAccount caller amount)
  | repay {item : Item} {amount : Nat} (s : RepaySteps store item amount now) :
      Serves prices store vault venue caller now (.repay item amount)
        ⟨{ store with ledger := s.repaid, loans := s.loans }, vault, venue⟩
        (Transfer.payment s.loan.asset caller store.poolAccount s.repayment.paid ++
          store.release s.loan (s.repayment.remaining == 0))
  | setMandate {delegatee : Account} {approved : Bool} (other : caller ≠ delegatee) :
      Serves prices store vault venue caller now (.setMandate delegatee approved)
        ⟨{ store with loans := store.loans.setMandate caller delegatee approved }, vault, venue⟩ []
  | bid {item : Item} {price : Nat} {bidder : Account}
      (s : BidSteps store prices caller item price bidder now) :
      Serves prices store vault venue caller now (.bid item price bidder)
        ⟨{ store with ledger := s.accrued, loans := store.loans.setLoan s.bidden }, vault, venue⟩
        (s.refund ++ Transfer.payment s.loan.asset caller store.poolAccount price)
  | redeem {item : Item} {amount maxFine : Nat}
      (s : RedeemSteps store prices item amount maxFine now) :
      Serves prices store vault venue caller now (.redeem item amount maxFine)
        ⟨{ store with ledger := s.repaid, loans := s.loans }, vault, venue⟩
        (Transfer.payment s.loan.asset caller store.poolAccount (s.repayment.paid + s.bid.fine) ++
          Transfer.payment s.loan.asset store.poolAccount s.bid.payer s.bid.price ++
            Transfer.payment s.loan.asset store.poolAccount s.bid.bidder s.bid.fine ++
              store.release s.loan (s.repayment.remaining == 0))
  | liquidate {item : Item} {minPrice : Nat} (s : LiquidateSteps store item minPrice now) :
      Serves prices store vault venue caller now (.liquidate item minPrice)
        ⟨s.store', vault, venue⟩ s.transfers
  | sell {item : Item} {venue' : N} (s : SellSteps store prices venue item now venue') :
      Serves prices store vault venue caller now (.sell item) ⟨s.store', vault, venue'⟩
        (s.refund ++ Transfer.handover s.loan.item store.poolAccount (Venue.account venue') ++
          Transfer.payment s.loan.asset (Venue.account venue') store.poolAccount s.proceeds ++
            s.transfers)
  | list {item : Item} {kind : SaleKind} {price endsAt : Nat}
      (s : ListSteps store caller item kind price endsAt now) :
      Serves prices store vault venue caller now (.list item kind price endsAt)
        ⟨{ store with board := s.board }, vault, venue⟩ []
  | buyDebt {item : Item} (s : BuyDebtSteps store caller item) :
      Serves prices store vault venue caller now (.buyDebt item) ⟨s.store', vault, venue⟩
        (Transfer.payment s.asset caller s.listing.seller s.listing.price ++ s.handover)
  | bidDebt {item : Item} {amount : Nat} (s : BidDebtSteps store caller item amount now) :
      Serves prices store vault venue caller now (.bidDebt item amount)
        ⟨{ store with
          board := store.board.setListing
            { s.listing with bidder := some caller, bid := amount } }, vault, venue⟩
        ((s.listing.bidder.elim [] fun bidder =>
            Transfer.payment s.loan.asset store.poolAccount bidder s.listing.bid) ++
          Transfer.payment s.loan.asset caller store.poolAccount amount)
  | claimDebt {item : Item} (s : ClaimDebtSteps store item now) :
      Serves prices store vault venue caller now (.claimDebt item) ⟨s.store', vault, venue⟩
        (Transfer.payment s.asset s.store'.poolAccount s.listing.seller s.listing.bid ++
          s.handover)
  | cancelListing {item : Item} (s : CancelSteps store caller item) :
      Serves prices store vault venue caller now (.cancelListing item)
        ⟨{ store with board := store.board.finish s.listing .cancelled }, vault, venue⟩ s.refund

namespace UserAction

variable {action : UserAction} {prices : O} {store : Store} {vault : V} {venue : N}
variable {facility : Facility V N} {caller : Account} {now : Nat}

/-- A liquidation that succeeds went through its steps and answers the settlement. -/
lemma run_liquidate {item : Item} {minPrice : Nat} {reply : Reply} {effects : Effects}
    (h : (liquidate item minPrice).run prices ⟨store, vault, venue⟩ caller now =
      .ok (reply, facility, effects)) :
    ∃ s : LiquidateSteps store item minPrice now, reply = .settled s.settlement ∧
      facility = ⟨s.store', vault, venue⟩ ∧ effects.transfers = s.transfers := by
  simp only [run, conclude, bind_eq_ok, pure_eq_ok, Prod.mk.injEq] at h
  obtain ⟨outcome, ho, rfl, rfl, rfl⟩ := h
  obtain ⟨s, rfl⟩ := Store.liquidate_eq_ok ho
  exact ⟨s, rfl, rfl, rfl⟩

/-- A user's action that succeeds is served. -/
lemma run_serves {reply : Reply} {effects : Effects}
    (h : action.run prices ⟨store, vault, venue⟩ caller now = .ok (reply, facility, effects)) :
    action.Serves prices store vault venue caller now facility effects.transfers := by
  cases action <;>
    simp only [run, conclude, bind_eq_ok, pure_eq_ok, Prod.exists, Prod.mk.injEq] at h
  case deposit =>
    obtain ⟨outcome, ho, -, rfl, rfl⟩ := h
    obtain ⟨_, _, _, hd, -, rfl⟩ := Store.deposit_eq_ok ho
    exact .deposit hd
  case withdraw =>
    obtain ⟨outcome, _, ho, -, rfl, rfl⟩ := h
    obtain ⟨_, _, _, _, hw, -, rfl⟩ := Store.withdraw_eq_ok ho
    exact .withdraw hw
  case borrow =>
    obtain ⟨outcome, _, ho, -, rfl, rfl⟩ := h
    obtain ⟨s, rfl⟩ := Store.borrow_eq_ok ho
    exact .borrow s
  case repay =>
    obtain ⟨outcome, ho, -, rfl, rfl⟩ := h
    obtain ⟨s, rfl⟩ := Store.repay_eq_ok ho
    exact .repay s
  case setMandate =>
    obtain ⟨outcome, ho, -, rfl, rfl⟩ := h
    obtain ⟨hother, rfl⟩ := Store.setMandate_eq_ok ho
    exact .setMandate hother
  case bid =>
    obtain ⟨outcome, ho, -, rfl, rfl⟩ := h
    obtain ⟨s, -, rfl⟩ := Store.bid_eq_ok ho
    exact .bid s
  case redeem =>
    obtain ⟨outcome, ho, -, rfl, rfl⟩ := h
    obtain ⟨s, rfl⟩ := Store.redeem_eq_ok ho
    exact .redeem s
  case liquidate =>
    obtain ⟨outcome, ho, -, rfl, rfl⟩ := h
    obtain ⟨s, rfl⟩ := Store.liquidate_eq_ok ho
    exact .liquidate s
  case sell =>
    obtain ⟨outcome, _, ho, -, rfl, rfl⟩ := h
    obtain ⟨s, rfl⟩ := Store.sell_eq_ok ho
    exact .sell s
  case list =>
    obtain ⟨outcome, ho, -, rfl, rfl⟩ := h
    obtain ⟨s, rfl⟩ := Store.list_eq_ok ho
    exact .list s
  case buyDebt =>
    obtain ⟨outcome, ho, -, rfl, rfl⟩ := h
    obtain ⟨s, rfl⟩ := Store.buyDebt_eq_ok ho
    exact .buyDebt s
  case bidDebt =>
    obtain ⟨outcome, ho, -, rfl, rfl⟩ := h
    obtain ⟨s, rfl⟩ := Store.bidDebt_eq_ok ho
    exact .bidDebt s
  case claimDebt =>
    obtain ⟨outcome, ho, -, rfl, rfl⟩ := h
    obtain ⟨s, rfl⟩ := Store.claimDebt_eq_ok ho
    exact .claimDebt s
  case cancelListing =>
    obtain ⟨outcome, ho, -, rfl, rfl⟩ := h
    obtain ⟨s, rfl⟩ := Store.cancelListing_eq_ok ho
    exact .cancelListing s

/-- No user's action changes the settings. -/
lemma Serves.settings {transfers : List Transfer}
    (h : action.Serves prices store vault venue caller now facility transfers) :
    facility.store.settings = store.settings := by
  cases h with
  | liquidate s | sell s =>
    obtain ⟨_, -, hstore, -⟩ := Store.settle_eq_ok s.settles
    show s.store'.settings = store.settings
    rw [hstore]
  | buyDebt s | claimDebt s =>
    obtain ⟨_, -, -, hstore⟩ := Store.passDebt_eq_ok s.passes
    show s.store'.settings = store.settings
    rw [hstore]
  | deposit | withdraw | borrow | repay | setMandate | bid | redeem | list | bidDebt
    | cancelListing => rfl

end UserAction

/-! ## Operators -/

/-- What an operator's action does to the ledger. -/
inductive Ledger.Administered (V : Type) [Vault V] (ledger : Ledger) : Ledger → Prop where
  | same : Administered V ledger ledger
  | opened {ledger' : Ledger} {asset : Asset} {terms : ReserveTerms} {now : Nat}
      (h : ledger.openReserve asset terms now = .ok ledger') : Administered V ledger ledger'
  | switched {ledger' : Ledger} {asset : Asset} {active frozen borrowing : Bool}
      (h : ledger.setFlags asset active frozen borrowing = .ok ledger') :
      Administered V ledger ledger'
  | factored {ledger' : Ledger} {asset : Asset} {bps now : Nat}
      (h : ledger.setFactor asset bps now = .ok ledger') : Administered V ledger ledger'
  | remodelled {ledger' : Ledger} {asset : Asset} {model : RateModel} {now : Nat}
      (h : ledger.setModel asset model now = .ok ledger') : Administered V ledger ledger'
  | shared {ledger' : Ledger} {asset : Asset} {bps : Nat}
      (h : ledger.setVaultShare asset bps = .ok ledger') : Administered V ledger ledger'
  | rebalanced {middle ledger' : Ledger} {vault vault' : V} {asset : Asset} {now : Nat}
      {accrual : Accrual} {movement : Movement}
      (ha : ledger.accrue asset now = .ok (accrual, middle))
      (h : middle.rebalance vault asset = .ok (movement, ledger', vault')) :
      Administered V ledger ledger'

/-- An operator's action leaves the settings, the loans, the listings and custody alone and
administers the ledger. -/
lemma OperatorAction.run_eq_ok {action : OperatorAction} {state state' : PoolState}
    {vault vault' : V} {caller : Account} {now : Nat} {reply : Reply} {events : EventLog}
    (h : action.run state vault caller now = .ok (reply, state', vault', events)) :
    state'.store.settings = state.store.settings ∧ state'.store.loans = state.store.loans ∧
      state'.store.board = state.store.board ∧ state'.custody = state.custody ∧
      state.store.ledger.Administered V state'.store.ledger := by
  cases action <;>
    simp only [run, PoolState.setCollateral, PoolState.setLedger, bind_eq_ok, pure_eq_ok,
      Prod.exists, Prod.mk.injEq] at h
  case setPause =>
    obtain ⟨_, -, h⟩ := h
    rw [ite_bind] at h
    simp only [bind_eq_ok, pure_eq_ok, Prod.mk.injEq] at h
    obtain ⟨_, -, -, rfl, -⟩ := h
    exact ⟨rfl, rfl, rfl, rfl, .same⟩
  case grantRole =>
    obtain ⟨_, -, _, -, -, rfl, -⟩ := h
    exact ⟨rfl, rfl, rfl, rfl, .same⟩
  case revokeRole =>
    obtain ⟨_, -, _, -, -, rfl, -⟩ := h
    exact ⟨rfl, rfl, rfl, rfl, .same⟩
  case configureCollateral =>
    obtain ⟨_, -, _, -, -, rfl, -⟩ := h
    exact ⟨rfl, rfl, rfl, rfl, .same⟩
  case setCollateralActive =>
    obtain ⟨_, -, _, -, _, -, -, rfl, -⟩ := h
    exact ⟨rfl, rfl, rfl, rfl, .same⟩
  case setCollateralFrozen =>
    obtain ⟨_, -, _, -, _, -, -, rfl, -⟩ := h
    exact ⟨rfl, rfl, rfl, rfl, .same⟩
  case registerWrapper =>
    obtain ⟨_, -, _, -, -, rfl, -⟩ := h
    exact ⟨rfl, rfl, rfl, rfl, .same⟩
  case openReserve =>
    obtain ⟨_, -, _, ho, _, -, -, rfl, -⟩ := h
    exact ⟨rfl, rfl, rfl, rfl, .opened ho⟩
  case setReserveFlags =>
    obtain ⟨_, -, _, ho, _, -, -, rfl, -⟩ := h
    exact ⟨rfl, rfl, rfl, rfl, .switched ho⟩
  case setReserveFactor =>
    obtain ⟨_, -, _, ho, _, -, _, -, -, rfl, -⟩ := h
    exact ⟨rfl, rfl, rfl, rfl, .factored ho⟩
  case setRateModel =>
    obtain ⟨_, -, _, ho, _, -, -, rfl, -⟩ := h
    exact ⟨rfl, rfl, rfl, rfl, .remodelled ho⟩
  case setVaultShare =>
    obtain ⟨_, -, _, ho, -, rfl, -⟩ := h
    exact ⟨rfl, rfl, rfl, rfl, .shared ho⟩
  case rebalance =>
    obtain ⟨_, -, _, _, ha, _, _, _, ho, _, -, -, rfl, -⟩ := h
    exact ⟨rfl, rfl, rfl, rfl, .rebalanced ha ho⟩

end PooledCredit
