import PooledCredit.Proofs.Requests.Actions
import PooledCredit.View

/-!
# How a loan moves on

A user's action that succeeds opens a loan, or takes one open loan a step further, or leaves every
loan alone. `Loan.Advances` has one constructor for each step that an open loan can take: by which
action, under which conditions, with which transfers and to which loan. `UserAction.Records` says
what the action does to the loan book. What is owed and how healthy a loan is are told by the views
of the store as it stood before the action.
-/

namespace PooledCredit

/-- A loan that is closed with a final status: its debt and its bid are cleared. -/
def Loan.closed (loan : Loan) (status : LoanStatus) (now : Nat) : Loan :=
  { loan with status, bid := none, scaled := 0, updatedAt := now }

variable {O V N : Type} [PriceSource O] [Vault V] [Venue N]

namespace Store

variable {store : Store} {prices : O} {item : Item} {now : Nat}

/-- What a loan owes at a moment, with interest up to it. -/
def owedAt (store : Store) (loan : Loan) (now : Nat) : Result Nat := do
  rayMul .up loan.scaled (← store.debtIndexAt loan.asset now)

/-- What a loan owes is its scaled debt at the debt index of the moment. -/
lemma owedAt_eq_ok {loan : Loan} {debt : Nat} :
    store.owedAt loan now = .ok debt ↔
      ∃ index, store.debtIndexAt loan.asset now = .ok index ∧
        rayMul .up loan.scaled index = .ok debt :=
  bind_eq_ok

/-! ## Views before and after an accrual -/

/-- An accrual at a moment leaves the debt index where it stood at that moment. -/
lemma debtIndexAt_of_accrued {asset : Asset} {accrual : Accrual} {accrued : Ledger}
    {reserve : Reserve} (ha : store.ledger.accrue asset now = .ok (accrual, accrued))
    (hr : accrued.reserves.get? asset = some reserve) :
    store.debtIndexAt asset now = .ok reserve.debtIndex := by
  obtain ⟨before, after, htouch, haccrue⟩ := Ledger.accrue_eq_ok ha
  obtain rfl := htouch.found hr
  simp only [debtIndexAt, Ledger.reserve, bind_eq_ok, orRefuse_eq_ok]
  exact ⟨before, htouch.old, (Reserve.accrue_debtIndexAt haccrue).1⟩

/-- What an accrued reserve is owed for a loan is what the loan owed at that moment anyway. -/
lemma owedAt_of_accrued {loan : Loan} {accrual : Accrual} {accrued : Ledger} {reserve : Reserve}
    (ha : store.ledger.accrue loan.asset now = .ok (accrual, accrued))
    (hr : accrued.reserves.get? loan.asset = some reserve) :
    store.owedAt loan now = reserve.debtOf loan.scaled := by
  simp only [owedAt, debtIndexAt_of_accrued ha hr, Reserve.debtOf, Bind.bind, Except.bind]

/-- A valuation on the accrued ledger tells the debt that the reserve is owed. -/
lemma debtOf_of_valued {asset : Asset} {scaled maxAge : Nat} {terms : CollateralTerms}
    {accrual : Accrual} {accrued : Ledger} {reserve : Reserve} {valuation : Valuation}
    (ha : store.ledger.accrue asset now = .ok (accrual, accrued))
    (hr : accrued.reserves.get? asset = some reserve)
    (hv : Valuation.of prices reserve terms item scaled now maxAge = .ok valuation) :
    reserve.debtOf scaled = .ok valuation.debt := by
  obtain ⟨before, after, htouch, haccrue⟩ := Ledger.accrue_eq_ok ha
  obtain rfl := htouch.found hr
  obtain ⟨-, hindex, -, -⟩ := Reserve.accrue_debtIndexAt haccrue
  simp only [Valuation.of, bind_eq_ok, pure_eq_ok, hindex] at hv
  obtain ⟨_, -, _, -, index, hi, debt, hdebt, _, -, _, -, _, -, _, -, _, -, _, -, rfl⟩ := hv
  obtain rfl := Except.ok.inj hi
  exact hdebt

/-- A valuation reads nothing of a reserve but its asset, its decimals and its debt index. -/
lemma valuation_congr {reserve reserve' : Reserve} (hasset : reserve'.asset = reserve.asset)
    (hdecimals : reserve'.decimals = reserve.decimals)
    (hindex : reserve'.debtIndexAt now = reserve.debtIndexAt now) (terms : CollateralTerms)
    (scaled maxAge : Nat) : Valuation.of prices reserve' terms item scaled now maxAge =
      Valuation.of prices reserve terms item scaled now maxAge := by
  simp only [Valuation.of, hasset, hdecimals, hindex]

/-- An accrual leaves the valuation of every token and debt in its reserve as it was. -/
lemma valuation_accrued {asset : Asset} {accrual : Accrual} {accrued : Ledger}
    (ha : store.ledger.accrue asset now = .ok (accrual, accrued)) (scaled : Nat) :
    { store with ledger := accrued }.valuation prices item asset scaled now =
      store.valuation prices item asset scaled now := by
  obtain ⟨_, _, htouch, haccrue⟩ := Ledger.accrue_eq_ok ha
  obtain ⟨hindex, hindex', hasset, hdecimals⟩ := Reserve.accrue_debtIndexAt haccrue
  simp only [Store.valuation, Ledger.reserve, htouch.old, htouch.new, orRefuse, Bind.bind,
    Except.bind, valuation_congr hasset hdecimals (hindex'.trans hindex.symm)]

/-- A valuation on the accrued ledger is the one that was told before the accrual. -/
lemma valuation_of_valued {asset : Asset} {scaled : Nat} {accrual : Accrual} {accrued : Ledger}
    {reserve : Reserve} {config : CollateralConfig} {valuation : Valuation}
    (ha : store.ledger.accrue asset now = .ok (accrual, accrued))
    (hc : store.collateral.config item = .ok config)
    (hr : accrued.reserves.get? asset = some reserve)
    (hv : Valuation.of prices reserve config.terms item scaled now store.settings.maxPriceAge =
      .ok valuation) :
    store.valuation prices item asset scaled now = .ok (config, valuation) := by
  rw [← valuation_accrued ha]
  exact bind_eq_ok.mpr ⟨_, hc, bind_eq_ok.mpr ⟨_, orRefuse_eq_ok.mpr hr,
    bind_eq_ok.mpr ⟨_, hv, rfl⟩⟩⟩

/-- A loan is told the health of its valuation. -/
lemma health_eq_ok {loan : Loan} {health : Nat} (hopen : store.loans.openLoan? item = some loan) :
    store.health prices item now = .ok health ↔ ∃ config valuation,
      store.valuation prices item loan.asset loan.scaled now = .ok (config, valuation) ∧
        valuation.health = health := by
  rw [Store.health, hopen]
  simp only [debtView, LoanBook.openLoan, hopen, orRefuse, bind_eq_ok, pure_eq_ok, Prod.exists,
    Except.ok.injEq, exists_eq_left']
  constructor
  · rintro ⟨_, ⟨config, valuation, hv, rfl⟩, rfl⟩
    exact ⟨config, valuation, hv, rfl⟩
  · rintro ⟨config, valuation, hv, rfl⟩
    exact ⟨_, ⟨config, valuation, hv, rfl⟩, rfl⟩

/-- A valuation of an open loan on the accrued ledger tells the debt and the health that the views
told before the accrual. -/
lemma views_of_valued {loan : Loan} {accrual : Accrual} {accrued : Ledger} {reserve : Reserve}
    {config : CollateralConfig} {valuation : Valuation}
    (hopen : store.loans.openLoan? loan.item = some loan)
    (ha : store.ledger.accrue loan.asset now = .ok (accrual, accrued))
    (hc : store.collateral.config loan.item = .ok config)
    (hr : accrued.reserves.get? loan.asset = some reserve)
    (hv : Valuation.of prices reserve config.terms loan.item loan.scaled now
      store.settings.maxPriceAge = .ok valuation) :
    store.health prices loan.item now = .ok valuation.health ∧
      store.owedAt loan now = .ok valuation.debt := by
  constructor
  · exact (health_eq_ok hopen).mpr ⟨config, valuation, valuation_of_valued ha hc hr hv, rfl⟩
  · rw [owedAt_of_accrued ha hr]
    exact debtOf_of_valued ha hr hv

end Store

/-! ## The steps of a loan -/

/-- The steps that an open loan can take by a user's action of a caller at a moment, with the
transfers that the action asks for. -/
inductive Loan.Advances (prices : O) (store : Store) (caller : Account) (now : Nat) (loan : Loan) :
    UserAction → List Transfer → Loan → Prop where
  /-- A first bid, which covers the debt, puts an active loan below health one under auction. -/
  | auctioned {price debt fine health : Nat} {bidder : Account} (active : loan.status = .active)
      (healthy : store.health prices loan.item now = .ok health) (unhealthy : health < wad)
      (owes : store.owedAt loan now = .ok debt) (covers : debt ≤ price) (priced : price ≠ 0) :
      Advances prices store caller now loan (.bid loan.item price bidder)
        (Transfer.payment loan.asset caller store.poolAccount price)
        { loan with
          status := .auction
          bid := some ⟨bidder, caller, price, debt, fine, now⟩, updatedAt := now }
  /-- A higher bid, which covers the debt of now, takes the place of a bid whose window is open and
  gives that bid back. -/
  | outbid {price debt : Nat} {bidder : Account} {bid : Bid} {config : CollateralConfig}
      (auction : loan.status = .auction) (locked : loan.bid = some bid)
      (configured : store.collateral.config loan.item = .ok config)
      (inTime : now ≤ bid.startedAt + config.terms.bidWindow) (raises : bid.price < price)
      (owes : store.owedAt loan now = .ok debt) (covers : debt ≤ price) :
      Advances prices store caller now loan (.bid loan.item price bidder)
        (Transfer.payment loan.asset store.poolAccount bid.payer bid.price ++
          Transfer.payment loan.asset caller store.poolAccount price)
        { loan with
          status := .auction
          bid := some ⟨bidder, caller, price, debt, bid.fine, bid.startedAt⟩, updatedAt := now }
  /-- A part of the debt of an active loan is paid. -/
  | paidDown {amount paid debt left : Nat} (active : loan.status = .active)
      (owes : store.owedAt loan now = .ok debt) (short : paid < debt) (rest : left ≠ 0) :
      Advances prices store caller now loan (.repay loan.item amount)
        (Transfer.payment loan.asset caller store.poolAccount paid)
        { loan with scaled := left, updatedAt := now }
  /-- The whole debt of an active loan is paid, and the debtor gets the tokens back. -/
  | repaid {amount debt : Nat} (active : loan.status = .active)
      (owes : store.owedAt loan now = .ok debt) :
      Advances prices store caller now loan (.repay loan.item amount)
        (Transfer.payment loan.asset caller store.poolAccount debt ++
          (Transfer.handover loan.item store.poolAccount loan.debtor ++ [.burn loan.wrapped]))
        (loan.closed .repaid now)
  /-- A part of the debt is paid while the redeem window is open, which takes the loan out of
  auction and gives the bid back with the fine. -/
  | redeemed {amount maxFine paid debt left : Nat} {bid : Bid} {config : CollateralConfig}
      (auction : loan.status = .auction) (locked : loan.bid = some bid)
      (configured : store.collateral.config loan.item = .ok config)
      (inTime : now ≤ bid.startedAt + config.terms.redeemWindow)
      (owes : store.owedAt loan now = .ok debt) (short : paid < debt) (rest : left ≠ 0) :
      Advances prices store caller now loan (.redeem loan.item amount maxFine)
        (Transfer.payment loan.asset caller store.poolAccount (paid + bid.fine) ++
          Transfer.payment loan.asset store.poolAccount bid.payer bid.price ++
            Transfer.payment loan.asset store.poolAccount bid.bidder bid.fine)
        { loan with status := .active, bid := none, scaled := left, updatedAt := now }
  /-- The whole debt is paid while the redeem window is open: the bid is given back with the fine,
  and the debtor gets the tokens back. -/
  | reclaimed {amount maxFine debt : Nat} {bid : Bid} {config : CollateralConfig}
      (auction : loan.status = .auction) (locked : loan.bid = some bid)
      (configured : store.collateral.config loan.item = .ok config)
      (inTime : now ≤ bid.startedAt + config.terms.redeemWindow)
      (owes : store.owedAt loan now = .ok debt) :
      Advances prices store caller now loan (.redeem loan.item amount maxFine)
        (Transfer.payment loan.asset caller store.poolAccount (debt + bid.fine) ++
          Transfer.payment loan.asset store.poolAccount bid.payer bid.price ++
            Transfer.payment loan.asset store.poolAccount bid.bidder bid.fine ++
              (Transfer.handover loan.item store.poolAccount loan.debtor ++ [.burn loan.wrapped]))
        (loan.closed .repaid now)
  /-- The bid settles the loan when its window is over: the token goes to the bidder, and what the
  bid leaves over the debt to the debtor. -/
  | liquidated {minPrice debt : Nat} {bid : Bid} {config : CollateralConfig} {status : LoanStatus}
      (auction : loan.status = .auction) (locked : loan.bid = some bid)
      (configured : store.collateral.config loan.item = .ok config)
      (elapsed : bid.startedAt + config.terms.bidWindow < now)
      (owes : store.owedAt loan now = .ok debt)
      (final : status = .repaid ∨ status = .defaulted) :
      Advances prices store caller now loan (.liquidate loan.item minPrice)
        (Transfer.payment loan.asset store.poolAccount loan.debtor
            (bid.price - min bid.price debt) ++
          Transfer.handover loan.item store.poolAccount bid.bidder ++ [.burn loan.wrapped])
        (loan.closed status now)
  /-- An active loan below health one is settled by the proceeds of a sale to a venue. -/
  | sold {proceeds debt health : Nat} {buyer : Account} {status : LoanStatus}
      (active : loan.status = .active) (healthy : store.health prices loan.item now = .ok health)
      (unhealthy : health < wad) (owes : store.owedAt loan now = .ok debt)
      (final : status = .repaid ∨ status = .defaulted) :
      Advances prices store caller now loan (.sell loan.item)
        (Transfer.handover loan.item store.poolAccount buyer ++
          Transfer.payment loan.asset buyer store.poolAccount proceeds ++
            (Transfer.payment loan.asset store.poolAccount loan.debtor
                (proceeds - min proceeds debt) ++ [.burn loan.wrapped]))
        (loan.closed status now)
  /-- A loan whose bid is past its window is settled by the proceeds of a sale to a venue, and the
  bid is given back. -/
  | soldOver {proceeds debt : Nat} {buyer : Account} {bid : Bid} {config : CollateralConfig}
      {status : LoanStatus} (auction : loan.status = .auction) (locked : loan.bid = some bid)
      (configured : store.collateral.config loan.item = .ok config)
      (elapsed : bid.startedAt + config.terms.bidWindow < now)
      (owes : store.owedAt loan now = .ok debt)
      (final : status = .repaid ∨ status = .defaulted) :
      Advances prices store caller now loan (.sell loan.item)
        (Transfer.payment loan.asset store.poolAccount bid.payer bid.price ++
          Transfer.handover loan.item store.poolAccount buyer ++
            Transfer.payment loan.asset buyer store.poolAccount proceeds ++
              (Transfer.payment loan.asset store.poolAccount loan.debtor
                  (proceeds - min proceeds debt) ++ [.burn loan.wrapped]))
        (loan.closed status now)
  /-- The debt of an active loan is bought off its debtor at a fixed price. -/
  | bought {item : Item} {price : Nat} (active : loan.status = .active) :
      Advances prices store caller now loan (.buyDebt item)
        (Transfer.payment loan.asset caller loan.debtor price ++
          Transfer.handover loan.wrapped loan.debtor caller)
        { loan with debtor := caller }
  /-- The debt of an active loan goes to the highest bidder for it. -/
  | claimed {item : Item} {amount : Nat} {buyer : Account} (active : loan.status = .active) :
      Advances prices store caller now loan (.claimDebt item)
        (Transfer.payment loan.asset store.poolAccount loan.debtor amount ++
          Transfer.handover loan.wrapped loan.debtor buyer)
        { loan with debtor := buyer }

/-- What a user's action of a caller at a moment does to the loan book: it leaves the loans alone,
opens one, takes one a step further, or closes one by its last step. -/
inductive UserAction.Records (prices : O) (store : Store) (caller : Account) (now : Nat) :
    UserAction → List Transfer → LoanBook → Prop where
  | kept {action : UserAction} {transfers : List Transfer} (mandates : SortedSet Mandate) :
      Records prices store caller now action transfers { store.loans with mandates }
  | opened {asset : Asset} {amount referral scaled : Nat} {item wrapped : Item} {debtor : Account}
      {id : LoanId} {loans : LoanBook} {transfers : List Transfer}
      (opens : store.loans.openNew debtor caller item wrapped asset scaled now = .ok (id, loans)) :
      Records prices store caller now (.borrow asset amount item debtor referral) transfers loans
  | advanced {action : UserAction} {transfers : List Transfer} {loan loan' : Loan}
      (filed : store.loans.loan? loan.id = some loan)
      (advances : loan.Advances prices store caller now action transfers loan')
      (stays : loan'.status.isOpen = true) :
      Records prices store caller now action transfers (store.loans.setLoan loan')
  | closed {action : UserAction} {transfers : List Transfer} {loan : Loan} {status : LoanStatus}
      {loans : LoanBook} (filed : store.loans.loan? loan.id = some loan)
      (advances : loan.Advances prices store caller now action transfers (loan.closed status now))
      (closes : store.loans.close loan.id status now = .ok loans) :
      Records prices store caller now action transfers loans

/-! ## What each request records -/

namespace Store

variable {store : Store} {prices : O} {vault : V} {venue : N} {caller : Account} {now : Nat}
variable {item : Item} {amount : Nat}

/-- The least step by which a bid must be raised is positive. -/
lemma bidStep_pos {price increment step : Nat} (h : bidStep price increment = .ok step) :
    0 < step := by
  simp only [bidStep, bind_eq_ok, pure_eq_ok] at h
  obtain ⟨share, -, rfl⟩ := h
  exact Nat.lt_of_lt_of_le Nat.one_pos (Nat.le_max_right _ _)

/-- A later bid raises the bid before it. -/
lemma LaterBid.outbids {settings : Settings} {loan : Loan} {terms : CollateralTerms}
    {valuation : Valuation} {price startedAt fine : Nat} {refund : List Transfer}
    (later : LaterBid settings loan terms valuation price now startedAt fine refund) :
    later.previous.price < price := by
  have hstep := bidStep_pos later.steps
  have hle := later.raises
  omega

/-- A window of a bid closes that long after the first bid. -/
lemma deadline_eq_ok {bid : Bid} {window deadline : Nat} (h : bid.deadline window = .ok deadline) :
    deadline = bid.startedAt + window :=
  (fitClock_eq_ok.mp h).2.symm

/-- The least first bid is at least the debt. -/
lemma debt_le_firstBid {terms : CollateralTerms} {collateral debt required : Nat}
    (h : terms.firstBid collateral debt = .ok required) : debt ≤ required := by
  simp only [CollateralTerms.firstBid, bind_eq_ok, pure_eq_ok] at h
  obtain ⟨_, -, _, -, discounted, -, rfl⟩ := h
  exact Nat.le_max_right _ _

/-- A bid puts a loan under auction or takes the place of the bid before. -/
lemma bid_records (hb : store.loans.Consistent) {price : Nat} {bidder : Account}
    (s : BidSteps store prices caller item price bidder now) :
    UserAction.Records prices store caller now (.bid item price bidder)
      (s.refund ++ Transfer.payment s.loan.asset caller store.poolAccount price)
      (store.loans.setLoan s.bidden) := by
  obtain ⟨hfiled, -, hitem⟩ := hb.of_openLoan? s.isOpen
  have hopen : store.loans.openLoan? s.loan.item = some s.loan := by
    rw [hitem]
    exact s.isOpen
  obtain ⟨hhealth, howed⟩ := views_of_valued hopen s.accrues s.configured s.found s.valued
  rw [show UserAction.bid item price bidder = .bid s.loan.item price bidder by rw [hitem]]
  refine .advanced hfiled ?_ rfl
  rcases s.admitted with ⟨⟨first⟩⟩ | ⟨⟨later⟩⟩
  · have hcovers := (debt_le_firstBid first.requires).trans first.covers
    rw [BidSteps.bidden, first.refunds, first.starts]
    exact .auctioned first.active hhealth (of_decide_eq_true first.unhealthy) howed hcovers s.offers
  · have hinTime := deadline_eq_ok later.closes ▸ later.inTime
    simp only [BidSteps.bidden, later.refunds, later.fines, later.starts]
    exact .outbid later.auction later.locked s.configured hinTime later.outbids howed later.covers

/-- A repayment pays an active loan down or closes it. -/
lemma repay_records (hb : store.loans.Consistent) (s : RepaySteps store item amount now) :
    UserAction.Records prices store caller now (.repay item amount)
      (Transfer.payment s.loan.asset caller store.poolAccount s.repayment.paid ++
        store.release s.loan (s.repayment.remaining == 0)) s.loans := by
  obtain ⟨hfiled, -, hitem⟩ := hb.of_openLoan? s.isOpen
  have howed := (owedAt_of_accrued s.accrues s.found).trans s.owes
  rw [show UserAction.repay item amount = .repay s.loan.item amount by rw [hitem]]
  rcases Ledger.repay_remaining s.found s.owes s.repays with ⟨hpaid, hzero⟩ | ⟨hshort, hrest⟩
  · obtain ⟨-, hclose⟩ | ⟨hne, -⟩ := LoanBook.payDown_eq_ok s.paysDown
    · rw [hpaid, hzero]
      exact .closed hfiled (.repaid s.active howed) hclose
    · exact absurd hzero hne
  · obtain ⟨hz, -⟩ | ⟨-, hset⟩ := LoanBook.payDown_eq_ok s.paysDown
    · exact absurd hz hrest
    · rw [hset, beq_eq_false_iff_ne.mpr hrest, release, if_neg (by decide), List.append_nil]
      refine .advanced hfiled (.paidDown s.active howed hshort hrest) ?_
      show s.loan.status.isOpen = true
      rw [s.active]
      rfl

/-- A redeem takes a loan out of auction or closes it. -/
lemma redeem_records (hb : store.loans.Consistent) {maxFine : Nat}
    (s : RedeemSteps store prices item amount maxFine now) :
    UserAction.Records prices store caller now (.redeem item amount maxFine)
      (Transfer.payment s.loan.asset caller store.poolAccount (s.repayment.paid + s.bid.fine) ++
        Transfer.payment s.loan.asset store.poolAccount s.bid.payer s.bid.price ++
          Transfer.payment s.loan.asset store.poolAccount s.bid.bidder s.bid.fine ++
            store.release s.loan (s.repayment.remaining == 0)) s.loans := by
  obtain ⟨hfiled, -, hitem⟩ := hb.of_openLoan? s.isOpen
  have hdebt := debtOf_of_valued s.accrues s.found s.valued
  have howed := (owedAt_of_accrued s.accrues s.found).trans hdebt
  have hinTime := deadline_eq_ok s.closes ▸ s.inTime
  rw [show UserAction.redeem item amount maxFine = .redeem s.loan.item amount maxFine by
    rw [hitem]]
  rcases Ledger.repay_remaining s.found hdebt s.repays with ⟨hpaid, hzero⟩ | ⟨hshort, hrest⟩
  · obtain ⟨-, hclose⟩ | ⟨hne, -⟩ := LoanBook.payDown_eq_ok s.paysDown
    · rw [hpaid, hzero]
      exact .closed hfiled (.reclaimed s.auction s.locked s.configured hinTime howed) hclose
    · exact absurd hzero hne
  · obtain ⟨hz, -⟩ | ⟨-, hset⟩ := LoanBook.payDown_eq_ok s.paysDown
    · exact absurd hz hrest
    · rw [hset, beq_eq_false_iff_ne.mpr hrest, release, if_neg (by decide), List.append_nil]
      exact .advanced hfiled
        (.redeemed s.auction s.locked s.configured hinTime howed hshort hrest) rfl

/-- A settlement after an accrual closes the loan for what it owed, as repaid or as defaulted. -/
lemma settle_closes {loan : Loan} {proceeds : Nat} {winner : Option Account} {accrual : Accrual}
    {accrued : Ledger} {settlement : Settlement} {store' : Store} {transfers : List Transfer}
    (ha : store.ledger.accrue loan.asset now = .ok (accrual, accrued))
    (hs : { store with ledger := accrued }.settle loan proceeds winner now =
      .ok (settlement, store', transfers)) :
    ∃ debt status, store.owedAt loan now = .ok debt ∧
      (status = .repaid ∨ status = .defaulted) ∧
      store.loans.close loan.id status now = .ok store'.loans ∧
      transfers = Transfer.payment loan.asset store.poolAccount loan.debtor
          (proceeds - min proceeds debt) ++
        winner.elim [] (Transfer.handover loan.item store.poolAccount) ++ [.burn loan.wrapped] := by
  obtain ⟨s, -, rfl, htransfers⟩ := settle_eq_ok hs
  refine ⟨s.debt, _, (owedAt_of_accrued ha s.found).trans s.owes, ?_, s.closes, htransfers⟩
  split
  · exact .inl rfl
  · exact .inr rfl

/-- A liquidation closes a loan whose bid window is over. -/
lemma liquidate_records (hb : store.loans.Consistent) {minPrice : Nat}
    (s : LiquidateSteps store item minPrice now) :
    UserAction.Records prices store caller now (.liquidate item minPrice) s.transfers
      s.store'.loans := by
  obtain ⟨hfiled, -, hitem⟩ := hb.of_openLoan? s.isOpen
  obtain ⟨debt, status, howed, hfinal, hclose, htransfers⟩ := settle_closes s.accrues s.settles
  have hover := deadline_eq_ok s.closes ▸ s.elapsed
  rw [show UserAction.liquidate item minPrice = .liquidate s.loan.item minPrice by rw [hitem],
    htransfers]
  exact .closed hfiled (.liquidated s.auction s.locked s.configured hover howed hfinal) hclose

/-- A sale to a venue closes an unhealthy loan or one whose bid window is over. -/
lemma sell_records (hb : store.loans.Consistent) {venue' : N}
    (s : SellSteps store prices venue item now venue') :
    UserAction.Records prices store caller now (.sell item)
      (s.refund ++ Transfer.handover s.loan.item store.poolAccount (Venue.account venue') ++
        Transfer.payment s.loan.asset (Venue.account venue') store.poolAccount s.proceeds ++
          s.transfers) s.store'.loans := by
  obtain ⟨hfiled, -, hitem⟩ := hb.of_openLoan? s.isOpen
  have hopen : store.loans.openLoan? s.loan.item = some s.loan := by
    rw [hitem]
    exact s.isOpen
  obtain ⟨hhealth, -⟩ := views_of_valued hopen s.accrues s.configured s.found s.valued
  obtain ⟨debt, status, howed, hfinal, hclose, htransfers⟩ := settle_closes s.accrues s.settles
  rw [show UserAction.sell item = .sell s.loan.item by rw [hitem], htransfers, Option.elim_none,
    List.append_nil]
  rcases checkSale_eq_ok s.checks with ⟨hactive, hunhealthy, hrefund⟩ |
    ⟨bid, deadline, hauction, hbid, hdeadline, hover, -, hrefund⟩
  · rw [hrefund]
    exact .closed hfiled
      (.sold hactive hhealth (of_decide_eq_true hunhealthy) howed hfinal) hclose
  · rw [hrefund]
    exact .closed hfiled
      (.soldOver hauction hbid s.configured (deadline_eq_ok hdeadline ▸ hover) howed hfinal) hclose

/-- Passing the debt of a current listing passes the debt of the active loan that is listed. -/
lemma passDebt_current (hb : store.loans.Consistent) {listing : Listing} {buyer : Account}
    {asset : Asset} {transfers : List Transfer} {store' : Store}
    (hcurrent : store.isStale listing = false)
    (h : store.passDebt listing buyer = .ok (asset, transfers, store')) :
    ∃ loan, store.loans.loan? loan.id = some loan ∧ loan.id = listing.loan ∧
      loan.status = .active ∧ loan.debtor = listing.seller ∧ asset = loan.asset ∧
      transfers = Transfer.handover loan.wrapped loan.debtor buyer ∧
      store' = { store with
        loans := store.loans.setLoan { loan with debtor := buyer }
        board := store.board.finish listing .sold } := by
  obtain ⟨s, hasset, htransfers, hstore⟩ := passDebt_eq_ok h
  obtain ⟨loan, hopen, hid, hactive, hseller⟩ := isStale_eq_false.mp hcurrent
  obtain rfl := Option.some.inj (s.isOpen.symm.trans hopen)
  -- the listed loan is the open one, already with its new debtor
  have hfound := s.found
  rw [LoanBook.loan?_setLoan, if_pos hid.symm] at hfound
  have hwrapped : s.listed.wrapped = s.loan.wrapped := by rw [← Option.some.inj hfound]
  refine ⟨s.loan, (hb.of_openLoan? s.isOpen).1, hid, hactive, hseller, hasset, ?_, hstore⟩
  rw [htransfers, hwrapped, hseller]

end Store

variable {action : UserAction} {prices : O} {store : Store} {vault : V} {venue : N}
variable {facility : Facility V N} {caller : Account} {now : Nat} {transfers : List Transfer}

/-- What a user's action that succeeds does to the loan book. -/
theorem UserAction.Serves.records (hb : store.loans.Consistent)
    (h : action.Serves prices store vault venue caller now facility transfers) :
    action.Records prices store caller now transfers facility.store.loans := by
  cases h with
  | deposit | withdraw | list | bidDebt | cancelListing => exact .kept store.loans.mandates
  | borrow s => exact .opened s.opens
  | repay s => exact Store.repay_records hb s
  | setMandate => exact .kept _
  | bid s => exact Store.bid_records hb s
  | redeem s => exact Store.redeem_records hb s
  | liquidate s => exact Store.liquidate_records hb s
  | sell s => exact Store.sell_records hb s
  | buyDebt s =>
    obtain ⟨loan, hfiled, -, hactive, hseller, hasset, hhandover, hstore⟩ :=
      Store.passDebt_current hb s.current s.passes
    show Records prices store caller now _ _ s.store'.loans
    rw [hasset, hhandover, hstore, ← hseller]
    refine .advanced hfiled (.bought hactive) ?_
    show loan.status.isOpen = true
    rw [hactive]
    rfl
  | claimDebt s =>
    obtain ⟨loan, hfiled, -, hactive, hseller, hasset, hhandover, hstore⟩ :=
      Store.passDebt_current hb s.current s.passes
    show Records prices store caller now _ _ s.store'.loans
    rw [hasset, hhandover, hstore, ← hseller]
    refine .advanced hfiled (.claimed hactive) ?_
    show loan.status.isOpen = true
    rw [hactive]
    rfl

end PooledCredit
