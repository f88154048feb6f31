import PooledCredit.Proofs.Loans.Exits
import PooledCredit.Proofs.Reserves.Holdings

/-!
# Views tell what actions do

A view projects interest without accruing it, while an action accrues first and then reads the
reserve again. Both come to the same: a repayment in full pays the debt that is told, an active
loan is open to a first bid exactly when the health that is told is below one, a bid is accepted
exactly when it reaches the least bid that is told and carries the fine that is told, and a
withdrawal in full pays the supply that is told. For bids this needs more than equal valuations:
the least bid is computed twice, saturating in the view and checked in the action.
-/

namespace PooledCredit

/-! ## Accruals keep what is told -/

/-- An accrual brings the stored supply index to where it stood at that moment anyway. -/
lemma Reserve.accrue_supplyIndexAt {reserve reserve' : Reserve} {now : Nat} {accrual : Accrual}
    (h : reserve.accrue now = .ok (accrual, reserve')) :
    reserve.supplyIndexAt now = .ok reserve'.supplyIndex := by
  rcases accrue_eq_ok h with ⟨hnow, -, rfl⟩ |
    ⟨-, supplyIndex, _, _, _, _, hindex, -, -, -, -, -, -, -, hu⟩
  · exact if_pos (.inl hnow.le)
  · obtain ⟨_, _, _, -, -, -, rfl⟩ := refreshRates_eq_ok hu
    exact hindex

/-- What an account other than the treasury is told to have is what it can withdraw in full. -/
lemma Ledger.supplyOf_of_withdraw {V : Type} [Vault V] {ledger ledger' : Ledger} {vault vault' : V}
    {asset : Asset} {owner : Account} {now paid : Nat} {movement : Movement}
    (hother : owner ≠ ledger.treasury)
    (h : ledger.withdraw vault asset owner maxAmount now =
      .ok (paid, movement, ledger', vault')) : ledger.supplyOf asset owner now = .ok paid := by
  simp only [withdraw, if_true, Ledger.reserve, bind_eq_ok, require_eq_ok, exists_const,
    orRefuse_eq_ok, pure_eq_ok, Prod.exists, Prod.mk.injEq] at h
  obtain ⟨-, _, -, _, -, accrual, accrued, ha, reserve, hr, balance, hbalance, -, _, -, _, _, _, -,
    -, _, -, _, -, _, -, _, -, hpaid, -⟩ := h
  -- the accrual credits only the treasury
  obtain ⟨-, hholdings⟩ := accrue_mints ha
  have hheld := hholdings asset owner
  rw [if_neg fun hboth => hother hboth.2, Nat.add_zero] at hheld
  obtain ⟨before, after, htouch, haccrue⟩ := accrue_eq_ok ha
  obtain rfl := htouch.found hr
  rw [hheld, hpaid] at hbalance
  have hindex := Reserve.accrue_supplyIndexAt haccrue
  exact bind_eq_ok.mpr ⟨before, orRefuse_eq_ok.mpr htouch.old,
    bind_eq_ok.mpr ⟨reserve.supplyIndex, hindex, hbalance⟩⟩

namespace Store

variable {O : Type} [PriceSource O] {store : Store} {prices : O} {item : Item} {now : Nat}

/-- A debt view values the open loan. -/
lemma debtView_eq_ok {loan : Loan} {view : DebtView}
    (hopen : store.loans.openLoan? item = some loan)
    (h : store.debtView prices item now = .ok view) :
    ∃ config valuation,
      store.valuation prices item loan.asset loan.scaled now = .ok (config, valuation) ∧
      view.debt = valuation.debt ∧ view.health = valuation.health := by
  simp only [debtView, LoanBook.openLoan, bind_eq_ok, orRefuse_eq_ok, pure_eq_ok,
    Prod.exists] at h
  obtain ⟨_, hfound, config, valuation, hv, rfl⟩ := h
  obtain rfl := Option.some.inj (hopen.symm.trans hfound)
  exact ⟨config, valuation, hv, rfl, rfl⟩

/-- An auction view tells the least raise of the bid on the open loan with its fine, or else the
least first bid with the fine that it would set. -/
lemma auctionView_eq_ok {loan : Loan} {view : AuctionView}
    (hopen : store.loans.openLoan? item = some loan)
    (h : store.auctionView prices item now = .ok view) :
    ∃ config valuation,
      store.valuation prices item loan.asset loan.scaled now = .ok (config, valuation) ∧
      ((∃ bid step, loan.bid = some bid ∧
          bidStep bid.price store.settings.bidIncrement = .ok step ∧ view.fine = bid.fine ∧
          view.minBid = max (min (bid.price + step) maxAmount) valuation.debt) ∨
        ∃ reserve, loan.bid = none ∧
          store.ledger.reserves.get? loan.asset = some reserve ∧
          config.terms.redeemFine valuation.debt valuation.price reserve.decimals =
            .ok view.fine ∧
          config.terms.firstBid valuation.collateralAmount valuation.debt = .ok view.minBid) := by
  simp only [auctionView, LoanBook.openLoan, bind_eq_ok, orRefuse_eq_ok, Prod.exists] at h
  obtain ⟨_, hfound, config, valuation, hv, h⟩ := h
  obtain rfl := Option.some.inj (hopen.symm.trans hfound)
  refine ⟨config, valuation, hv, ?_⟩
  split at h
  · next bid hbid =>
    simp only [bind_eq_ok, pure_eq_ok] at h
    obtain ⟨step, hstep, rfl⟩ := h
    exact .inl ⟨bid, step, hbid, hstep, rfl, rfl⟩
  · next hbid =>
    simp only [Ledger.reserve, bind_eq_ok, orRefuse_eq_ok, pure_eq_ok] at h
    obtain ⟨reserve, hr, fine, hfine, required, hrequired, rfl⟩ := h
    exact .inr ⟨reserve, hbid, hr, hfine, hrequired⟩

/-- The valuation of a bid is the one that was told before the accrual. -/
lemma BidSteps.valuation_eq {caller bidder : Account} {price : Nat}
    (s : BidSteps store prices caller item price bidder now) (hitem : s.loan.item = item)
    {config : CollateralConfig} {valuation : Valuation}
    (hv : store.valuation prices item s.loan.asset s.loan.scaled now = .ok (config, valuation)) :
    s.config = config ∧ s.valuation = valuation := by
  have htold := valuation_of_valued s.accrues s.configured s.found s.valued
  rw [hitem] at htold
  exact Prod.mk.inj (Except.ok.inj (htold.symm.trans hv))

end Store

/-! ## How a bid can fail

`p` is any set of failures that contains those that are listed. -/

section Failures

variable {p : Failure → Prop}

namespace CollateralTerms

variable (ho : p (.refused .overflow))
include ho

/-- Computing the least first bid fails only with an overflow, or because the bonus is more than
the whole. -/
lemma failsOnly_firstBid (hbonus : p (.fault .subtraction)) (terms : CollateralTerms)
    (collateral debt : Nat) : FailsOnly p (terms.firstBid collateral debt) := by
  refine (failsOnly_shareOf ho _ _ _).bind fun weighted _ => ?_
  refine FailsOnly.bind ?_ fun rest _ => ?_
  · exact failsOnly_ite (fun _ => failsOnly_ok _) fun _ => failsOnly_breakOff hbonus
  exact (failsOnly_shareOf ho _ _ _).bind fun _ _ => failsOnly_pure _

/-- Computing the fine for redeeming fails only with an overflow, or because the asset has no
price. -/
lemma failsOnly_redeemFine (hprice : p (.refused (.priceZero "conversion")))
    (terms : CollateralTerms) (debt price decimals : Nat) :
    FailsOnly p (terms.redeemFine debt price decimals) := by
  refine (failsOnly_shareOf ho _ _ _).bind fun share _ => ?_
  refine FailsOnly.bind ?_ fun _ _ => failsOnly_pure _
  refine FailsOnly.bind (failsOnly_require fun _ => hprice) fun _ hpriced => ?_
  refine (failsOnly_fitAmount ho _).bind fun _ _ => failsOnly_mulDiv ho fun hzero => ?_
  exact absurd hzero (require_eq_ok.mp hpriced)

end CollateralTerms

namespace Store

variable {O : Type} [PriceSource O] {store : Store} {prices : O} {item : Item} {now : Nat}
variable {loan : Loan} {accrual : Accrual} {accrued : Ledger} {config : CollateralConfig}
variable {valuation : Valuation} {price : Nat}
variable (hopen : store.loans.openLoan? item = some loan) (hitem : loan.item = item)
variable (ha : store.ledger.accrue loan.asset now = .ok (accrual, accrued))
variable (hv : store.valuation prices item loan.asset loan.scaled now = .ok (config, valuation))
variable (hzero : price = 0 → p (.refused .zeroAmount))
include hopen hitem ha hv hzero

/-- A bid on an active loan fails when it is zero, when the loan is healthy, and otherwise when the
least bid or the fine cannot be computed or when it is below the least bid. -/
lemma failsOnly_bid_active (hactive : loan.status = .active) {reserve : Reserve}
    (hr : store.ledger.reserves.get? loan.asset = some reserve)
    (hhealthy : wad ≤ valuation.health → p (.refused (.loanHealthy loan.id valuation.health)))
    (hrequires : valuation.health < wad →
      FailsOnly p (config.terms.firstBid valuation.collateralAmount valuation.debt))
    (hlow : ∀ required, valuation.health < wad →
      config.terms.firstBid valuation.collateralAmount valuation.debt = .ok required →
        price < required → p (.refused (.bidTooLow price required)))
    (hfines : valuation.health < wad →
      FailsOnly p (config.terms.redeemFine valuation.debt valuation.price reserve.decimals))
    (caller bidder : Account) : FailsOnly p (store.bid prices caller item price bidder now) := by
  obtain ⟨_, after, htouch, haccrue⟩ := Ledger.accrue_eq_ok ha
  obtain rfl := Option.some.inj (hr.symm.trans htouch.old)
  obtain ⟨-, -, -, hdecimals⟩ := Reserve.accrue_debtIndexAt haccrue
  have haccrues : store.accrue loan.asset now = .ok { store with ledger := accrued } :=
    bind_eq_ok.mpr ⟨_, ha, rfl⟩
  have hvalued := (valuation_accrued ha _).trans hv
  rw [← hitem] at hvalued
  refine FailsOnly.bind (failsOnly_require fun hc => hzero (not_not.mp hc)) fun _ _ => ?_
  refine FailsOnly.bind_of_ok (orRefuse_eq_ok.mpr hopen) ?_
  refine FailsOnly.bind_of_ok haccrues ?_
  refine FailsOnly.bind_of_ok hvalued ?_
  refine FailsOnly.bind_of_ok (orRefuse_eq_ok.mpr htouch.new) ?_
  simp only [hactive, hdecimals]
  refine FailsOnly.bind (failsOnly_require fun hc => hhealthy ?_) fun _ hpassed => ?_
  · simpa [isUnhealthy] using hc
  have hunhealthy : valuation.health < wad := of_decide_eq_true (require_eq_ok.mp hpassed)
  refine (hrequires hunhealthy).bind fun required hrequired => ?_
  refine FailsOnly.bind (failsOnly_require fun hc => ?_) fun _ _ => ?_
  · exact hlow required hunhealthy hrequired (Nat.lt_of_not_le hc)
  refine (hfines hunhealthy).bind fun fine _ => ?_
  refine FailsOnly.bind (failsOnly_pure _) fun _ _ => ?_
  exact FailsOnly.bind (failsOnly_reserveUpdate ⟨after, htouch.new⟩) fun _ _ => failsOnly_pure _

/-- A bid on a loan under auction whose window is open fails when it is zero, when the raised price
is no amount, or when it is below the raised price or the debt. -/
lemma failsOnly_bid_auction (hauction : loan.status = .auction) {previous : Bid}
    {deadline step : Nat} (hbid : loan.bid = some previous)
    (hcloses : previous.deadline config.terms.bidWindow = .ok deadline) (hinTime : now ≤ deadline)
    (hstep : bidStep previous.price store.settings.bidIncrement = .ok step)
    (hraise : FailsOnly p (addAmount previous.price step))
    (hlow : price < max (previous.price + step) valuation.debt →
      p (.refused (.bidTooLow price (max (previous.price + step) valuation.debt))))
    (caller bidder : Account) : FailsOnly p (store.bid prices caller item price bidder now) := by
  obtain ⟨_, after, htouch, -⟩ := Ledger.accrue_eq_ok ha
  have haccrues : store.accrue loan.asset now = .ok { store with ledger := accrued } :=
    bind_eq_ok.mpr ⟨_, ha, rfl⟩
  have hvalued := (valuation_accrued ha _).trans hv
  rw [← hitem] at hvalued
  refine FailsOnly.bind (failsOnly_require fun hc => hzero (not_not.mp hc)) fun _ _ => ?_
  refine FailsOnly.bind_of_ok (orRefuse_eq_ok.mpr hopen) ?_
  refine FailsOnly.bind_of_ok haccrues ?_
  refine FailsOnly.bind_of_ok hvalued ?_
  refine FailsOnly.bind_of_ok (orRefuse_eq_ok.mpr htouch.new) ?_
  simp only [hauction]
  refine FailsOnly.bind_of_ok (orRefuse_eq_ok.mpr hbid) ?_
  refine FailsOnly.bind_of_ok hcloses ?_
  refine FailsOnly.bind_of_holds hinTime ?_
  refine FailsOnly.bind_of_ok hstep ?_
  refine hraise.bind fun raised hraised => ?_
  obtain ⟨-, rfl⟩ := addAmount_eq_ok.mp hraised
  refine FailsOnly.bind (failsOnly_require fun hc => hlow (Nat.lt_of_not_le hc)) fun _ _ => ?_
  refine FailsOnly.bind (failsOnly_pure _) fun _ _ => ?_
  exact FailsOnly.bind (failsOnly_reserveUpdate ⟨after, htouch.new⟩) fun _ _ => failsOnly_pure _

end Store

end Failures

/-! ## Views and actions -/

namespace Store

variable {O : Type} [PriceSource O] {store : Store} {prices : O} {item : Item} {now price : Nat}
variable {loan : Loan} {accrual : Accrual} {accrued : Ledger} {caller bidder : Account}

/-- A repayment of the largest amount pays the debt that was told. -/
lemma repay_max_pays {view : DebtView} {outcome : Outcome RepayReply}
    (hview : store.debtView prices item now = .ok view)
    (h : store.repay caller item maxAmount now = .ok outcome) : outcome.reply.paid = view.debt := by
  obtain ⟨s, rfl⟩ := repay_eq_ok h
  obtain ⟨_, valuation, hv, hdebt, -⟩ := debtView_eq_ok s.isOpen hview
  obtain ⟨reserve, -, hr, hvalued⟩ := valuation_eq_ok ((valuation_accrued s.accrues _).trans hv)
  obtain rfl := Option.some.inj (s.found.symm.trans hr)
  have howed := debtOf_of_valued s.accrues s.found hvalued
  calc s.repayment.paid
    _ = s.debt := s.pays_all.1
    _ = valuation.debt := Except.ok.inj (s.owes.symm.trans howed)
    _ = view.debt := hdebt.symm

/-- A first bid of something is refused for the health of the loan exactly when the health that is
told is not below one. -/
lemma bid_healthy_iff (hopen : store.loans.openLoan? item = some loan) (hitem : loan.item = item)
    (hactive : loan.status = .active)
    (ha : store.ledger.accrue loan.asset now = .ok (accrual, accrued)) {view : DebtView}
    (hview : store.debtView prices item now = .ok view) {id : LoanId} {health : Nat} :
    store.bid prices caller item price bidder now = .error (.refused (.loanHealthy id health)) ↔
      price ≠ 0 ∧ wad ≤ view.health ∧ id = loan.id ∧ health = view.health := by
  obtain ⟨config, valuation, hv, -, hhealth⟩ := debtView_eq_ok hopen hview
  obtain ⟨reserve, -, hr, -⟩ := valuation_eq_ok hv
  rw [hhealth]
  constructor
  · intro h
    have hfails : FailsOnly (fun e => e = .refused (.loanHealthy id health) →
        wad ≤ valuation.health ∧ id = loan.id ∧ health = valuation.health)
        (store.bid prices caller item price bidder now) := by
      refine failsOnly_bid_active hopen hitem ha hv (fun _ => nofun) hactive hr ?_ ?_ ?_ ?_ _ _
      · intro hhealthy heq
        cases heq
        exact ⟨hhealthy, rfl, rfl⟩
      · exact fun _ => CollateralTerms.failsOnly_firstBid nofun nofun _ _ _
      · exact fun _ _ _ _ => nofun
      · exact fun _ => CollateralTerms.failsOnly_redeemFine nofun nofun _ _ _ _
    refine ⟨?_, hfails _ h rfl⟩
    rintro rfl
    have hnothing : store.bid prices caller item 0 bidder now = .error (.refused .zeroAmount) := rfl
    rw [hnothing] at h
    cases h
  · rintro ⟨hprice, hhealthy, rfl, rfl⟩
    have hfails : FailsOnly (fun e => e = .refused (.loanHealthy loan.id valuation.health))
        (store.bid prices caller item price bidder now) := by
      refine failsOnly_bid_active hopen hitem ha hv ?_ hactive hr ?_ ?_ ?_ ?_ _ _
      · exact fun hzero => absurd hzero hprice
      · exact fun _ => rfl
      · exact fun hlt => absurd hhealthy (Nat.not_le_of_lt hlt)
      · exact fun _ hlt => absurd hhealthy (Nat.not_le_of_lt hlt)
      · exact fun hlt => absurd hhealthy (Nat.not_le_of_lt hlt)
    cases hresult : store.bid prices caller item price bidder now with
    | error e => rw [hfails e hresult]
    | ok outcome =>
      obtain ⟨s, -⟩ := bid_eq_ok hresult
      obtain rfl := Option.some.inj (s.isOpen.symm.trans hopen)
      obtain ⟨-, hsame⟩ := s.valuation_eq hitem hv
      rcases s.admitted with ⟨⟨first⟩⟩ | ⟨⟨later⟩⟩
      · have hunhealthy := of_decide_eq_true first.unhealthy
        rw [hsame] at hunhealthy
        exact absurd hhealthy (Nat.not_le_of_lt hunhealthy)
      · exact absurd (hactive.symm.trans later.auction) nofun

/-- When a loan is open to bids at a moment: it is active and told to be below health one, or it is
under auction, its bid window ends at a time that a clock can read and that is not past, and its
bid can be raised without an overflow. -/
inductive OpenToBids (store : Store) (prices : O) (loan : Loan) (now : Nat) : Prop where
  | first {view : DebtView} (active : loan.status = .active)
      (told : store.debtView prices loan.item now = .ok view) (unhealthy : view.health < wad)
  | later {bid : Bid} {config : CollateralConfig} {deadline step : Nat}
      (auction : loan.status = .auction) (locked : loan.bid = some bid)
      (configured : store.collateral.config loan.item = .ok config)
      (closes : bid.deadline config.terms.bidWindow = .ok deadline) (inTime : now ≤ deadline)
      (steps : bidStep bid.price store.settings.bidIncrement = .ok step)
      (fits : bid.price + step < amountBound)

/-- A bid of something on a loan that is open to bids is refused only when it is below the least
bid that is told. -/
lemma OpenToBids.failsOnly_bid (h : store.OpenToBids prices loan now)
    (hb : store.loans.InStep) (hopen : store.loans.openLoan? item = some loan)
    (ha : store.ledger.accrue loan.asset now = .ok (accrual, accrued)) {view : AuctionView}
    (hview : store.auctionView prices item now = .ok view) (hprice : price ≠ 0) :
    FailsOnly (fun e => price < view.minBid ∧ e = .refused (.bidTooLow price view.minBid))
      (store.bid prices caller item price bidder now) := by
  obtain ⟨hfiled, -, hitem⟩ := hb.of_openLoan? hopen
  have hbids := hb.bids loan.id loan hfiled
  obtain ⟨config, valuation, hv, htold⟩ := auctionView_eq_ok hopen hview
  obtain ⟨reserve, hconfig, hr, -⟩ := valuation_eq_ok hv
  cases h with
  | first active told unhealthy =>
    rw [hitem] at told
    obtain ⟨_, _, hv', -, hhealth⟩ := debtView_eq_ok hopen told
    obtain ⟨rfl, rfl⟩ := Prod.mk.inj (Except.ok.inj (hv.symm.trans hv'))
    rw [hhealth] at unhealthy
    rcases htold with ⟨bid, _, hbid, -⟩ | ⟨reserve', -, hr', hfine, hrequired⟩
    · have hauction : loan.status = .auction := hbids.mp (by rw [hbid]; rfl)
      exact absurd (active.symm.trans hauction) nofun
    · obtain rfl := Option.some.inj (hr.symm.trans hr')
      refine failsOnly_bid_active hopen hitem ha hv ?_ active hr ?_ ?_ ?_ ?_ _ _
      · exact fun hzero => absurd hzero hprice
      · exact fun hhealthy => absurd hhealthy (Nat.not_le_of_lt unhealthy)
      · exact fun _ => hrequired ▸ failsOnly_ok _
      · intro required _ hrequired' hlow
        obtain rfl := Except.ok.inj (hrequired.symm.trans hrequired')
        exact ⟨hlow, rfl⟩
      · exact fun _ => hfine ▸ failsOnly_ok _
  | @later bid _ deadline step auction locked configured closes inTime steps fits =>
    rw [hitem] at configured
    obtain rfl := Except.ok.inj (hconfig.symm.trans configured)
    rcases htold with ⟨bid', step', hbid, hstep, -, hleast⟩ | ⟨_, hbid, -⟩
    · obtain rfl := Option.some.inj (locked.symm.trans hbid)
      obtain rfl := Except.ok.inj (steps.symm.trans hstep)
      -- the view is capped at the largest amount, which the raised price does not exceed
      have hbelow : bid.price + step ≤ maxAmount := Nat.le_sub_one_of_lt fits
      rw [Nat.min_eq_left hbelow] at hleast
      refine failsOnly_bid_auction hopen hitem ha hv ?_ auction locked closes inTime steps ?_ ?_ _ _
      · exact fun hzero => absurd hzero hprice
      · rw [addAmount_eq_ok.mpr ⟨fits, rfl⟩]
        exact failsOnly_ok _
      · intro hlow
        rw [← hleast] at hlow ⊢
        exact ⟨hlow, rfl⟩
    · rw [locked] at hbid
      cases hbid

/-- A bid that is accepted reaches the least bid that is told and is recorded with the fine that is
told. -/
lemma bid_as_told (hb : store.loans.InStep) (hopen : store.loans.openLoan? item = some loan)
    {view : AuctionView} (hview : store.auctionView prices item now = .ok view)
    {outcome : Outcome Unit}
    (h : store.bid prices caller item price bidder now = .ok outcome) :
    view.minBid ≤ price ∧ ∃ bid,
      outcome.store.loans.loan? loan.id =
        some { loan with status := .auction, bid := some bid, updatedAt := now } ∧
      bid.bidder = bidder ∧ bid.payer = caller ∧ bid.price = price ∧ bid.fine = view.fine := by
  obtain ⟨s, -, rfl⟩ := bid_eq_ok h
  obtain rfl := Option.some.inj (s.isOpen.symm.trans hopen)
  obtain ⟨hfiled, -, hitem⟩ := hb.of_openLoan? hopen
  have hbids := hb.bids s.loan.id s.loan hfiled
  obtain ⟨config, valuation, hv, htold⟩ := auctionView_eq_ok hopen hview
  obtain ⟨rfl, rfl⟩ := s.valuation_eq hitem hv
  suffices htells : view.minBid ≤ price ∧ s.fine = view.fine by
    refine ⟨htells.1, ⟨bidder, caller, price, s.valuation.debt, s.fine, s.startedAt⟩, ?_, rfl, rfl,
      rfl, htells.2⟩
    show (store.loans.setLoan s.bidden).loan? s.bidden.id = some s.bidden
    rw [LoanBook.loan?_setLoan, if_pos rfl]
  rcases s.admitted with ⟨⟨first⟩⟩ | ⟨⟨later⟩⟩
  · rcases htold with ⟨bid, _, hbid, -⟩ | ⟨reserve, -, hr, hfine, hrequired⟩
    · have hauction : s.loan.status = .auction := hbids.mp (by rw [hbid]; rfl)
      exact absurd (first.active.symm.trans hauction) nofun
    · obtain ⟨_, after, htouch, haccrue⟩ := Ledger.accrue_eq_ok s.accrues
      obtain rfl := Option.some.inj (hr.symm.trans htouch.old)
      obtain rfl := htouch.found s.found
      obtain ⟨-, -, -, hdecimals⟩ := Reserve.accrue_debtIndexAt haccrue
      have hrequired' := first.requires
      have hfine' := first.fines
      rw [hdecimals] at hfine'
      rw [Except.ok.inj (hrequired.symm.trans hrequired')]
      exact ⟨first.covers, Except.ok.inj (hfine'.symm.trans hfine)⟩
  · rcases htold with ⟨bid, step, hbid, hstep, hfine, hleast⟩ | ⟨_, hbid, -⟩
    · obtain rfl := Option.some.inj (later.locked.symm.trans hbid)
      obtain rfl := Except.ok.inj (later.steps.symm.trans hstep)
      refine ⟨?_, later.fines.trans hfine.symm⟩
      have hraises := later.raises
      have hcovers := later.covers
      omega
    · have hlocked := later.locked
      rw [hbid] at hlocked
      cases hlocked

end Store

/-- In every reachable pool and at any prices, as long as the reserve of an open loan can be
accrued: a repayment of the largest amount pays the debt that is told; a first bid of something is
refused for the health of the loan exactly when the health that is told is not below one; a bid of
something on a loan that is open to bids is refused as too low when it is below the least bid that
is told, and otherwise accepted and recorded with the fine that is told. And a withdrawal of the
largest amount by an account other than the treasury pays the supply that is told. -/
theorem Pool.Reachable.views_agree {O V N P W : Type} [PriceSource O] [Vault V] [Venue N]
    [PriceSource P] [Vault W] {rule : Pool O V N → Move O V N → Prop} {pool : Pool O V N}
    (h : pool.Reachable rule) :
    (∀ (prices : P) item loan now accrued,
      pool.state.store.loans.openLoan? item = some loan →
      pool.state.store.accrue loan.asset now = .ok accrued →
      (∀ view, pool.state.store.debtView prices item now = .ok view → loan.status = .active →
        (∀ caller outcome, pool.state.store.repay caller item maxAmount now = .ok outcome →
          outcome.reply.paid = view.debt) ∧
        ∀ caller price bidder id health,
          pool.state.store.bid prices caller item price bidder now =
              .error (.refused (.loanHealthy id health)) ↔
            price ≠ 0 ∧ wad ≤ view.health ∧ id = loan.id ∧ health = view.health) ∧
      ∀ view, pool.state.store.auctionView prices item now = .ok view →
        pool.state.store.OpenToBids prices loan now → ∀ caller price bidder, price ≠ 0 →
          (price < view.minBid → pool.state.store.bid prices caller item price bidder now =
            .error (.refused (.bidTooLow price view.minBid))) ∧
          (view.minBid ≤ price → ∃ outcome bid,
            pool.state.store.bid prices caller item price bidder now = .ok outcome ∧
            outcome.store.loans.loan? loan.id =
              some { loan with status := .auction, bid := some bid, updatedAt := now } ∧
            bid.bidder = bidder ∧ bid.payer = caller ∧ bid.price = price ∧
            bid.fine = view.fine)) ∧
    ∀ (vault vault' : W) asset account recipient now outcome,
      account ≠ pool.state.store.ledger.treasury →
      pool.state.store.withdraw vault account asset maxAmount recipient now =
        .ok (outcome, vault') →
      pool.state.store.ledger.supplyOf asset account now = .ok outcome.reply := by
  have hb := h.store.inStep
  constructor
  · intro prices item loan now store hopen haccrue
    obtain ⟨_, -, hitem⟩ := hb.of_openLoan? hopen
    obtain ⟨_, accrued, ha, -⟩ := Store.accrue_eq_ok haccrue
    refine ⟨fun view hview hactive => ⟨fun caller outcome => Store.repay_max_pays hview, ?_⟩, ?_⟩
    · exact fun _ _ _ _ _ => Store.bid_healthy_iff hopen hitem hactive ha hview
    intro view hview hready caller price bidder hprice
    have hfails : FailsOnly _ (pool.state.store.bid prices caller item price bidder now) :=
      hready.failsOnly_bid hb hopen ha hview hprice
    cases hresult : pool.state.store.bid prices caller item price bidder now with
    | ok outcome =>
      obtain ⟨hreaches, bid, hbid⟩ := Store.bid_as_told hb hopen hview hresult
      exact ⟨fun hlow => absurd hreaches (Nat.not_le_of_lt hlow),
        fun _ => ⟨outcome, bid, rfl, hbid⟩⟩
    | error e =>
      obtain ⟨hlow, rfl⟩ := hfails e hresult
      exact ⟨fun _ => rfl, fun hreaches => absurd hreaches (Nat.not_le_of_lt hlow)⟩
  · intro vault vault' asset account recipient now outcome hother hw
    obtain ⟨paid, _, _, _, hpaid, -, rfl⟩ := Store.withdraw_eq_ok hw
    exact Ledger.supplyOf_of_withdraw hother hpaid

namespace SmallMarket

/-- The founder supplies 50 as well. -/
def saving : List (Move PriceFeeds NoVault FlatVenue) :=
  [.fund coin founder 50, .call ⟨founder, 0, .user (.deposit coin 50 founder 0)⟩]

/-- Prices at which the token is worth no more than what is lent on it. -/
def fallen : PriceFeeds := { feeds with floors := feeds.floors.insert art ⟨300 * wad, 0⟩ }

/-- An hour later the loan owes 301. At the old price of the token it is too healthy for a bid; at
the fallen one a bid of 300 is too low, and a bid of 301 is accepted and sets a fine of 15. After
ten years the founder takes out just what it is told to have. -/
theorem saving_views :
    let store := (lent.follow saving).state.store
    (∃ outcome, store.repay borrower ⟨art, 1⟩ maxAmount 3600 = .ok outcome ∧
      outcome.reply.paid = 301) ∧
    (∃ health,
      store.bid feeds supplier ⟨art, 1⟩ 301 supplier 3600 =
        .error (.refused (.loanHealthy 1 health))) ∧
    store.bid fallen supplier ⟨art, 1⟩ 300 supplier 3600 = .error (.refused (.bidTooLow 300 301)) ∧
    (∃ outcome bid, store.bid fallen supplier ⟨art, 1⟩ 301 supplier 3600 = .ok outcome ∧
      (outcome.store.loans.loan? 1).bind Loan.bid = some bid ∧ bid.fine = 15) ∧
    ∃ outcome vault', store.withdraw ({} : NoVault) founder coin maxAmount founder (10 * year) =
        .ok (outcome, vault') ∧
      store.ledger.supplyOf coin founder (10 * year) = .ok outcome.reply := by
  intro store
  have hr := lent_follow_reachable saving
  have hloan : (store.loans.openLoan? ⟨art, 1⟩).map
      (fun loan => (loan.id, loan.status, loan.asset, loan.item)) =
        some (1, .active, coin, ⟨art, 1⟩) := by decide +kernel
  have hclock : (store.accrue coin 3600).isOk = true := by decide +kernel
  have hrich : (fun view => (view.debt, decide (wad ≤ view.health))) <$>
      store.debtView feeds ⟨art, 1⟩ 3600 = .ok (301, true) := by decide +kernel
  have hpoor : (fun view => decide (view.health < wad)) <$>
      store.debtView fallen ⟨art, 1⟩ 3600 = .ok true := by decide +kernel
  have htold : (fun view => (view.minBid, view.fine)) <$>
      store.auctionView fallen ⟨art, 1⟩ 3600 = .ok (301, 15) := by decide +kernel
  have hpays : (store.repay borrower ⟨art, 1⟩ maxAmount 3600).isOk = true := by decide +kernel
  have htakes : (store.withdraw ({} : NoVault) founder coin maxAmount founder (10 * year)).isOk =
      true := by decide +kernel
  have hother : founder ≠ store.ledger.treasury := by decide +kernel
  obtain ⟨loan, hopen, heq⟩ := Option.map_eq_some_iff.mp hloan
  simp only [Prod.mk.injEq] at heq
  obtain ⟨hid, hactive, hasset, hitem⟩ := heq
  obtain ⟨accrued, haccrue⟩ := isOk_iff.mp hclock
  rw [← hasset] at haccrue
  obtain ⟨rich, hrich, heq⟩ := map_eq_ok.mp hrich
  obtain ⟨hdebt, hhealthy⟩ := Prod.mk.inj heq
  obtain ⟨poor, hpoor, hunhealthy⟩ := map_eq_ok.mp hpoor
  obtain ⟨view, hview, heq⟩ := map_eq_ok.mp htold
  obtain ⟨hleast, hfine⟩ := Prod.mk.inj heq
  obtain ⟨hviews, hsupply⟩ := Pool.Reachable.views_agree (P := PriceFeeds) (W := NoVault) hr
  obtain ⟨hdebts, -⟩ := hviews feeds ⟨art, 1⟩ loan 3600 accrued hopen haccrue
  obtain ⟨-, hbids⟩ := hviews fallen ⟨art, 1⟩ loan 3600 accrued hopen haccrue
  obtain ⟨hpaid, hrefused⟩ := hdebts rich hrich hactive
  have hready : store.OpenToBids fallen loan 3600 :=
    .first hactive (hitem.symm ▸ hpoor) (of_decide_eq_true hunhealthy)
  refine ⟨?_, ⟨rich.health, ?_⟩, ?_, ?_, ?_⟩
  · obtain ⟨outcome, houtcome⟩ := isOk_iff.mp hpays
    exact ⟨outcome, houtcome, (hpaid _ _ houtcome).trans hdebt⟩
  · exact (hrefused supplier 301 supplier 1 rich.health).mpr
      ⟨by decide, of_decide_eq_true hhealthy, hid.symm, rfl⟩
  · obtain ⟨hlow, -⟩ := hbids view hview hready supplier 300 supplier (by decide)
    rw [hleast] at hlow
    exact hlow (by decide)
  · obtain ⟨-, haccepted⟩ := hbids view hview hready supplier 301 supplier (by decide)
    obtain ⟨outcome, bid, houtcome, hrecorded, -, -, -, hset⟩ := haccepted (hleast.trans_le le_rfl)
    rw [hid] at hrecorded
    exact ⟨outcome, bid, houtcome, by rw [hrecorded]; rfl, hset.trans hfine⟩
  · obtain ⟨⟨outcome, vault'⟩, houtcome⟩ := isOk_iff.mp htakes
    exact ⟨outcome, vault', houtcome, hsupply _ _ _ _ _ _ _ hother houtcome⟩

end SmallMarket

end PooledCredit
