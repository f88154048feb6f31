import PooledCredit.Proofs.Collateral.Health
import PooledCredit.Proofs.Loans.Repayments
import PooledCredit.Proofs.Views

/-!
# What a redeem leaves

A redeem that pays a part of the debt is accepted when what it does not pay is worth less than the
collateral at the redeem threshold. The payment is burned rounded down, though, so the loan is left
with a debt that can be one scaled unit larger. The loan is healthy exactly when that debt is worth
no more than the collateral at the liquidation threshold, and it is open to bids at once when it is
not. The test settles this when the two thresholds are a scaled unit apart in worth, but not when
they are the same.
-/

namespace PooledCredit

/-! ## Smaller debts -/

section Worth

variable {price decimals : Nat}

/-- A smaller amount is worth no more. -/
lemma worthOf_up_of_le {amount amount' worth' : Nat} (hle : amount ≤ amount')
    (h : worthOf .up amount' price decimals = .ok worth') :
    ∃ worth, worthOf .up amount price decimals = .ok worth ∧ worth ≤ worth' := by
  obtain ⟨scale, hscale, h⟩ := bind_eq_ok.mp h
  obtain ⟨worth, hworth, hle⟩ := mulDiv_up_of_le hle (Nat.le_refl price) h
  exact ⟨worth, bind_eq_ok.mpr ⟨scale, hscale, hworth⟩, hle⟩

/-- An amount is worth no more than two amounts that make it up together. -/
lemma worthOf_up_le_add {amount part rest worth partWorth restWorth : Nat}
    (hsum : amount ≤ part + rest) (h : worthOf .up amount price decimals = .ok worth)
    (hpart : worthOf .up part price decimals = .ok partWorth)
    (hrest : worthOf .up rest price decimals = .ok restWorth) : worth ≤ partWorth + restWorth := by
  obtain ⟨scale, hscale, h⟩ := bind_eq_ok.mp h
  obtain ⟨_, hscale', hpart⟩ := bind_eq_ok.mp hpart
  obtain rfl := Except.ok.inj (hscale.symm.trans hscale')
  obtain ⟨_, hscale', hrest⟩ := bind_eq_ok.mp hrest
  obtain rfl := Except.ok.inj (hscale.symm.trans hscale')
  have hworth := mulDiv_up_lt h
  have hpart := le_mulDiv_up hpart
  have hrest := le_mulDiv_up hrest
  have hmul : amount * price ≤ part * price + rest * price := by
    rw [← Nat.add_mul]
    exact Nat.mul_le_mul_right price hsum
  have hexact : worth * scale < (partWorth + restWorth + 1) * scale := by
    simp only [Nat.add_mul, Nat.one_mul]
    omega
  exact Nat.le_of_lt_succ (Nat.lt_of_mul_lt_mul_right hexact)

/-- If a value can be told as an amount, so can a smaller one. -/
lemma amountWorth_of_le {value value' amount' : Nat} (hle : value ≤ value')
    (h : amountWorth .down value' price decimals = .ok amount') :
    ∃ amount, amountWorth .down value price decimals = .ok amount := by
  simp only [amountWorth, bind_eq_ok] at h ⊢
  obtain ⟨_, hpriced, scale, hscale, h⟩ := h
  obtain ⟨amount, hamount, -⟩ := mulDiv_down_of_le hle (Nat.le_refl scale) h
  exact ⟨amount, (), hpriced, scale, hscale, hamount⟩

/-- If a debt can be told as a share of the collateral, so can a smaller one. -/
lemma loanToValue_of_le {debt debt' collateral ltv' : Nat} (hle : debt ≤ debt')
    (h : loanToValue debt' collateral = .ok ltv') :
    ∃ ltv, loanToValue debt collateral = .ok ltv := by
  unfold loanToValue at h ⊢
  by_cases hnothing : debt = 0
  · exact ⟨0, if_pos hnothing⟩
  rw [if_neg hnothing]
  rw [if_neg (show debt' ≠ 0 by omega)] at h
  split
  · exact ⟨maxClock, rfl⟩
  · next hvalued =>
    rw [if_neg hvalued] at h
    obtain ⟨share', h, -⟩ := bind_eq_ok.mp h
    obtain ⟨share, hshare, -⟩ := mulDiv_down_of_le hle (Nat.le_refl fullShare) h
    exact ⟨min share maxClock, bind_eq_ok.mpr ⟨share, hshare, rfl⟩⟩

/-- A share of a value that is at most the whole is at most the value. -/
lemma shareOf_le {value bps share : Nat} (hbps : bps ≤ fullShare)
    (h : shareOf .down value bps = .ok share) : share ≤ value := by
  have hle := (mulDiv_down_le h).trans (Nat.mul_le_mul_left value hbps)
  exact Nat.le_of_mul_le_mul_right hle (by decide)

end Worth

/-- Telling a health fails only with an overflow. -/
lemma failsOnly_healthOf {p : Failure → Prop} (ho : p (.refused .overflow))
    (collateral worth threshold : Nat) : FailsOnly p (healthOf collateral worth threshold) := by
  refine failsOnly_ite (fun _ => failsOnly_ok _) fun hworth => ?_
  exact (failsOnly_shareOf ho _ _ _).bind fun _ _ =>
    failsOnly_mulDiv ho fun hzero => absurd hzero hworth

variable {O : Type} [PriceSource O] {prices : O}

/-- When a token can be weighed against a debt, it can be weighed against a smaller one unless the
health overflows, and the health is that of what the smaller debt is worth. -/
lemma Valuation.of_less {p : Failure → Prop} (ho : p (.refused .overflow)) {reserve : Reserve}
    {terms : CollateralTerms} {item : Item} {scaled scaled' now maxAge index left : Nat}
    {valuation : Valuation}
    (h : Valuation.of prices reserve terms item scaled now maxAge = .ok valuation)
    (hltv : terms.ltv ≤ fullShare) (hindex : reserve.debtIndexAt now = .ok index)
    (hleft : rayMul .up scaled' index = .ok left) (hle : left ≤ valuation.debt) :
    ∃ worth, worthOf .up left valuation.price reserve.decimals = .ok worth ∧
      FailsOnly p (Valuation.of prices reserve terms item scaled' now maxAge) ∧
      ∀ health, (∃ valuation', Valuation.of prices reserve terms item scaled' now maxAge =
          .ok valuation' ∧ valuation'.health = health) ↔
        healthOf valuation.collateralValue worth terms.threshold = .ok health := by
  simp only [Valuation.of, bind_eq_ok, pure_eq_ok] at h
  obtain ⟨collateral, hcollateral, price, hprice, index', hindex', debt, hdebt, debtValue, hvalue,
    amount, hamount, capacityValue, hcapacityValue, capacity, hcapacity, ltv, hratio, health,
    hhealth, rfl⟩ := h
  obtain rfl := Except.ok.inj (hindex.symm.trans hindex')
  obtain ⟨worth, hworth, hless⟩ := worthOf_up_of_le hle hvalue
  obtain ⟨ltv', hratio'⟩ := loanToValue_of_le hless hratio
  -- what may still be borrowed is more than before, but still a share of the collateral
  obtain ⟨share, hshare, -⟩ := bind_eq_ok.mp hcapacityValue
  have hcapacityValue' : capacityOf collateral worth terms.ltv = .ok (share - worth) :=
    bind_eq_ok.mpr ⟨share, hshare, rfl⟩
  have hbelow : share - worth ≤ collateral :=
    (Nat.sub_le share worth).trans (shareOf_le hltv hshare)
  obtain ⟨capacity', hcapacity'⟩ := amountWorth_of_le hbelow hamount
  refine ⟨worth, hworth, ?_, fun health => ?_⟩
  · refine FailsOnly.bind_of_ok hcollateral (FailsOnly.bind_of_ok hprice ?_)
    refine FailsOnly.bind_of_ok hindex (FailsOnly.bind_of_ok hleft ?_)
    refine FailsOnly.bind_of_ok hworth (FailsOnly.bind_of_ok hamount ?_)
    refine FailsOnly.bind_of_ok hcapacityValue' (FailsOnly.bind_of_ok hcapacity' ?_)
    exact FailsOnly.bind_of_ok hratio'
      ((failsOnly_healthOf ho _ _ _).bind fun _ _ => failsOnly_pure _)
  · simp only [Valuation.of, bind_eq_ok, pure_eq_ok, hcollateral, hprice, hindex, hleft, hworth,
      hamount, hcapacityValue', hcapacity', hratio', Except.ok.injEq, exists_eq_left']
    constructor
    · rintro ⟨_, ⟨_, hhealth', rfl⟩, rfl⟩
      exact hhealth'
    · exact fun hhealth' => ⟨_, ⟨health, hhealth', rfl⟩, rfl⟩

/-- When a token is weighed against a debt that is not nothing, the collateral at the liquidation
threshold can be told. -/
lemma Valuation.limit_of_debt {reserve : Reserve} {terms : CollateralTerms} {item : Item}
    {scaled now maxAge : Nat} {valuation : Valuation}
    (h : Valuation.of prices reserve terms item scaled now maxAge = .ok valuation)
    (hdebt : 0 < valuation.debt) :
    ∃ limit, shareOf .down valuation.collateralValue terms.threshold = .ok limit := by
  simp only [Valuation.of, bind_eq_ok, pure_eq_ok] at h
  obtain ⟨collateral, -, price, -, _, -, debt, -, debtValue, hvalue, amount, hamount, _, -, _, -, _,
    -, health, hhealth, rfl⟩ := h
  -- an asset that a value can be told in has a price, so the debt is worth something
  obtain ⟨_, hpriced, -⟩ := bind_eq_ok.mp hamount
  obtain ⟨_, -, hvalue⟩ := bind_eq_ok.mp hvalue
  have hprice : 0 < price := Nat.pos_of_ne_zero (require_eq_ok.mp hpriced)
  have hworth : 0 < debtValue := mulDiv_up_pos hvalue (Nat.mul_pos hdebt hprice)
  rw [healthOf, if_neg hworth.ne'] at hhealth
  obtain ⟨limit, hlimit, -⟩ := bind_eq_ok.mp hhealth
  exact ⟨limit, hlimit⟩

/-! ## The loan that a redeem leaves open -/

/-- The loan as a redeem leaves it with a part of its scaled debt. -/
def Loan.reclaimed (loan : Loan) (scaled now : Nat) : Loan :=
  { loan with status := .active, bid := none, scaled, updatedAt := now }

/-- A reclaimed loan is found on its token. -/
lemma LoanBook.Consistent.openLoan?_reclaimed {book : LoanBook} (hb : book.Consistent) {loan : Loan}
    (hfiled : book.loan? loan.id = some loan) (hopen : loan.status.isOpen = true)
    (scaled now : Nat) : (book.setLoan (loan.reclaimed scaled now)).openLoan? loan.item =
      some (loan.reclaimed scaled now) := by
  have hb' : (book.setLoan (loan.reclaimed scaled now)).Consistent :=
    hb.setLoan hfiled hopen.symm rfl
  have hfiled' := LoanBook.loan?_setLoan book (loan.reclaimed scaled now) loan.id
  exact hb'.openLoan?_of_isOpen (hfiled'.trans (if_pos rfl)) rfl

namespace Store

variable {store : Store} {caller : Account} {item : Item} {amount maxFine now : Nat}

/-- Telling the health of a loan fails only as its valuation does. -/
lemma failsOnly_health {p : Failure → Prop} {loan : Loan}
    (hopen : store.loans.openLoan? item = some loan)
    (hv : FailsOnly p (store.valuation prices item loan.asset loan.scaled now)) :
    FailsOnly p (store.health prices item now) := by
  rw [Store.health, hopen]
  refine FailsOnly.bind ?_ fun _ _ => failsOnly_pure _
  exact FailsOnly.bind_of_ok (orRefuse_eq_ok.mpr hopen) (hv.bind fun _ _ => failsOnly_pure _)

/-- When a bid on an active loan is accepted, the loan is told to be unhealthy. -/
lemma unhealthy_of_bid {loan : Loan} (hb : store.loans.Consistent)
    (hopen : store.loans.openLoan? item = some loan) (hactive : loan.status = .active)
    {price : Nat} {bidder : Account} {outcome : Outcome Unit}
    (h : store.bid prices caller item price bidder now = .ok outcome) :
    ∃ health, store.health prices item now = .ok health ∧ health < wad := by
  obtain ⟨s, -⟩ := bid_eq_ok h
  obtain rfl := Option.some.inj (s.isOpen.symm.trans hopen)
  obtain ⟨-, -, hitem⟩ := hb.of_openLoan? hopen
  obtain ⟨hhealth, -⟩ :=
    views_of_valued (hitem.symm ▸ hopen) s.accrues s.configured s.found s.valued
  rw [hitem] at hhealth
  rcases s.admitted with ⟨⟨first⟩⟩ | ⟨⟨later⟩⟩
  · exact ⟨_, hhealth, of_decide_eq_true first.unhealthy⟩
  · exact absurd (hactive.symm.trans later.auction) nofun

/-- An active loan that is told to be unhealthy is open to bids. -/
lemma openToBids_of_unhealthy {loan : Loan} (hb : store.loans.Consistent)
    (hopen : store.loans.openLoan? item = some loan) (hactive : loan.status = .active)
    (h : ∃ health, store.health prices item now = .ok health ∧ health < wad) :
    store.OpenToBids prices loan now := by
  obtain ⟨-, -, rfl⟩ := hb.of_openLoan? hopen
  obtain ⟨health, hhealth, hunhealthy⟩ := h
  rw [Store.health, hopen] at hhealth
  obtain ⟨view, hview, rfl⟩ := map_eq_ok.mp hhealth
  exact .first hactive hview hunhealthy

/-- What a redeem leaves of a loan that it does not close. The loan is active again and has no bid.
It owes at least what was not paid and at most one scaled unit, rounded up, more. What was not paid
is worth less than the collateral at the redeem threshold, which is not above the collateral at the
liquidation threshold. -/
structure RedeemRest (store store' : Store) (prices : O) (item : Item) (paid now : Nat) where
  loan : Loan
  reserve : Reserve
  config : CollateralConfig
  /-- The valuation of the loan before the redeem. -/
  valuation : Valuation
  /-- The debt index of the moment. -/
  index : Nat
  /-- The scaled debt that is left. -/
  scaled : Nat
  /-- The debt that is left. -/
  left : Nat
  /-- What the debt that was not paid is worth. -/
  tested : Nat
  /-- What the debt that is left is worth. -/
  worth : Nat
  /-- The collateral at the redeem threshold. -/
  goal : Nat
  /-- The collateral at the liquidation threshold. -/
  limit : Nat
  isOpen : store.loans.openLoan? item = some loan
  found : store.ledger.reserves.get? loan.asset = some reserve
  reached : store.debtIndexAt loan.asset now = .ok index
  valued : store.valuation prices item loan.asset loan.scaled now = .ok (config, valuation)
  owed : store.owedAt loan now = .ok valuation.debt
  stays : store'.loans.openLoan? item = some (loan.reclaimed scaled now)
  owes : store'.owedAt (loan.reclaimed scaled now) now = .ok left
  short : paid < valuation.debt
  covers : valuation.debt ≤ paid + left
  tight : paid + left ≤ valuation.debt + Rounding.up.divide index ray
  tests : worthOf .up (valuation.debt - paid) valuation.price reserve.decimals = .ok tested
  weighs : worthOf .up left valuation.price reserve.decimals = .ok worth
  goals : shareOf .down valuation.collateralValue config.terms.redeemThreshold = .ok goal
  limits : shareOf .down valuation.collateralValue config.terms.threshold = .ok limit
  passes : tested < goal
  goal_le : goal ≤ limit

namespace RedeemRest

variable {store' : Store} {paid : Nat}

/-- With nothing lost to rounding, the debt that is left is worth what was tested. -/
lemma worth_le_of_exact (r : RedeemRest store store' prices item paid now)
    (hexact : paid + r.left = r.valuation.debt) : r.worth ≤ r.limit := by
  have hleft : r.valuation.debt - paid = r.left := by omega
  have htests := r.tests
  rw [hleft] at htests
  obtain hsame := Except.ok.inj (htests.symm.trans r.weighs)
  have hpasses := r.passes
  have hgoal := r.goal_le
  omega

/-- When the thresholds are the worth of a scaled unit apart, the debt that is left is worth no more
than the collateral at the liquidation threshold. -/
lemma worth_le_of_apart (r : RedeemRest store store' prices item paid now) {unit : Nat}
    (hunit : worthOf .up (Rounding.up.divide r.index ray) r.valuation.price r.reserve.decimals =
      .ok unit) (hapart : r.goal + unit ≤ r.limit) : r.worth ≤ r.limit := by
  have hshort := r.short
  have htight := r.tight
  have hsum : r.left ≤ (r.valuation.debt - paid) + Rounding.up.divide r.index ray := by omega
  have hworth := worthOf_up_le_add hsum r.weighs r.tests hunit
  have hpasses := r.passes
  omega

end RedeemRest

namespace RedeemSteps

/-- The store that a redeem leaves. -/
def after (s : RedeemSteps store prices item amount maxFine now) : Store :=
  { store with ledger := s.repaid, loans := s.loans }

variable {s : RedeemSteps store prices item amount maxFine now}

/-- A redeem values the loan as it was valued before the interest of the moment was accrued. -/
lemma valuation_eq (hitem : s.loan.item = item) :
    store.valuation prices item s.loan.asset s.loan.scaled now = .ok (s.config, s.valuation) := by
  have htold := valuation_of_valued s.accrues s.configured s.found s.valued
  rw [hitem] at htold
  exact htold

/-- After a redeem a token is weighed in the reserve as before, against whatever scaled debt. -/
lemma weighs_again (scaled : Nat) : ∃ reserve,
    s.after.ledger.reserves.get? s.loan.asset = some reserve ∧ reserve.updatedAt = now ∧
      ∀ terms maxAge, Valuation.of prices reserve terms item scaled now maxAge =
        Valuation.of prices s.reserve terms item scaled now maxAge := by
  obtain ⟨_, _, htouch, haccrue⟩ := Ledger.accrue_eq_ok s.accrues
  obtain rfl := htouch.found s.found
  obtain ⟨-, hindex, -, -⟩ := Reserve.accrue_debtIndexAt haccrue
  have hnow : s.reserve.updatedAt = now := Reserve.accrue_updatedAt haccrue
  have hdebt := debtOf_of_valued s.accrues s.found s.valued
  obtain ⟨-, -, _, _, _, _, hreserve⟩ := Ledger.repay_leaves s.found hdebt s.repays
  refine ⟨_, hreserve, hnow, fun terms maxAge => ?_⟩
  refine valuation_congr ?_ ?_ ?_ terms scaled maxAge
  · rfl
  · rfl
  · rw [hindex]
    exact if_pos (.inl hnow.ge)

/-- A redeem that does not close the loan pays a part of the debt. -/
lemma short (hsome : s.repayment.remaining ≠ 0) : s.repayment.paid < s.valuation.debt := by
  have hdebt := debtOf_of_valued s.accrues s.found s.valued
  rcases Ledger.repay_remaining s.found hdebt s.repays with ⟨-, hnothing⟩ | ⟨hshort, -⟩
  · exact absurd hnothing hsome
  · exact hshort

/-- A redeem that does not close the loan reclaims it. -/
lemma stays (hb : store.loans.Consistent) (hsome : s.repayment.remaining ≠ 0) :
    s.after.loans.openLoan? item = some (s.loan.reclaimed s.repayment.remaining now) := by
  obtain ⟨hfiled, hopen, hitem⟩ := hb.of_openLoan? s.isOpen
  have hfound := hb.openLoan?_reclaimed hfiled hopen s.repayment.remaining now
  rcases LoanBook.payDown_eq_ok s.paysDown with ⟨hnothing, -⟩ | ⟨-, hset⟩
  · exact absurd hnothing hsome
  · rw [hitem] at hfound
    exact (congrArg (·.openLoan? item) hset).trans hfound

/-- What a redeem does not pay is worth less than the collateral at the redeem threshold, which is
not above the collateral at the liquidation threshold. -/
lemma passes (hvalid : store.collateral.Valid) (hsome : s.repayment.remaining ≠ 0) :
    ∃ tested goal limit,
      worthOf .up (s.valuation.debt - s.repayment.paid) s.valuation.price s.reserve.decimals =
        .ok tested ∧
      shareOf .down s.valuation.collateralValue s.config.terms.redeemThreshold = .ok goal ∧
      shareOf .down s.valuation.collateralValue s.config.terms.threshold = .ok limit ∧
      tested < goal ∧ goal ≤ limit := by
  have hshort := s.short hsome
  have hdebt := debtOf_of_valued s.accrues s.found s.valued
  obtain ⟨hpaid, -, -⟩ := Ledger.repay_leaves s.found hdebt s.repays
  have hpay : paymentFor store.settings s.valuation.debt amount = s.repayment.paid := by omega
  have hchecks := s.checks
  rw [hpay] at hchecks
  obtain ⟨tested, goal, htests, hgoal, hpasses⟩ := checkRedeem_eq_ok hshort hchecks
  obtain ⟨-, -, -, -, ⟨-, hredeem⟩, -⟩ :=
    CollateralTerms.validate_eq_ok.mp (hvalid.config s.configured)
  obtain ⟨limit, hlimit⟩ := Valuation.limit_of_debt s.valued (Nat.zero_lt_of_lt hshort)
  have hle : goal ≤ limit := mulDiv_down_mono (Nat.le_refl _) hredeem hgoal hlimit
  exact ⟨tested, goal, limit, htests, hgoal, hlimit, hpasses, hle⟩

/-- When the health of a loan is told again after a redeem, it is that of what the debt that is left
is worth, unless it overflows. -/
lemma health_again (hb : store.loans.Consistent) (hvalid : store.collateral.Valid)
    (hsome : s.repayment.remaining ≠ 0) {left : Nat}
    (hleft : s.reserve.debtOf s.repayment.remaining = .ok left) (hle : left ≤ s.valuation.debt) :
    ∃ worth, worthOf .up left s.valuation.price s.reserve.decimals = .ok worth ∧
      FailsOnly (· = .refused .overflow) (s.after.health prices item now) ∧
      ∀ health, s.after.health prices item now = .ok health ↔
        healthOf s.valuation.collateralValue worth s.config.terms.threshold = .ok health := by
  obtain ⟨-, -, hitem⟩ := hb.of_openLoan? s.isOpen
  have hstays := s.stays hb hsome
  obtain ⟨hthreshold, hltv, -⟩ :=
    CollateralTerms.validate_eq_ok.mp (hvalid.config s.configured)
  have hvalued := s.valued
  have hconfigured := s.configured
  rw [hitem] at hvalued hconfigured
  obtain ⟨_, _, htouch, haccrue⟩ := Ledger.accrue_eq_ok s.accrues
  obtain rfl := htouch.found s.found
  obtain ⟨-, hindex, -, -⟩ := Reserve.accrue_debtIndexAt haccrue
  obtain ⟨worth, hworth, hfails, htold⟩ :=
    Valuation.of_less (p := (· = .refused .overflow)) rfl hvalued (hltv.trans hthreshold.le)
      hindex hleft hle
  obtain ⟨reserve, hreserve, -, hsame⟩ := s.weighs_again s.repayment.remaining
  have hvaluation : FailsOnly (· = .refused .overflow)
      (s.after.valuation prices item s.loan.asset s.repayment.remaining now) := by
    refine FailsOnly.bind_of_ok hconfigured (FailsOnly.bind_of_ok (orRefuse_eq_ok.mpr hreserve) ?_)
    rw [hsame]
    exact hfails.bind fun _ _ => failsOnly_pure _
  refine ⟨worth, hworth, failsOnly_health hstays hvaluation, fun health => ?_⟩
  rw [health_eq_ok hstays, ← htold]
  constructor
  · rintro ⟨config, valuation, hv, rfl⟩
    obtain ⟨found, hconfig, hfound, hv⟩ := valuation_eq_ok hv
    obtain rfl := Except.ok.inj (hconfig.symm.trans hconfigured)
    obtain rfl := Option.some.inj (hfound.symm.trans hreserve)
    exact ⟨valuation, (hsame _ _).symm.trans hv, rfl⟩
  · rintro ⟨valuation, hv, rfl⟩
    exact ⟨s.config, valuation, bind_eq_ok.mpr ⟨_, hconfigured,
      bind_eq_ok.mpr ⟨_, orRefuse_eq_ok.mpr hreserve,
        bind_eq_ok.mpr ⟨_, (hsame _ _).trans hv, rfl⟩⟩⟩, rfl⟩

/-- A redeem that does not close the loan leaves it with a rest. When the health of the loan is told
again, it is that of the rest, unless it overflows. -/
lemma rest (hb : store.loans.Consistent) (hvalid : store.collateral.Valid)
    (hsome : s.repayment.remaining ≠ 0) :
    ∃ r : RedeemRest store s.after prices item s.repayment.paid now,
      FailsOnly (· = .refused .overflow) (s.after.health prices item now) ∧
      ∀ health, s.after.health prices item now = .ok health ↔
        healthOf r.valuation.collateralValue r.worth r.config.terms.threshold = .ok health := by
  obtain ⟨-, -, hitem⟩ := hb.of_openLoan? s.isOpen
  have hdebt := debtOf_of_valued s.accrues s.found s.valued
  have hindex : s.after.debtIndexAt (s.loan.reclaimed s.repayment.remaining now).asset now =
      .ok s.reserve.debtIndex := debtIndexAt_of_repaid s.accrues s.found s.repays
  obtain ⟨-, ⟨left, hleaves⟩, -⟩ := Ledger.repay_leaves s.found hdebt s.repays
  obtain ⟨tested, goal, limit, htests, hgoal, hlimit, hpasses, hgoal_le⟩ := s.passes hvalid hsome
  obtain ⟨worth, hworth, htold⟩ := s.health_again hb hvalid hsome hleaves.amounts hleaves.shrinks
  obtain ⟨before, _, htouch, haccrue⟩ := Ledger.accrue_eq_ok s.accrues
  obtain rfl := htouch.found s.found
  obtain ⟨-, -, -, hdecimals⟩ := Reserve.accrue_debtIndexAt haccrue
  rw [hdecimals] at htests hworth
  refine ⟨{
    loan := s.loan
    reserve := before
    config := s.config
    valuation := s.valuation
    index := s.reserve.debtIndex
    scaled := s.repayment.remaining
    left, tested, worth, goal, limit
    isOpen := s.isOpen
    found := htouch.old
    reached := debtIndexAt_of_accrued s.accrues s.found
    valued := s.valuation_eq hitem
    owed := (owedAt_of_accrued s.accrues s.found).trans hdebt
    stays := s.stays hb hsome
    owes := (owedAt_of_debtIndexAt hindex).trans hleaves.amounts
    short := s.short hsome
    covers := hleaves.covers
    tight := hleaves.tight
    tests := htests
    weighs := hworth
    goals := hgoal
    limits := hlimit
    passes := hpasses
    goal_le := hgoal_le }, htold⟩

/-- At the moment of a redeem the reserve can be accrued again. -/
lemma accrues_again : ∃ accrual accrued,
    s.after.ledger.accrue s.loan.asset now = .ok (accrual, accrued) := by
  obtain ⟨reserve, hreserve, rfl, -⟩ := s.weighs_again 0
  exact ⟨_, _, Ledger.accrue_again hreserve⟩

end RedeemSteps

/-- In every reachable store, at any prices and whoever redeems: a redeem that does not close the
loan leaves it active, without a bid, and with a rest of its debt. At the same prices and the same
moment its health is told unless it overflows. It is told to be below one exactly when the rest is
worth more than the collateral at the liquidation threshold: then the loan is open to bids at once,
and otherwise no bid is accepted. The rest is worth no more than that when nothing of the payment
was lost to rounding, and when the collateral at the redeem threshold leaves room for the worth of
one scaled unit. -/
theorem Reachable.redeemed_unhealthy_iff (h : store.Reachable) {outcome : Outcome RedeemReply}
    (hr : store.redeem prices caller item amount maxFine now = .ok outcome)
    (hstays : outcome.reply.closed = false) :
    ∃ r : RedeemRest store outcome.store prices item outcome.reply.repaid now,
      FailsOnly (· = .refused .overflow) (outcome.store.health prices item now) ∧
      ((∃ health, outcome.store.health prices item now = .ok health ∧ health < wad) ↔
        r.limit < r.worth) ∧
      (∀ bidder price winner next,
        outcome.store.bid prices bidder item price winner now = .ok next → r.limit < r.worth) ∧
      (r.limit < r.worth → ∀ view, outcome.store.auctionView prices item now = .ok view →
        ∀ bidder price winner, price ≠ 0 → view.minBid ≤ price →
          ∃ next, outcome.store.bid prices bidder item price winner now = .ok next) ∧
      (outcome.reply.repaid + r.left = r.valuation.debt → r.worth ≤ r.limit) ∧
      ∀ unit, worthOf .up (Rounding.up.divide r.index ray) r.valuation.price r.reserve.decimals =
        .ok unit → r.goal + unit ≤ r.limit → r.worth ≤ r.limit := by
  have hb := h.inStep
  obtain ⟨s, rfl⟩ := redeem_eq_ok hr
  have hsome : s.repayment.remaining ≠ 0 := beq_eq_false_iff_ne.mp hstays
  have hrecords : UserAction.Records prices store caller now (.redeem item amount maxFine) _
      s.loans := redeem_records hb.toConsistent s
  have hb' : s.after.loans.InStep := hrecords.inStep hb
  obtain ⟨r, hfails, htold⟩ := s.rest hb.toConsistent h.collateral_valid hsome
  have hunhealthy : (∃ health, s.after.health prices item now = .ok health ∧ health < wad) ↔
      r.limit < r.worth := by
    simp only [htold]
    exact unhealthy_iff r.limits
  have hfound := s.stays hb.toConsistent hsome
  refine ⟨r, hfails, hunhealthy, ?_, ?_, r.worth_le_of_exact, fun _ => r.worth_le_of_apart⟩
  · intro bidder price winner next hbid
    exact hunhealthy.mp (unhealthy_of_bid hb'.toConsistent hfound rfl hbid)
  · intro hlt view hview bidder price winner hprice hreaches
    have hready := openToBids_of_unhealthy hb'.toConsistent hfound rfl (hunhealthy.mpr hlt)
    obtain ⟨_, _, haccrue⟩ := s.accrues_again
    cases hresult : s.after.bid prices bidder item price winner now with
    | ok next => exact ⟨next, hresult⟩
    | error failure =>
      obtain ⟨hlow, -⟩ := hready.failsOnly_bid hb' hfound haccrue hview hprice failure hresult
      exact absurd hreaches (Nat.not_le_of_lt hlow)

end Store

namespace SmallMarket

/-- Prices of a moment: one base unit for the asset, and a floor of so many for each token. -/
def feedsAt (floor now : Nat) : PriceFeeds :=
  { PriceFeeds.create founder 0 with
    assets := SortedMap.insert ∅ coin ⟨wad, now⟩
    floors := SortedMap.insert ∅ art ⟨floor * wad, now⟩ }

/-- A loan of 2000 has grown to 3000 after a year, when the token is worth 4001 and has a bid. Both
thresholds are at a half of the collateral. -/
def reclaiming : List (Move PriceFeeds NoVault FlatVenue) :=
  [.call ⟨founder, 0, .operator (.grantRole founder .riskManager)⟩,
    .call ⟨founder, 0, .operator (.openReserve coin
      { decimals := 0, model := { base := ray / 2, slope1 := 0, slope2 := 0 } })⟩,
    .call ⟨founder, 0, .operator (.configureCollateral art none { threshold := 5000 })⟩,
    .call ⟨founder, 0, .operator (.registerWrapper art wrappedArt)⟩,
    .fund coin supplier 13000,
    .fund coin borrower 2000,
    .mint ⟨art, 1⟩ borrower,
    .turn (feedsAt 10000 0) {} venue,
    .call ⟨supplier, 0, .user (.deposit coin 10000 supplier 0)⟩,
    .call ⟨borrower, 0, .user (.borrow coin 2000 ⟨art, 1⟩ borrower 0)⟩,
    .turn (feedsAt 4001 year) {} venue,
    .call ⟨supplier, year, .user (.bid ⟨art, 1⟩ 3000 supplier)⟩]

/-- A redeem of 1000 would leave 2000, which is less than half of 4001. But it burns 666 scaled
units, which are worth 999, and the 2001 that are left are more than the half. The bidder can place
the same bid again at once. -/
theorem reclaiming_stays_unhealthy :
    let store := (founded.follow reclaiming).state.store
    ∃ outcome, store.redeem (feedsAt 4001 year) borrower ⟨art, 1⟩ 1000 150 year = .ok outcome ∧
      outcome.reply = ⟨1000, 150, false⟩ ∧
      (∃ r : Store.RedeemRest store outcome.store (feedsAt 4001 year) ⟨art, 1⟩ 1000 year,
        r.limit < r.worth) ∧
      outcome.store.health (feedsAt 4001 year) ⟨art, 1⟩ year = .ok 999750124937531234 ∧
      ∃ next, outcome.store.bid (feedsAt 4001 year) supplier ⟨art, 1⟩ 3000 supplier year =
        .ok next := by
  intro store
  have hreply : (store.redeem (feedsAt 4001 year) borrower ⟨art, 1⟩ 1000 150 year).map
      (fun outcome => (outcome.reply, outcome.store.health (feedsAt 4001 year) ⟨art, 1⟩ year,
        (outcome.store.auctionView (feedsAt 4001 year) ⟨art, 1⟩ year).map AuctionView.minBid)) =
      .ok (⟨1000, 150, false⟩, .ok 999750124937531234, .ok 2001) := by decide +kernel
  obtain ⟨outcome, hrun, hreply⟩ := map_eq_ok.mp hreply
  simp only [Prod.mk.injEq] at hreply
  obtain ⟨hreply, hhealth, hleast⟩ := hreply
  obtain ⟨view, hview, hleast⟩ := map_eq_ok.mp hleast
  obtain ⟨r, -, hunhealthy, -, hbids, -⟩ := Store.Reachable.redeemed_unhealthy_iff
    (founded_reachable reclaiming).store hrun (congrArg RedeemReply.closed hreply)
  have hlt := hunhealthy.mp ⟨_, hhealth, by decide⟩
  have hbid := hbids hlt view hview supplier 3000 supplier (by decide) (hleast.trans_le (by decide))
  have hrest : ∃ r : Store.RedeemRest store outcome.store (feedsAt 4001 year) ⟨art, 1⟩
      outcome.reply.repaid year, r.limit < r.worth := ⟨r, hlt⟩
  rw [hreply] at hrest
  exact ⟨outcome, hrun, hreply, hrest, hhealth, hbid⟩

end SmallMarket

end PooledCredit
