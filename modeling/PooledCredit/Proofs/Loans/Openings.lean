import PooledCredit.Proofs.Collateral.Health
import PooledCredit.Proofs.Loans.Advances
import PooledCredit.Proofs.Loans.Debts
import PooledCredit.Proofs.Reserves.Dealings
import PooledCredit.Proofs.Reserves.Operations

/-!
# What a borrow leaves

A borrow is admitted on a valuation without debt, and the loan is weighed again after the amount was
pulled, lent and turned into scaled debt. Between the two the roundings all go one way: the capacity
is a floor of floors, and the debt that is recorded is at least the amount and at most one scaled
unit, rounded up, more. So no amount above the loan-to-value limit in exact numbers is ever lent,
and the loan that is opened is told to be healthy.
-/

namespace PooledCredit

/-! ## Reserves are filed under their assets -/

namespace Reserve

variable {reserve middle reserve' : Reserve}

/-- Refreshing the rates keeps the asset that a change has kept. -/
lemma refreshRates_asset (hu : middle.refreshRates = .ok reserve')
    (h : middle.asset = reserve.asset) : reserve'.asset = reserve.asset := by
  obtain ⟨_, _, _, -, -, -, rfl⟩ := refreshRates_eq_ok hu
  exact h

/-- An accrual keeps the asset. -/
lemma accrue_asset {now : Nat} {accrual : Accrual}
    (h : reserve.accrue now = .ok (accrual, reserve')) : reserve'.asset = reserve.asset :=
  (accrue_debtIndexAt h).2.2.1

/-- An accrual leaves the liquidity where it is, and the decimals as they are. -/
lemma accrue_liquidity {now : Nat} {accrual : Accrual}
    (h : reserve.accrue now = .ok (accrual, reserve')) :
    reserve'.idle = reserve.idle ∧ reserve'.invested = reserve.invested ∧
      reserve'.decimals = reserve.decimals := by
  rcases accrue_eq_ok h with ⟨-, -, rfl⟩ | ⟨-, _, _, _, _, _, -, -, -, -, -, -, -, -, hu⟩
  · exact ⟨rfl, rfl, rfl⟩
  · obtain ⟨_, _, _, -, -, -, rfl⟩ := refreshRates_eq_ok hu
    exact ⟨rfl, rfl, rfl⟩

variable {V : Type} [Vault V] {vault vault' : V} {movement : Movement}

/-- A pull keeps the asset. -/
lemma pull_asset {needed : Nat} (h : reserve.pull vault needed = .ok (movement, reserve', vault')) :
    reserve'.asset = reserve.asset := by
  rcases pull_eq_ok h with ⟨-, rfl, -⟩ | ⟨_, _, received, -, -, hreceive, hu⟩
  · rfl
  · obtain ⟨-, rfl⟩ := receive_eq_ok hreceive
    exact refreshRates_asset hu rfl

/-- A rebalance keeps the asset. -/
lemma rebalance_asset (h : reserve.rebalance vault = .ok (movement, reserve', vault')) :
    reserve'.asset = reserve.asset := by
  obtain ⟨_, known, last, hknown, hu, hmove⟩ := rebalance_eq_ok h
  obtain ⟨-, rfl⟩ := recognize_eq_ok hknown
  refine refreshRates_asset hu ?_
  rcases hmove with ⟨-, rfl, -⟩ | ⟨_, -, -, -, rfl⟩ | ⟨_, _, _, -, -, hreceive, -⟩
  · rfl
  · rfl
  · obtain ⟨-, rfl⟩ := receive_eq_ok hreceive
    rfl

/-- A pull changes nothing when the idle liquidity is enough or nothing is placed. Otherwise it asks
the vault for what is missing, as far as it is placed, and adds what comes back to the idle
liquidity. -/
lemma pull_idle {needed : Nat} (h : reserve.pull vault needed = .ok (movement, reserve', vault')) :
    ((needed ≤ reserve.idle ∨ reserve.invested = 0) ∧ reserve'.idle = reserve.idle ∧
      vault' = vault) ∨
    (reserve.idle < needed ∧ ∃ withdrawal,
      Vault.release vault reserve.asset (min (needed - reserve.idle) reserve.invested) =
        .ok (withdrawal, vault') ∧
      reserve'.idle = reserve.idle + withdrawal.actual) := by
  unfold pull at h
  split at h
  · next henough =>
    cases h
    exact .inl ⟨henough, rfl, rfl⟩
  · next hshort =>
    simp only [bind_eq_ok, pure_eq_ok, bareSub_eq_ok, Prod.exists, Prod.mk.injEq] at h
    obtain ⟨_, ⟨-, rfl⟩, withdrawal, _, hw, _, received, hreceive, updated, hu, -, rfl, rfl⟩ := h
    obtain ⟨-, rfl⟩ := receive_eq_ok hreceive
    obtain ⟨_, _, _, -, -, -, rfl⟩ := refreshRates_eq_ok hu
    exact .inr ⟨by omega, withdrawal, hw, rfl⟩

/-- The scaled debt that an amount is turned into amounts to at least the amount and at most one
scaled unit, rounded up, more. -/
lemma debtOf_lent {scaled amount debt : Nat}
    (hs : rayDiv .up amount reserve.debtIndex = .ok scaled)
    (hd : reserve.debtOf scaled = .ok debt) :
    amount ≤ debt ∧ debt ≤ amount + Rounding.up.divide reserve.debtIndex ray := by
  have hpos : 0 < ray := by decide
  have hcovers : amount * ray ≤ scaled * reserve.debtIndex := le_mulDiv_up hs
  have htight : scaled * reserve.debtIndex < amount * ray + reserve.debtIndex := mulDiv_up_lt hs
  have howed : scaled * reserve.debtIndex ≤ debt * ray := le_mulDiv_up hd
  have hrounded : debt * ray < scaled * reserve.debtIndex + ray := mulDiv_up_lt hd
  have hunit := le_divide_up reserve.debtIndex hpos
  constructor
  · exact Nat.le_of_mul_le_mul_right (hcovers.trans howed) hpos
  · have hsum : debt * ray < (amount + Rounding.up.divide reserve.debtIndex ray + 1) * ray := by
      rw [Nat.add_mul, Nat.add_mul, Nat.one_mul]
      omega
    exact Nat.le_of_lt_succ (Nat.lt_of_mul_lt_mul_right hsum)

end Reserve

namespace Ledger

/-- Every reserve is filed under its asset. -/
def Named (ledger : Ledger) : Prop :=
  ∀ asset reserve, ledger.reserves.get? asset = some reserve → reserve.asset = asset

variable {ledger ledger' : Ledger}

/-- Reserves stay filed under their assets when the one that is touched keeps its asset. -/
lemma Touches.named {asset : Asset} {before after : Reserve}
    (h : Touches asset before after ledger ledger') (hn : ledger.Named)
    (hkeeps : after.asset = before.asset) : ledger'.Named :=
  h.forall_reserves hn hkeeps.trans

/-- Every operation keeps the reserves filed under their assets. -/
lemma Operates.named (h : ledger.Operates ledger') (hn : ledger.Named) : ledger'.Named := by
  cases h with
  | opened h =>
    obtain ⟨reserve, -, -, hreserve, rfl⟩ := openReserve_eq_ok h
    obtain ⟨_, _, _, -, -, -, rfl⟩ := Reserve.refreshRates_eq_ok hreserve
    exact forall_setReserve hn rfl
  | accrued h =>
    obtain ⟨_, _, htouch, ha⟩ := accrue_eq_ok h
    exact htouch.named hn (Reserve.accrue_asset ha)
  | deposited h =>
    obtain ⟨_, _, _, _, htouch, ha, -, hu⟩ := deposit_eq_ok h
    have haccrued := Reserve.accrue_asset ha
    exact htouch.named hn (Reserve.refreshRates_asset hu haccrued)
  | withdrawn h =>
    obtain ⟨_, _, _, _, _, _, htouch, ha, hp, -, -, -, hu⟩ := withdraw_eq_ok h
    have hpulled := (Reserve.pull_asset hp).trans (Reserve.accrue_asset ha)
    exact htouch.named hn (Reserve.refreshRates_asset hu hpulled)
  | lent h =>
    obtain ⟨_, _, _, _, _, _, htouch, -, ha, hp, -, -, hu⟩ := lend_eq_ok h
    have hpulled := (Reserve.pull_asset hp).trans (Reserve.accrue_asset ha)
    exact htouch.named hn (Reserve.refreshRates_asset hu hpulled)
  | repaid h =>
    obtain ⟨_, _, _, htouch, -, -, -, -, -, -, -, hu⟩ := repay_eq_ok h
    exact htouch.named hn (Reserve.refreshRates_asset hu rfl)
  | writtenOff h =>
    obtain ⟨_, _, htouch, -, -, hu⟩ := writeOff_eq_ok h
    exact htouch.named hn (Reserve.refreshRates_asset hu rfl)
  | switched h =>
    obtain ⟨_, htouch⟩ := setFlags_eq_ok h
    exact htouch.named hn rfl
  | factored h =>
    obtain ⟨_, _, _, _, htouch, -, ha, hu⟩ := setFactor_eq_ok h
    have haccrued := Reserve.accrue_asset ha
    exact htouch.named hn (Reserve.refreshRates_asset hu haccrued)
  | remodelled h =>
    obtain ⟨_, _, _, _, htouch, -, ha, hu⟩ := setModel_eq_ok h
    have haccrued := Reserve.accrue_asset ha
    exact htouch.named hn (Reserve.refreshRates_asset hu haccrued)
  | shared h =>
    obtain ⟨_, htouch, -⟩ := setVaultShare_eq_ok h
    exact htouch.named hn rfl
  | pulled found h => exact (touches_setReserve found _).named hn (Reserve.pull_asset h)
  | rebalanced h =>
    obtain ⟨_, _, htouch, hb⟩ := rebalance_eq_ok h
    exact htouch.named hn (Reserve.rebalance_asset hb)

end Ledger

namespace Store

variable {store : Store}

/-- In every reachable store the reserves are filed under their assets. -/
theorem Reachable.named (h : store.Reachable) : store.ledger.Named := by
  obtain ⟨past, htrail⟩ := h
  obtain ⟨settings, start, hc, hrun⟩ := htrail.operates
  exact ledger_invariant Ledger.forall_no_reserves (fun _ _ => Ledger.Operates.named) hc hrun

end Store

/-! ## The loan that a borrow opens -/

/-- What may still be borrowed, told as an amount, keeps the loan-to-value limit in exact
numbers. -/
lemma Valuation.Steps.capacity_exact {O : Type} [PriceSource O] {prices : O} {reserve : Reserve}
    {terms : CollateralTerms} {item : Item} {scaled now maxAge : Nat} {valuation : Valuation}
    (s : Steps prices reserve terms item scaled now maxAge valuation) :
    valuation.capacity * valuation.price * fullShare ≤
      valuation.collateralValue * terms.ltv * 10 ^ reserve.decimals := by
  obtain ⟨share, hshare, hroom⟩ := bind_eq_ok.mp s.rooms
  obtain ⟨_, -, hcapacity⟩ := bind_eq_ok.mp s.capacity
  obtain ⟨scale, hscale, hcapacity⟩ := bind_eq_ok.mp hcapacity
  obtain ⟨-, rfl⟩ := fitAmount_eq_ok.mp hscale
  have htold : valuation.capacity * valuation.price ≤ s.room * 10 ^ reserve.decimals :=
    mulDiv_down_le hcapacity
  have hlimit : share * fullShare ≤ valuation.collateralValue * terms.ltv := mulDiv_down_le hshare
  have hless : s.room ≤ share := pure_eq_ok.mp hroom ▸ Nat.sub_le share _
  calc valuation.capacity * valuation.price * fullShare
      ≤ s.room * 10 ^ reserve.decimals * fullShare := Nat.mul_le_mul_right _ htold
    _ ≤ share * 10 ^ reserve.decimals * fullShare :=
        Nat.mul_le_mul_right _ (Nat.mul_le_mul_right _ hless)
    _ = share * fullShare * 10 ^ reserve.decimals := Nat.mul_right_comm _ _ _
    _ ≤ valuation.collateralValue * terms.ltv * 10 ^ reserve.decimals :=
        Nat.mul_le_mul_right _ hlimit

namespace Store

variable {O V : Type} [PriceSource O] [Vault V] {store : Store} {prices : O} {vault vault' : V}
variable {caller debtor : Account} {asset : Asset} {item : Item} {amount now : Nat}

namespace BorrowSteps

variable (s : BorrowSteps store prices vault caller asset amount item debtor now vault')

/-- The store that a borrow leaves. -/
def opened : Store := { store with ledger := s.lent, loans := s.loans }

/-- The loan that a borrow opens. -/
def loan : Loan where
  id := s.id
  debtor
  initiator := caller
  item
  wrapped := s.wrapped
  asset
  scaled := s.scaled
  status := .active
  bid := none
  createdAt := now
  updatedAt := now

/-- The loan is found on its token. -/
lemma found_open (hb : store.loans.Consistent) : s.opened.loans.openLoan? item = some s.loan := by
  have hb' : s.loans.Consistent := hb.openNew s.opens
  obtain ⟨-, -, hloans⟩ := LoanBook.openNew_eq_ok s.opens
  have hfiled : s.loans.loan? s.id = some s.loan := by
    rw [LoanBook.loan?_insert (congrArg LoanBook.loans hloans), if_pos rfl]
    rfl
  exact hb'.openLoan?_of_isOpen hfiled rfl

/-- A token that takes a new loan is accepted as collateral. -/
lemma configured : store.collateral.config item = .ok s.config := by
  have haccepted := s.accepted
  simp only [CollateralRegistry.requireBorrowable, bind_eq_ok, require_eq_ok, exists_const,
    pure_eq_ok] at haccepted
  obtain ⟨config, hconfig, -, -, -, -, rfl⟩ := haccepted
  exact hconfig

/-- The loan is told the health of its valuation. -/
lemma health (hb : store.loans.Consistent) :
    s.opened.health prices item now = .ok s.after.health := by
  refine (health_eq_ok (s.found_open hb)).mpr ⟨s.config, s.after, ?_, rfl⟩
  exact bind_eq_ok.mpr ⟨_, s.configured, bind_eq_ok.mpr ⟨_, orRefuse_eq_ok.mpr s.refound,
    bind_eq_ok.mpr ⟨_, s.revalued, rfl⟩⟩⟩

/-- What a borrow does to the reserve: it is accrued, the amount is turned into scaled debt rounded
up, and the idle liquidity falls by the amount but for what the vault returns when it is asked for
what is missing. -/
lemma charges : s.charged.updatedAt = now ∧
    rayDiv .up amount s.charged.debtIndex = .ok s.scaled ∧
    ∃ before returned, store.ledger.reserves.get? asset = some before ∧
      before.asset = s.reserve.asset ∧ before.decimals = s.reserve.decimals ∧
      s.charged.idle + amount = before.idle + returned ∧
      (((amount ≤ before.idle ∨ before.invested = 0) ∧ returned = 0 ∧ vault' = vault) ∨
      (before.idle < amount ∧ ∃ withdrawal,
        Vault.release vault before.asset (min (amount - before.idle) before.invested) =
          .ok (withdrawal, vault') ∧ withdrawal.actual = returned)) := by
  obtain ⟨before, after, htouch, haccrue⟩ := Ledger.accrue_eq_ok s.accrues
  obtain rfl := htouch.found s.found
  obtain ⟨_, found, accrued, _, pulled, charged, htouch', -, hagain, hpull, henough, hscaled, hu⟩ :=
    Ledger.lend_eq_ok s.lends
  obtain rfl := Option.some.inj (s.found.symm.trans htouch'.old)
  obtain rfl := htouch'.found s.refound
  -- the reserve was accrued before the valuation, so lending accrues nothing more
  have hnow : s.reserve.updatedAt = now := Reserve.accrue_updatedAt haccrue
  obtain ⟨-, rfl⟩ := Reserve.accrue_settled hnow hagain
  obtain ⟨hidle, hinvested, hdecimals⟩ := Reserve.accrue_liquidity haccrue
  have hasset := Reserve.accrue_asset haccrue
  have hsteady := Reserve.pull_steady hpull
  obtain ⟨_, _, _, -, -, -, hcharged⟩ := Reserve.refreshRates_eq_ok hu
  rw [hcharged]
  refine ⟨hsteady.updatedAt.trans hnow, hscaled, before, ?_⟩
  rcases Reserve.pull_idle hpull with ⟨hready, hsame, hvault⟩ | ⟨hshort, withdrawal, hw, hback⟩
  · rw [hidle, hinvested] at hready
    exact ⟨0, htouch.old, hasset.symm, hdecimals.symm, by simp only; omega,
      .inl ⟨hready, rfl, hvault⟩⟩
  · rw [hidle] at hshort
    rw [hasset, hidle, hinvested] at hw
    exact ⟨withdrawal.actual, htouch.old, hasset.symm, hdecimals.symm, by simp only; omega,
      .inr ⟨hshort, withdrawal, hw, rfl⟩⟩

/-- The loan owes at least what was borrowed and at most one scaled unit, rounded up, more. -/
lemma owes : s.charged.debtOf s.scaled = .ok s.after.debt ∧ amount ≤ s.after.debt ∧
    s.after.debt ≤ amount + Rounding.up.divide s.charged.debtIndex ray := by
  obtain ⟨hnow, hscaled, -⟩ := s.charges
  obtain ⟨v⟩ := Valuation.of_eq_ok s.revalued
  have hindex : s.charged.debtIndexAt now = .ok s.charged.debtIndex := if_pos (.inl hnow.ge)
  obtain hsame := Except.ok.inj (hindex.symm.trans v.reached)
  have howes : s.charged.debtOf s.scaled = .ok s.after.debt := by
    rw [Reserve.debtOf, hsame]
    exact v.owes
  exact ⟨howes, Reserve.debtOf_lent hscaled howes⟩

end BorrowSteps

/-- In every reachable store, with any prices and any vault: a borrow opens the one loan that is
open on the token, where there was none. The loan is told a health of at least one. The amount is at
most the share that may be borrowed of the price of the token, in exact numbers. The debt that is
recorded, at the index of the moment, is at least the amount and at most one scaled unit, rounded
up, more. And the idle liquidity falls by the amount but for what the vault returns when it is asked
for what is missing. -/
theorem Reachable.borrow_within_limits (h : store.Reachable) {referral : Nat}
    {outcome : Outcome LoanId}
    (hb : store.borrow prices vault caller asset amount item debtor referral now =
      .ok (outcome, vault')) :
    ∃ config before after loan health value price debt returned,
      store.collateral.config item = .ok config ∧
      store.ledger.reserves.get? asset = some before ∧
      outcome.store.ledger.reserves.get? asset = some after ∧ after.updatedAt = now ∧
      store.loans.openLoan? item = none ∧ outcome.store.loans.openLoan? item = some loan ∧
      (∀ id other, outcome.store.loans.loan? id = some other → other.status.isOpen = true →
        other.item = item → other = loan) ∧
      outcome.store.health prices item now = .ok health ∧ wad ≤ health ∧
      itemPrice prices item now store.settings.maxPriceAge = .ok value ∧
      assetPrice prices asset now store.settings.maxPriceAge = .ok price ∧
      amount * price * fullShare ≤ value * config.terms.ltv * 10 ^ before.decimals ∧
      loan.asset = asset ∧ after.debtOf loan.scaled = .ok debt ∧ amount ≤ debt ∧
      debt ≤ amount + Rounding.up.divide after.debtIndex ray ∧
      after.idle + amount = before.idle + returned ∧
      (((amount ≤ before.idle ∨ before.invested = 0) ∧ returned = 0 ∧ vault' = vault) ∨
      (before.idle < amount ∧ ∃ withdrawal,
        Vault.release vault asset (min (amount - before.idle) before.invested) =
          .ok (withdrawal, vault') ∧ withdrawal.actual = returned)) := by
  obtain ⟨s, rfl⟩ := borrow_eq_ok hb
  have hbook := h.debtsAddUp.book
  have hopened : s.opened.loans.Consistent := hbook.openNew s.opens
  obtain ⟨hnow, -, before, returned, hbefore, hasset, hdecimals, hidle, hvault⟩ := s.charges
  obtain ⟨howes, hcovers, htight⟩ := s.owes
  obtain ⟨v⟩ := Valuation.of_eq_ok s.valued
  have hnamed : before.asset = asset := h.named asset before hbefore
  have hpriced := v.priced
  rw [← hasset, hnamed] at hpriced
  rw [hnamed] at hvault
  have hopen := s.found_open hbook
  obtain ⟨hfiled, -, -⟩ := hopened.of_openLoan? hopen
  have honly (id : LoanId) (other : Loan) (hother : s.opened.loans.loan? id = some other)
      (hstatus : other.status.isOpen = true) (hitem : other.item = item) : other = s.loan := by
    obtain rfl := hopened.unique hother hstatus hfiled rfl hitem
    exact Option.some.inj (hother.symm.trans hfiled)
  have hlimit : amount * s.before.price * fullShare ≤
      s.before.collateralValue * s.config.terms.ltv * 10 ^ before.decimals := by
    rw [hdecimals]
    exact (Nat.mul_le_mul_right _ (Nat.mul_le_mul_right _ s.affordable)).trans v.capacity_exact
  exact ⟨s.config, before, s.charged, s.loan, s.after.health, s.before.collateralValue,
    s.before.price, s.after.debt, returned, s.configured, hbefore, s.refound, hnow, s.unpledged,
    hopen, honly, s.health hbook, s.healthy, v.collateral, hpriced, hlimit, rfl, howes, hcovers,
    htight, hidle, hvault⟩

end Store

namespace SmallMarket

/-- An hour later the borrower takes 400 on another token, which is the limit. Of the 700 that were
idle 300 are left, and the loan owes at least 400 and at most 402 at a health of at least one. -/
theorem lent_second_borrow :
    let store := lent.state.store
    ∃ outcome vault' health price debt after,
      store.borrow feeds ({} : NoVault) borrower coin 400 ⟨art, 2⟩ borrower 0 hour =
        .ok (outcome, vault') ∧
      outcome.store.health feeds ⟨art, 2⟩ hour = .ok health ∧ wad ≤ health ∧
      assetPrice feeds coin hour store.settings.maxPriceAge = .ok price ∧
      400 * price * fullShare ≤ 1000 * wad * 4000 * 10 ^ 0 ∧ 400 ≤ debt ∧ debt ≤ 400 + 2 ∧
      outcome.store.ledger.reserves.get? coin = some after ∧ after.idle = 300 := by
  intro store
  have hruns : (do
      let (outcome, _) ←
        store.borrow feeds ({} : NoVault) borrower coin 400 ⟨art, 2⟩ borrower 0 hour
      let before ← store.ledger.reserve coin
      let after ← outcome.store.ledger.reserve coin
      let config ← store.collateral.config ⟨art, 2⟩
      let value ← itemPrice feeds ⟨art, 2⟩ hour store.settings.maxPriceAge
      return [before.idle, before.invested, before.decimals, config.terms.ltv, value,
        Rounding.up.divide after.debtIndex ray]) = .ok [700, 0, 0, 4000, 1000 * wad, 2] := by
    decide +kernel
  simp only [Ledger.reserve, bind_eq_ok, orRefuse_eq_ok, pure_eq_ok, Prod.exists,
    List.cons.injEq] at hruns
  obtain ⟨outcome, vault', hborrow, before, hbefore, after, hafter, config, hconfig, value, hvalue,
    hidle, hinvested, hdecimals, hltv, hworth, hunit, -⟩ := hruns
  obtain ⟨_, _, _, _, health, _, price, debt, returned, hconfig', hbefore', hafter', -, -, -, -,
    hhealth, hleast, hvalue', hprice, hlimit, -, -, hcovers, htight, hleft, hvault⟩ :=
    lent_reachable.store.borrow_within_limits hborrow
  obtain rfl := Except.ok.inj (hconfig.symm.trans hconfig')
  obtain rfl := Option.some.inj (hbefore.symm.trans hbefore')
  obtain rfl := Option.some.inj (hafter.symm.trans hafter')
  obtain rfl := Except.ok.inj (hvalue.symm.trans hvalue')
  rw [hworth, hltv, hdecimals] at hlimit
  rw [hunit] at htight
  have hrest : after.idle = 300 := by
    rcases hvault with ⟨-, hnothing, -⟩ | ⟨hshort, -⟩ <;> omega
  exact ⟨outcome, vault', health, price, debt, after, hborrow, hhealth, hleast, hprice, hlimit,
    hcovers, htight, hafter, hrest⟩

end SmallMarket

end PooledCredit
