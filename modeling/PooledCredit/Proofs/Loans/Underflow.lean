import PooledCredit.Proofs.Loans.Debts

/-!
# No underflow on the way out

Repaying, redeeming and settling subtract a scaled debt from the debt of its reserve and the debt
before an accrual from the debt after it. Where the debts add up neither subtraction can fall
below zero, so none of these requests fails with an underflow.

This is shown together with where a closed window can come from. A failure is plain when it is
neither of the two, and a redeem fails plainly or because its own window has closed.
-/

namespace PooledCredit

/-- Whether a failure is neither an underflow nor a window that has closed. -/
def Failure.isPlain : Failure → Bool
  | .refused .underflow | .refused (.windowClosed ..) => false
  | _ => true

/-- A plain failure is no underflow. -/
lemma Failure.ne_underflow {e : Failure} (h : e.isPlain = true) : e ≠ .refused .underflow := by
  rintro rfl
  cases h

/-! ## Plain refusals

`p` is any set of failures that contains the plain refusals. What follows here does not break off
for any reason of its own. -/

section PlainRefusals

variable {p : Failure → Prop}
variable (hp : ∀ cause : Refusal, (Failure.refused cause).isPlain = true → p (.refused cause))
include hp

/-- Dividing a product fails plainly. -/
lemma plain_mulDiv (round : Rounding) (a b d : Nat) : FailsOnly p (mulDiv round a b d) :=
  failsOnly_mulDiv (hp _ rfl) fun _ => hp _ rfl

/-- A growth factor fails plainly: an earlier moment is refused before the difference. -/
lemma plain_linearGrowth (rate last now : Nat) : FailsOnly p (linearGrowth rate last now) := by
  refine FailsOnly.bind (failsOnly_require fun _ => hp _ rfl) fun _ hle => ?_
  refine (failsOnly_bareSub (require_eq_ok.mp hle)).bind fun _ _ => ?_
  exact (plain_mulDiv hp _ _ _ _).bind fun _ _ => failsOnly_addAmount (hp _ rfl) _ _

namespace Reserve

/-- Sizing a scaled debt fails plainly. -/
lemma plain_debtOf (reserve : Reserve) (scaled : Nat) :
    FailsOnly p (reserve.debtOf scaled) :=
  plain_mulDiv hp .up scaled reserve.debtIndex ray

/-- Projecting the debt index fails plainly. -/
lemma plain_debtIndexAt (reserve : Reserve) (now : Nat) :
    FailsOnly p (reserve.debtIndexAt now) :=
  failsOnly_ite (fun _ => failsOnly_ok _) fun _ =>
    (plain_linearGrowth hp _ _ _).bind fun _ _ => plain_mulDiv hp _ _ _ _

/-- Projecting the supply index fails plainly. -/
lemma plain_supplyIndexAt (reserve : Reserve) (now : Nat) :
    FailsOnly p (reserve.supplyIndexAt now) :=
  failsOnly_ite (fun _ => failsOnly_ok _) fun _ =>
    (plain_linearGrowth hp _ _ _).bind fun _ _ => plain_mulDiv hp _ _ _ _

end Reserve

/-- Looking up a reserve fails plainly. -/
lemma Ledger.plain_reserve (ledger : Ledger) (asset : Asset) : FailsOnly p (ledger.reserve asset) :=
  failsOnly_orRefuse fun _ => hp _ rfl

/-! ### The loan book -/

namespace LoanBook

/-- Closing a loan fails plainly. -/
lemma plain_close (book : LoanBook) (id : LoanId) (status : LoanStatus) (now : Nat) :
    FailsOnly p (book.close id status now) := by
  refine FailsOnly.bind (failsOnly_orRefuse fun _ => hp _ rfl) fun _ _ => ?_
  exact FailsOnly.bind (failsOnly_require fun _ => hp _ rfl) fun _ _ => failsOnly_pure _

/-- Paying down a loan fails plainly. -/
lemma plain_payDown (book : LoanBook) (loan : Loan) (remaining now : Nat) :
    FailsOnly p (book.payDown loan remaining now) :=
  failsOnly_ite (fun _ => plain_close hp _ _ _ _) fun _ => failsOnly_ok _

end LoanBook

/-! ### Valuations -/

/-- Publishing a price fails plainly. -/
lemma plain_fresh (quote : Option Quote) (what : String) (now maxAge : Nat) :
    FailsOnly p (Quote.fresh quote what now maxAge) := by
  refine FailsOnly.bind (failsOnly_orRefuse fun _ => hp _ rfl) fun _ _ => ?_
  refine FailsOnly.bind (failsOnly_require fun _ => hp _ rfl) fun _ _ => ?_
  exact FailsOnly.bind (failsOnly_require fun _ => hp _ rfl) fun _ _ => failsOnly_pure _

/-- Converting at a price fails plainly. -/
lemma plain_worthOf (round : Rounding) (amount price decimals : Nat) :
    FailsOnly p (worthOf round amount price decimals) :=
  (failsOnly_fitAmount (hp _ rfl) _).bind fun _ _ => plain_mulDiv hp _ _ _ _

/-- Converting back at a price fails plainly. -/
lemma plain_amountWorth (round : Rounding) (value price decimals : Nat) :
    FailsOnly p (amountWorth round value price decimals) :=
  FailsOnly.bind (failsOnly_require fun _ => hp _ rfl) fun _ _ =>
    (failsOnly_fitAmount (hp _ rfl) _).bind fun _ _ => plain_mulDiv hp _ _ _ _

/-- Weighing a token against a debt fails plainly. -/
lemma plain_valuationOf {O : Type} [PriceSource O] (prices : O) (reserve : Reserve)
    (terms : CollateralTerms) (item : Item) (scaled now maxAge : Nat) :
    FailsOnly p (Valuation.of prices reserve terms item scaled now maxAge) := by
  refine (plain_fresh hp _ _ _ _).bind fun collateral _ => ?_
  refine (plain_fresh hp _ _ _ _).bind fun price _ => ?_
  refine (Reserve.plain_debtIndexAt hp _ _).bind fun _ _ => ?_
  refine (plain_mulDiv hp _ _ _ _).bind fun _ _ => ?_
  refine (plain_worthOf hp _ _ _ _).bind fun debt _ => ?_
  refine (plain_amountWorth hp _ _ _ _).bind fun _ _ => ?_
  refine ((plain_mulDiv hp _ _ _ _).bind fun _ _ => failsOnly_pure _).bind fun _ _ => ?_
  refine (plain_amountWorth hp _ _ _ _).bind fun _ _ => ?_
  have hltv : FailsOnly p (loanToValue debt collateral) :=
    failsOnly_ite (fun _ => failsOnly_ok _) fun _ =>
      failsOnly_ite (fun _ => failsOnly_ok _) fun _ =>
        (plain_mulDiv hp _ _ _ _).bind fun _ _ => failsOnly_pure _
  have hhealth : FailsOnly p (healthOf collateral debt terms.threshold) :=
    failsOnly_ite (fun _ => failsOnly_ok _) fun _ =>
      (plain_mulDiv hp _ _ _ _).bind fun _ _ => plain_mulDiv hp _ _ _ _
  exact hltv.bind fun _ _ => hhealth.bind fun _ _ => failsOnly_pure _

namespace CollateralRegistry

/-- Looking up terms fails plainly. -/
lemma plain_config (registry : CollateralRegistry) (item : Item) :
    FailsOnly p (registry.config item) := by
  refine FailsOnly.bind (failsOnly_orRefuse fun _ => hp _ rfl) fun _ _ => ?_
  split
  · exact failsOnly_pure _
  · exact failsOnly_pure _

end CollateralRegistry

namespace Store

/-- Telling the rates of a reserve fails plainly. -/
lemma plain_reserveUpdate (store : Store) (asset : Asset) (now : Nat) :
    FailsOnly p (store.reserveUpdate asset now) :=
  (Ledger.plain_reserve hp _ _).bind fun _ _ => failsOnly_pure _

/-- Valuing a loan fails plainly. -/
lemma plain_valuation {O : Type} [PriceSource O] (store : Store) (prices : O) (item : Item)
    (asset : Asset) (scaled now : Nat) :
    FailsOnly p (store.valuation prices item asset scaled now) := by
  refine (CollateralRegistry.plain_config hp _ _).bind fun _ _ => ?_
  refine (Ledger.plain_reserve hp _ _).bind fun _ _ => ?_
  exact (plain_valuationOf hp _ _ _ _ _ _ _).bind fun _ _ => failsOnly_pure _

end Store

end PlainRefusals

/-! ## Plain failures

`p` is any set of failures that contains the plain ones, which include all breaks. -/

section Failures

variable {p : Failure → Prop} (hp : ∀ e : Failure, e.isPlain = true → p e)
include hp

/-- A plain refusal is a plain failure. -/
lemma plain_refusal (cause : Refusal) (h : (Failure.refused cause).isPlain = true) :
    p (.refused cause) := hp _ h

/-- An unchecked difference fails plainly. -/
lemma plain_bareSub (a b : Nat) : FailsOnly p (bareSub a b) :=
  failsOnly_ite (fun _ => failsOnly_ok _) fun _ => failsOnly_breakOff (hp _ rfl)

/-! ### Reserves -/

/-- The rates of a reserve fail plainly. -/
lemma RateModel.plain_rates (model : RateModel) (liquidity debt factor : Nat) :
    FailsOnly p (model.rates liquidity debt factor) := by
  have hutilization : FailsOnly p (utilization liquidity debt) :=
    failsOnly_ite (fun _ => failsOnly_ok _) fun _ =>
      (failsOnly_addAmount (hp _ rfl) _ _).bind fun _ _ => plain_mulDiv (plain_refusal hp) _ _ _ _
  have hborrow (used : Nat) : FailsOnly p (model.borrowRate used) := by
    refine failsOnly_ite (fun _ => ?_) fun _ => ?_
    · refine (plain_mulDiv (plain_refusal hp) _ _ _ _).bind fun _ _ => ?_
      exact failsOnly_addAmount (hp _ rfl) _ _
    · refine (plain_bareSub hp _ _).bind fun _ _ => ?_
      refine (plain_bareSub hp _ _).bind fun _ _ => ?_
      refine (plain_mulDiv (plain_refusal hp) _ _ _ _).bind fun _ _ => ?_
      refine (plain_mulDiv (plain_refusal hp) _ _ _ _).bind fun _ _ => ?_
      exact (failsOnly_addAmount (hp _ rfl) _ _).bind fun _ _ => failsOnly_addAmount (hp _ rfl) _ _
  refine hutilization.bind fun used _ => ?_
  refine (hborrow used).bind fun _ _ => ?_
  refine (plain_mulDiv (plain_refusal hp) _ _ _ _).bind fun _ _ => ?_
  refine (plain_bareSub hp _ _).bind fun _ _ => ?_
  exact (plain_mulDiv (plain_refusal hp) _ _ _ _).bind fun _ _ => failsOnly_pure _

namespace Reserve

/-- Refreshing the rates fails plainly. -/
lemma plain_refreshRates (reserve : Reserve) : FailsOnly p reserve.refreshRates := by
  refine (failsOnly_addAmount (hp _ rfl) _ _).bind fun _ _ => ?_
  refine (plain_debtOf (plain_refusal hp) _ _).bind fun _ _ => ?_
  exact (RateModel.plain_rates hp _ _ _ _).bind fun _ _ => failsOnly_pure _

/-- An accrual fails plainly: the debt does not shrink when its index grows. -/
lemma plain_accrue (reserve : Reserve) (now : Nat) : FailsOnly p (reserve.accrue now) := by
  refine FailsOnly.bind (failsOnly_require fun _ => hp _ rfl) fun _ _ => ?_
  refine failsOnly_ite (fun _ => failsOnly_pure _) fun _ => ?_
  refine (plain_supplyIndexAt (plain_refusal hp) _ _).bind fun _ _ => ?_
  refine (plain_debtIndexAt (plain_refusal hp) _ _).bind fun index hindex => ?_
  refine (plain_debtOf (plain_refusal hp) _ _).bind fun before hbefore => ?_
  refine (plain_mulDiv (plain_refusal hp) _ _ _ _).bind fun after hafter => ?_
  have howed : mulDiv .up reserve.scaledDebt reserve.debtIndex ray = .ok before := hbefore
  have hle : before ≤ after := mulDiv_up_mono (Nat.le_refl _) (debtIndexAt_ge hindex) howed hafter
  refine (failsOnly_subAmount hle).bind fun _ _ => ?_
  refine (plain_mulDiv (plain_refusal hp) _ _ _ _).bind fun _ _ => ?_
  refine (plain_mulDiv (plain_refusal hp) _ _ _ _).bind fun _ _ => ?_
  refine (failsOnly_addAmount (hp _ rfl) _ _).bind fun _ _ => ?_
  exact (plain_refreshRates hp _).bind fun _ _ => failsOnly_pure _

end Reserve

/-! ### The ledger -/

namespace Ledger

/-- An accrual of the ledger fails plainly. -/
lemma plain_accrue (ledger : Ledger) (asset : Asset) (now : Nat) :
    FailsOnly p (ledger.accrue asset now) := by
  refine (plain_reserve (plain_refusal hp) _ _).bind fun reserve _ => ?_
  refine (reserve.plain_accrue hp now).bind fun _ _ => ?_
  refine failsOnly_ite (fun _ => failsOnly_pure _) fun _ => ?_
  refine FailsOnly.bind ?_ fun _ _ => failsOnly_pure _
  exact (failsOnly_addAmount (hp _ rfl) _ _).bind fun _ _ => failsOnly_pure _

omit hp in
/-- What is burned of a scaled debt is at most that debt. -/
lemma burned_le {reserve : Reserve} {scaled debt paid burned : Nat}
    (hd : reserve.debtOf scaled = .ok debt) (hpaid : paid ≤ debt)
    (hb : (if paid = debt then pure scaled else rayDiv .down paid reserve.debtIndex) =
      .ok burned) : burned ≤ scaled := by
  split at hb
  · exact (pure_eq_ok.mp hb).ge
  · next hne => exact (Reserve.burned_lt hd (Nat.lt_of_le_of_ne hpaid hne) hb).le

/-- Repaying a debt that the reserve is owed fails plainly. -/
lemma plain_repay {ledger : Ledger} {asset : Asset} {scaled : Nat} (amount : Nat)
    (hle : scaled ≤ ledger.scaledDebtOf asset) :
    FailsOnly p (ledger.repay asset scaled amount) := by
  refine FailsOnly.bind (failsOnly_require fun _ => hp _ rfl) fun _ _ => ?_
  refine (plain_reserve (plain_refusal hp) _ _).bind fun reserve hr => ?_
  refine (reserve.plain_debtOf (plain_refusal hp) scaled).bind fun debt hd => ?_
  have hrest (burned : Nat)
      (hb : (if min amount debt = debt then pure scaled
        else rayDiv .down (min amount debt) reserve.debtIndex) = .ok burned) :
      burned ≤ reserve.scaledDebt := by
    rw [scaledDebtOf_eq (orRefuse_eq_ok.mp hr)] at hle
    exact (burned_le hd (Nat.min_le_right _ _) hb).trans hle
  simp only [ite_bind]
  refine FailsOnly.bind ?_ fun burned hb => ?_
  · exact failsOnly_ite (fun _ => failsOnly_pure _) fun _ => plain_mulDiv (plain_refusal hp) _ _ _ _
  refine (failsOnly_addAmount (hp _ rfl) _ _).bind fun _ _ => ?_
  refine (failsOnly_subAmount (hrest burned hb)).bind fun _ _ => ?_
  refine (Reserve.plain_refreshRates hp _).bind fun _ _ => ?_
  exact (plain_bareSub hp _ _).bind fun _ _ => failsOnly_pure _

/-- Writing off a debt that the reserve is owed fails plainly. -/
lemma plain_writeOff {ledger : Ledger} {asset : Asset} {scaled : Nat}
    (hle : scaled ≤ ledger.scaledDebtOf asset) : FailsOnly p (ledger.writeOff asset scaled) := by
  refine (plain_reserve (plain_refusal hp) _ _).bind fun reserve hr => ?_
  refine (reserve.plain_debtOf (plain_refusal hp) scaled).bind fun _ _ => ?_
  rw [scaledDebtOf_eq (orRefuse_eq_ok.mp hr)] at hle
  refine (failsOnly_subAmount hle).bind fun _ _ => ?_
  refine (failsOnly_addAmount (hp _ rfl) _ _).bind fun _ _ => ?_
  exact (Reserve.plain_refreshRates hp _).bind fun _ _ => failsOnly_pure _

end Ledger

/-! ### Requests -/

namespace Store

variable {store : Store}

/-- Accruing fails plainly. -/
lemma plain_accrue (store : Store) (asset : Asset) (now : Nat) :
    FailsOnly p (store.accrue asset now) :=
  (Ledger.plain_accrue hp _ _ _).bind fun _ _ => failsOnly_pure _

omit hp in
/-- A later loan of the book owes no more than its reserve after an accrual. -/
lemma DebtsAddUp.scaled_le_accrued (h : store.DebtsAddUp) {item : Item} {loan : Loan}
    {asset : Asset} {now : Nat} {accrual : Accrual} {ledger : Ledger}
    (hloan : store.loans.openLoan? item = some loan)
    (ha : store.ledger.accrue asset now = .ok (accrual, ledger)) :
    loan.scaled ≤ ledger.scaledDebtOf loan.asset := by
  obtain ⟨hfiled, hopen⟩ := h.found hloan
  rw [Ledger.accrue_scaledDebtOf ha]
  exact h.scaled_le hfiled hopen

/-- Where the debts add up, a repayment fails plainly. -/
lemma DebtsAddUp.plain_repay (h : store.DebtsAddUp) (caller : Account) (item : Item)
    (amount now : Nat) : FailsOnly p (store.repay caller item amount now) := by
  refine FailsOnly.bind (failsOnly_require fun _ => hp _ rfl) fun _ _ => ?_
  refine FailsOnly.bind (failsOnly_orRefuse fun _ => hp _ rfl) fun loan hloan => ?_
  refine FailsOnly.bind (failsOnly_require fun _ => hp _ rfl) fun _ _ => ?_
  refine (Ledger.plain_reserve (plain_refusal hp) _ _).bind fun _ _ => ?_
  refine FailsOnly.bind (failsOnly_require fun _ => hp _ rfl) fun _ _ => ?_
  refine (Ledger.plain_accrue hp _ _ _).bind fun ⟨_, accrued⟩ ha => ?_
  refine (Ledger.plain_reserve (plain_refusal hp) _ _).bind fun _ _ => ?_
  refine (Reserve.plain_debtOf (plain_refusal hp) _ _).bind fun _ _ => ?_
  have hle := h.scaled_le_accrued (orRefuse_eq_ok.mp hloan) ha
  refine (Ledger.plain_repay hp _ hle).bind fun _ _ => ?_
  refine (LoanBook.plain_payDown (plain_refusal hp) _ _ _ _).bind fun _ _ => ?_
  exact (plain_reserveUpdate (plain_refusal hp) _ _ _).bind fun _ _ => failsOnly_pure _

/-- Where the debts add up, a redeem fails plainly, or because the redeem window of the auction has
closed. -/
lemma DebtsAddUp.plain_redeem {O : Type} [PriceSource O] (h : store.DebtsAddUp) {item : Item}
    {now : Nat}
    (hclosed : ∀ loan bid config deadline, store.loans.openLoan? item = some loan →
      loan.status = .auction → loan.bid = some bid →
      store.collateral.config loan.item = .ok config →
      bid.deadline config.terms.redeemWindow = .ok deadline → deadline < now →
      p (.refused (.windowClosed "redeem" deadline now)))
    (prices : O) (caller : Account) (amount maxFine : Nat) :
    FailsOnly p (store.redeem prices caller item amount maxFine now) := by
  refine FailsOnly.bind (failsOnly_require fun _ => hp _ rfl) fun _ _ => ?_
  refine FailsOnly.bind (failsOnly_orRefuse fun _ => hp _ rfl) fun loan hloan => ?_
  have hopen := orRefuse_eq_ok.mp hloan
  refine FailsOnly.bind (failsOnly_require fun _ => hp _ rfl) fun _ hauction => ?_
  refine FailsOnly.bind (failsOnly_orRefuse fun _ => hp _ rfl) fun bid hbid => ?_
  refine (CollateralRegistry.plain_config (plain_refusal hp) _ _).bind fun config hconfig => ?_
  refine (failsOnly_fitClock (hp _ rfl) _).bind fun deadline hdeadline => ?_
  refine FailsOnly.bind (failsOnly_require fun hc => ?_) fun _ _ => ?_
  · exact hclosed loan bid config deadline hopen (require_eq_ok.mp hauction)
      (orRefuse_eq_ok.mp hbid) hconfig hdeadline (Nat.lt_of_not_le hc)
  refine (plain_accrue hp _ _ _).bind fun store' haccrue => ?_
  obtain ⟨_, accrued, ha, rfl⟩ := accrue_eq_ok haccrue
  refine (plain_valuation (plain_refusal hp) _ _ _ _ _ _).bind fun ⟨config, valuation⟩ _ => ?_
  refine (Ledger.plain_reserve (plain_refusal hp) _ _).bind fun _ _ => ?_
  refine FailsOnly.bind (failsOnly_require fun _ => hp _ rfl) fun _ _ => ?_
  refine FailsOnly.bind ?_ fun _ _ => ?_
  · refine failsOnly_ite (fun _ => ?_) fun _ => failsOnly_ok _
    refine (plain_mulDiv (plain_refusal hp) _ _ _ _).bind fun _ _ => ?_
    refine FailsOnly.bind (failsOnly_require fun _ => hp _ rfl) fun _ _ => ?_
    refine (plain_bareSub hp _ _).bind fun _ _ => ?_
    refine (plain_worthOf (plain_refusal hp) _ _ _ _).bind fun _ _ => ?_
    refine (plain_mulDiv (plain_refusal hp) _ _ _ _).bind fun _ _ => ?_
    exact failsOnly_require fun _ => hp _ rfl
  have hle := h.scaled_le_accrued hopen ha
  refine (Ledger.plain_repay hp _ hle).bind fun _ _ => ?_
  refine (failsOnly_addAmount (hp _ rfl) _ _).bind fun _ _ => ?_
  refine (LoanBook.plain_payDown (plain_refusal hp) _ _ _ _).bind fun _ _ => ?_
  exact (plain_reserveUpdate (plain_refusal hp) _ _ _).bind fun _ _ => failsOnly_pure _

omit hp in
/-- What the first part of a settlement leaves of a debt is still owed to the reserve. -/
lemma remaining_le {ledger repaid : Ledger} {asset : Asset} {scaled amount remaining : Nat}
    (hle : scaled ≤ ledger.scaledDebtOf asset)
    (hpay : (amount = 0 ∧ remaining = scaled ∧ repaid = ledger) ∨
      ∃ repayment, amount ≠ 0 ∧ ledger.repay asset scaled amount = .ok (repayment, repaid) ∧
        remaining = repayment.remaining) : remaining ≤ repaid.scaledDebtOf asset := by
  rcases hpay with ⟨-, rfl, rfl⟩ | ⟨repayment, -, hp, rfl⟩
  · exact hle
  · obtain ⟨_, _, _, -, -, -, -, -, -, hburned, hremaining, -⟩ := Ledger.repay_eq_ok hp
    have hdebt := Ledger.repay_scaledDebtOf hp asset
    rw [if_pos rfl] at hdebt
    rw [hremaining]
    omega

/-- Settling a loan that its reserve is owed fails plainly. -/
lemma plain_settle {loan : Loan} (proceeds : Nat) (winner : Option Account) (now : Nat)
    (hle : loan.scaled ≤ store.ledger.scaledDebtOf loan.asset) :
    FailsOnly p (store.settle loan proceeds winner now) := by
  unfold settle
  refine (Ledger.plain_reserve (plain_refusal hp) _ _).bind fun _ _ => ?_
  refine (Reserve.plain_debtOf (plain_refusal hp) _ _).bind fun debt _ => ?_
  simp only [bind_pure_bind, ite_bind]
  refine FailsOnly.bind ?_ fun ⟨remaining, repaid⟩ hpay => ?_
  · refine failsOnly_ite (fun _ => failsOnly_pure _) fun _ => ?_
    exact (Ledger.plain_repay hp _ hle).map
  have hrest : remaining ≤ repaid.scaledDebtOf loan.asset := remaining_le hle (paid_eq_ok hpay)
  refine FailsOnly.bind ?_ fun _ _ => ?_
  · exact failsOnly_ite (fun _ => failsOnly_pure _) fun _ => Ledger.plain_writeOff hp hrest
  refine (plain_bareSub hp _ _).bind fun _ _ => ?_
  exact (LoanBook.plain_close (plain_refusal hp) _ _ _ _).bind fun _ _ => failsOnly_pure _

/-- Waiting for a window to be over fails plainly. -/
lemma plain_requireOver (deadline now : Nat) : FailsOnly p (requireOver deadline now) := by
  refine failsOnly_ite (fun _ => ?_) fun _ => failsOnly_ok _
  refine FailsOnly.bind ?_ fun _ _ => failsOnly_refuse (hp _ rfl)
  exact failsOnly_ite (fun _ => failsOnly_ok _) fun _ => failsOnly_breakOff (hp _ rfl)

/-- Where the debts add up, a liquidation fails plainly. -/
lemma DebtsAddUp.plain_liquidate (h : store.DebtsAddUp) (caller : Account) (item : Item)
    (minPrice now : Nat) : FailsOnly p (store.liquidate caller item minPrice now) := by
  refine FailsOnly.bind (failsOnly_orRefuse fun _ => hp _ rfl) fun loan hloan => ?_
  refine FailsOnly.bind (failsOnly_require fun _ => hp _ rfl) fun _ _ => ?_
  refine FailsOnly.bind (failsOnly_orRefuse fun _ => hp _ rfl) fun _ _ => ?_
  refine (CollateralRegistry.plain_config (plain_refusal hp) _ _).bind fun _ _ => ?_
  refine (failsOnly_fitClock (hp _ rfl) _).bind fun _ _ => ?_
  refine (plain_requireOver hp _ _).bind fun _ _ => ?_
  refine FailsOnly.bind (failsOnly_require fun _ => hp _ rfl) fun _ _ => ?_
  refine (plain_accrue hp _ _ _).bind fun store' haccrue => ?_
  obtain ⟨_, accrued, ha, rfl⟩ := accrue_eq_ok haccrue
  have hle := h.scaled_le_accrued (orRefuse_eq_ok.mp hloan) ha
  refine FailsOnly.bind (plain_settle hp _ _ _ hle) fun _ _ => ?_
  exact (plain_reserveUpdate (plain_refusal hp) _ _ _).bind fun _ _ => failsOnly_pure _

/-- Where the debts add up, a sale fails plainly or as the venue does. -/
lemma DebtsAddUp.plain_sell {O N : Type} [PriceSource O] [Venue N] (h : store.DebtsAddUp)
    (prices : O) {venue : N} (caller : Account) {item : Item} (now : Nat)
    (hvenue : ∀ asset floor, FailsOnly p (Venue.sell venue item asset floor)) :
    FailsOnly p (store.sell prices venue caller item now) := by
  refine FailsOnly.bind (failsOnly_orRefuse fun _ => hp _ rfl) fun loan hloan => ?_
  have hitem := (h.book.of_openLoan? (orRefuse_eq_ok.mp hloan)).2.2
  refine (plain_accrue hp _ _ _).bind fun store' haccrue => ?_
  obtain ⟨_, accrued, ha, rfl⟩ := accrue_eq_ok haccrue
  refine (plain_valuation (plain_refusal hp) _ _ _ _ _ _).bind fun ⟨config, valuation⟩ _ => ?_
  refine FailsOnly.bind ?_ fun floor _ => ?_
  · exact (plain_bareSub hp _ _).bind fun _ _ => plain_mulDiv (plain_refusal hp) _ _ _ _
  refine FailsOnly.bind ?_ fun _ _ => ?_
  · unfold checkSale
    split
    · exact FailsOnly.bind (failsOnly_require fun _ => hp _ rfl) fun _ _ => failsOnly_pure _
    · refine FailsOnly.bind (failsOnly_orRefuse fun _ => hp _ rfl) fun _ _ => ?_
      refine (failsOnly_fitClock (hp _ rfl) _).bind fun _ _ => ?_
      refine (plain_requireOver hp _ _).bind fun _ _ => ?_
      exact FailsOnly.bind (failsOnly_require fun _ => hp _ rfl) fun _ _ => failsOnly_pure _
    · exact failsOnly_refuse (hp _ rfl)
  refine FailsOnly.bind (hitem ▸ hvenue loan.asset floor) fun _ _ => ?_
  refine FailsOnly.bind (failsOnly_require fun _ => hp _ rfl) fun _ _ => ?_
  have hle := h.scaled_le_accrued (orRefuse_eq_ok.mp hloan) ha
  refine FailsOnly.bind (plain_settle hp _ _ _ hle) fun _ _ => ?_
  exact (plain_reserveUpdate (plain_refusal hp) _ _ _).bind fun _ _ => failsOnly_pure _

end Store

end Failures

/-- In every reachable pool the scaled debt of a reserve is the sum over the open loans in its
asset, open loans owe something and closed ones nothing. Hence no repayment, redeem or
liquidation fails with an underflow, and a sale does so only when the venue itself does. -/
theorem Pool.Reachable.loans_match_reserve_debt {O V N : Type} [PriceSource O] [Vault V]
    [Venue N] {rule : Pool O V N → Move O V N → Prop} {pool : Pool O V N}
    (h : pool.Reachable rule) :
    (∀ asset reserve, pool.state.store.ledger.reserves.get? asset = some reserve →
      reserve.scaledDebt = pool.state.store.loans.loans.total (Loan.openDebt asset)) ∧
    (∀ id loan, pool.state.store.loans.loan? id = some loan →
      (loan.status.isOpen = true → 0 < loan.scaled) ∧
      (loan.status.isOpen = false → loan.scaled = 0)) ∧
    (∀ caller item amount now,
      pool.state.store.repay caller item amount now ≠ .error (.refused .underflow)) ∧
    (∀ (prices : O) caller item amount maxFine now,
      pool.state.store.redeem prices caller item amount maxFine now ≠
        .error (.refused .underflow)) ∧
    (∀ caller item minPrice now,
      pool.state.store.liquidate caller item minPrice now ≠ .error (.refused .underflow)) ∧
    ∀ (prices : O) (venue : N) caller item now,
      pool.state.store.sell prices venue caller item now = .error (.refused .underflow) →
        ∃ asset floor, Venue.sell venue item asset floor = .error (.refused .underflow) := by
  have hd := h.store.debtsAddUp
  have hplain (e : Failure) : e.isPlain = true → e ≠ .refused .underflow := Failure.ne_underflow
  refine ⟨?_, ?_, ?_, ?_, ?_, ?_⟩
  · intro asset reserve hr
    rw [← Ledger.scaledDebtOf_eq hr]
    exact hd.total asset
  · intro id loan hloan
    exact ⟨hd.owing id loan hloan, hd.settled id loan hloan⟩
  · intro caller item amount now hu
    exact hd.plain_repay hplain caller item amount now _ hu rfl
  · intro prices caller item amount maxFine now hu
    refine hd.plain_redeem hplain ?_ prices caller amount maxFine _ hu rfl
    intro loan bid config deadline _ _ _ _ _ _
    exact nofun
  · intro caller item minPrice now hu
    exact hd.plain_liquidate hplain caller item minPrice now _ hu rfl
  · intro prices venue caller item now hu
    by_contra hnone
    refine hd.plain_sell hplain prices caller now ?_ _ hu rfl
    intro asset floor e he heq
    exact hnone ⟨asset, floor, heq ▸ he⟩

/-- In the small market the reserve is owed the 300 of its only loan. -/
theorem SmallMarket.lent_debt :
    lent.state.store.ledger.scaledDebtOf coin = 300 ∧
      lent.state.store.loans.loans.total (Loan.openDebt coin) = 300 := by
  have hr := lent_reachable
  have hdebt : lent.state.store.ledger.scaledDebtOf coin = 300 := by decide +kernel
  refine ⟨hdebt, ?_⟩
  cases hres : lent.state.store.ledger.reserves.get? coin with
  | none =>
    rw [Ledger.scaledDebtOf, hres] at hdebt
    cases hdebt
  | some reserve =>
    rw [← (Pool.Reachable.loans_match_reserve_debt hr).1 coin reserve hres,
      ← Ledger.scaledDebtOf_eq hres]
    exact hdebt

end PooledCredit
