import PooledCredit.Proofs.Collateral.Terms
import PooledCredit.Proofs.Reserves.Refusals

/-!
# Requests refuse but do not break off

What a user or an operator asks for is done or refused. Beyond the ledger, requests subtract a
bonus from the whole, a payment from a debt, a repaid part from proceeds, and they count the loans
on a collection; valid collateral terms and a loan book in step keep all of this in range. One step
is not covered: a request that comes before a bid window is over is told the first moment after the
window, and if the window ends with the last moment of the clock there is none.
-/

namespace PooledCredit

/-! ## Counting loans -/

namespace SortedMap

/-- Numbers that ascend from one bound to another are at most as many as lie between. -/
lemma sum_le_of_ascending {ν : Type} {f : ν → Nat} {first last : Nat} {l : List (Nat × ν)}
    (hsorted : l.Pairwise fun a b => compare a.1 b.1 = .lt) (hf : ∀ v, f v ≤ 1)
    (hfrom : ∀ e ∈ l, first ≤ e.1) (hbelow : ∀ e ∈ l, e.1 < last) : sum f l ≤ last - first := by
  induction l generalizing first with
  | nil => exact Nat.zero_le _
  | cons hd rest ih =>
    obtain ⟨hhd, hrest⟩ := List.pairwise_cons.mp hsorted
    have hlater : ∀ e ∈ rest, hd.1 + 1 ≤ e.1 := fun e he => Nat.compare_eq_lt.mp (hhd e he)
    have ih := ih hrest hlater fun e he => hbelow e (List.mem_cons_of_mem hd he)
    have hone := hf hd.2
    have hstart := hfrom hd List.mem_cons_self
    have hend := hbelow hd List.mem_cons_self
    rw [sum]
    omega

end SortedMap

/-- There are no more open loans on a collection than numbers handed out. -/
lemma LoanBook.InStep.openCount_le {book : LoanBook} (h : book.InStep) (collection : Collection) :
    book.openCount collection ≤ book.nextId := by
  have hone (loan : Loan) : loan.openOn collection ≤ 1 := by
    unfold Loan.openOn
    split
    · exact Nat.le_refl 1
    · exact Nat.zero_le 1
  have hbelow : ∀ e ∈ book.loans.entries, e.1 < book.nextId := by
    intro e he
    exact h.below e.1 e.2 (SortedMap.get?_of_mem_entries he)
  rw [h.counted]
  exact SortedMap.sum_le_of_ascending book.loans.sorted hone (fun e _ => Nat.zero_le e.1) hbelow

/-! ## The last moment of the clock -/

/-- The loan on a token is under auction, and its bid window, which is still open, ends with the
last moment of the clock. -/
def Store.ClosesWithClock (store : Store) (item : Item) (now : Nat) : Prop :=
  ∃ loan bid config, store.loans.openLoan? item = some loan ∧ loan.status = .auction ∧
    loan.bid = some bid ∧ store.collateral.config loan.item = .ok config ∧
    bid.startedAt + config.terms.bidWindow = maxClock ∧ now ≤ maxClock

/-- The loan on a token is weighed for a sale: its debt accrues, it is valued, and the least that
the sale must bring is known. -/
def Store.SaleWeighed {O : Type} [PriceSource O] (store : Store) (prices : O) (item : Item)
    (now : Nat) : Prop :=
  ∃ loan accrued config valuation floor, store.loans.openLoan? item = some loan ∧
    store.accrue loan.asset now = .ok accrued ∧
    accrued.valuation prices loan.item loan.asset loan.scaled now = .ok (config, valuation) ∧
    config.terms.saleFloor valuation.collateralAmount = .ok floor

/-- An action is to settle a loan while its bid window is open, and the window ends with the last
moment of the clock. A sale looks at the window once the loan is weighed. -/
inductive UserAction.SettlesAtClockEnd {O : Type} [PriceSource O] (prices : O) (store : Store)
    (now : Nat) : UserAction → Prop where
  | liquidate {item : Item} {minPrice : Nat} (closes : store.ClosesWithClock item now) :
      SettlesAtClockEnd prices store now (.liquidate item minPrice)
  | sell {item : Item} (closes : store.ClosesWithClock item now)
      (weighed : store.SaleWeighed prices item now) :
      SettlesAtClockEnd prices store now (.sell item)

section Refusals

variable {p : Failure → Prop} (hp : ∀ cause : Refusal, p (.refused cause))
include hp

/-! ## Collateral and prices -/

namespace CollateralTerms

variable {terms : CollateralTerms}

omit hp in
/-- On accepted terms the bonus leaves a rest of the whole. -/
lemma refuses_rest (h : terms.validate = .ok ()) : FailsOnly p (bareSub fullShare terms.bonus) := by
  obtain ⟨-, -, hbonus, -⟩ := validate_eq_ok.mp h
  exact failsOnly_bareSub (hbonus.trans (by decide))

/-- On accepted terms the least first bid is computed or refused. -/
lemma refuses_firstBid (h : terms.validate = .ok ()) (collateral debt : Nat) :
    FailsOnly p (terms.firstBid collateral debt) := by
  refine (plain_mulDiv (plain_of_refused hp) _ _ _ _).bind fun _ _ => ?_
  refine (refuses_rest h).bind fun _ _ => ?_
  exact (plain_mulDiv (plain_of_refused hp) _ _ _ _).bind fun _ _ => failsOnly_pure _

/-- On accepted terms the least proceeds of a sale are computed or refused. -/
lemma refuses_saleFloor (h : terms.validate = .ok ()) (collateral : Nat) :
    FailsOnly p (terms.saleFloor collateral) :=
  (refuses_rest h).bind fun _ _ => plain_mulDiv (plain_of_refused hp) _ _ _ _

/-- The fine for redeeming is computed or refused. -/
lemma refuses_redeemFine (terms : CollateralTerms) (debt price decimals : Nat) :
    FailsOnly p (terms.redeemFine debt price decimals) := by
  refine (plain_mulDiv (plain_of_refused hp) _ _ _ _).bind fun _ _ => ?_
  exact (plain_amountWorth (plain_of_refused hp) _ _ _ _).bind fun _ _ => failsOnly_pure _

/-- Terms are accepted or refused. -/
lemma refuses_validate (terms : CollateralTerms) : FailsOnly p terms.validate := by
  refine FailsOnly.bind (failsOnly_require fun _ => hp _) fun _ _ => ?_
  refine FailsOnly.bind (failsOnly_require fun _ => hp _) fun _ _ => ?_
  refine FailsOnly.bind (failsOnly_require fun _ => hp _) fun _ _ => ?_
  refine FailsOnly.bind (failsOnly_require fun _ => hp _) fun _ _ => ?_
  refine FailsOnly.bind (failsOnly_require fun _ => hp _) fun _ _ => ?_
  refine FailsOnly.bind (failsOnly_require fun _ => hp _) fun _ _ => ?_
  refine FailsOnly.bind (failsOnly_require fun _ => hp _) fun _ _ => ?_
  exact failsOnly_require fun _ => hp _

end CollateralTerms

namespace CollateralRegistry

/-- A token backs a new loan or is refused. -/
lemma refuses_requireBorrowable (registry : CollateralRegistry) (item : Item) (openLoans : Nat) :
    FailsOnly p (registry.requireBorrowable item openLoans) := by
  refine (plain_config (plain_of_refused hp) _ _).bind fun _ _ => ?_
  refine FailsOnly.bind (failsOnly_require fun _ => hp _) fun _ _ => ?_
  refine FailsOnly.bind (failsOnly_require fun _ => hp _) fun _ _ => ?_
  refine FailsOnly.bind (failsOnly_require fun _ => hp _) fun _ _ => ?_
  exact FailsOnly.bind (failsOnly_require fun _ => hp _) fun _ _ => failsOnly_pure _

/-- Terms are laid down or refused. -/
lemma refuses_configure (registry : CollateralRegistry) (collection : Collection)
    (token : Option Nat) (terms : CollateralTerms) (openLoans now : Nat) :
    FailsOnly p (registry.configure collection token terms openLoans now) := by
  cases token with
  | none =>
    refine (CollateralTerms.refuses_validate hp _).bind fun _ _ => ?_
    split
    · exact FailsOnly.bind (failsOnly_require fun _ => hp _) fun _ _ => failsOnly_pure _
    · exact failsOnly_pure _
  | some token =>
    refine (CollateralTerms.refuses_validate hp _).bind fun _ _ => ?_
    refine (plain_config (plain_of_refused hp) _ _).bind fun _ _ => ?_
    exact FailsOnly.bind (failsOnly_require fun _ => hp _) fun _ _ => failsOnly_pure _

end CollateralRegistry

/-- A token is wrapped or that is refused. -/
lemma Wrappers.refuses_wrap (wrappers : Wrappers) (item : Item) :
    FailsOnly p (wrappers.wrap item) :=
  FailsOnly.bind (failsOnly_orRefuse fun _ => hp _) fun _ _ => failsOnly_pure _

/-! ## The loan book -/

namespace LoanBook

/-- A book in step opens a loan or refuses to: the number of the loan is handed out first, and there
are no more open loans than numbers. -/
lemma InStep.refuses_openNew {book : LoanBook} (h : book.InStep) (debtor initiator : Account)
    (item wrapped : Item) (asset : Asset) (scaled now : Nat) :
    FailsOnly p (book.openNew debtor initiator item wrapped asset scaled now) := by
  unfold LoanBook.openNew
  split
  · exact failsOnly_refuse (hp _)
  · refine (failsOnly_fitClock (hp _) _).bind fun _ hnext => ?_
    refine FailsOnly.bind ?_ fun _ _ => failsOnly_pure _
    refine failsOnly_bareAdd fun hfull => ?_
    have hcount := h.openCount_le item.collection
    have hfits := (fitClock_eq_ok.mp hnext).1
    omega

/-- The open loan on a token is found or the request is refused. -/
lemma refuses_openLoan (book : LoanBook) (item : Item) : FailsOnly p (book.openLoan item) :=
  failsOnly_orRefuse fun _ => hp _

end LoanBook

/-! ## Requests of users -/

namespace Store

variable {store : Store} {O V N : Type} [PriceSource O] [Vault V] [Venue N]

/-- On a sound ledger the store accrues or refuses to. -/
lemma refuses_accrue (h : store.ledger.Sound) (asset : Asset) (now : Nat) :
    FailsOnly p (store.accrue asset now) :=
  (h.refuses_accrue hp _ _).bind fun _ _ => failsOnly_pure _

/-- A deposit is taken or refused. -/
lemma refuses_deposit (h : store.ledger.Sound) (caller : Account) (asset : Asset) (amount : Nat)
    (beneficiary : Account) (referral now : Nat) :
    FailsOnly p (store.deposit caller asset amount beneficiary referral now) := by
  refine (h.refuses_deposit hp _ _ _ _).bind fun _ _ => ?_
  exact (plain_reserveUpdate (plain_of_refused hp) _ _ _).bind fun _ _ => failsOnly_pure _

/-- A withdrawal is paid or refused, or the vault fails. -/
lemma refuses_withdraw (h : store.ledger.Sound) {vault : V}
    (hrelease : ∀ asset amount, FailsOnly p (Vault.release vault asset amount)) (caller : Account)
    (asset : Asset) (amount : Nat) (recipient : Account) (now : Nat) :
    FailsOnly p (store.withdraw vault caller asset amount recipient now) := by
  refine (h.refuses_withdraw hp hrelease _ _ _ _).bind fun _ _ => ?_
  exact (plain_reserveUpdate (plain_of_refused hp) _ _ _).bind fun _ _ => failsOnly_pure _

/-- A loan is given or refused, or the vault fails. -/
lemma refuses_borrow (h : store.ledger.Sound) (hb : store.loans.InStep) {vault : V}
    (hrelease : ∀ asset amount, FailsOnly p (Vault.release vault asset amount)) (prices : O)
    (caller : Account) (asset : Asset) (amount : Nat) (item : Item) (debtor : Account)
    (referral now : Nat) :
    FailsOnly p (store.borrow prices vault caller asset amount item debtor referral now) := by
  refine FailsOnly.bind (failsOnly_require fun _ => hp _) fun _ _ => ?_
  refine FailsOnly.bind (failsOnly_require fun _ => hp _) fun _ _ => ?_
  refine (CollateralRegistry.refuses_requireBorrowable hp _ _ _).bind fun _ _ => ?_
  refine (Wrappers.refuses_wrap hp _ _).bind fun _ _ => ?_
  split
  · exact failsOnly_refuse (hp _)
  · refine (Ledger.plain_reserve (plain_of_refused hp) _ _).bind fun _ _ => ?_
    refine FailsOnly.bind (Reserve.refuses_requireBorrowable hp _) fun _ _ => ?_
    refine (h.refuses_accrue hp _ _).bind fun ⟨_, accrued⟩ ha => ?_
    have hsound := h.accrue ha
    refine (Ledger.plain_reserve (plain_of_refused hp) _ _).bind fun _ _ => ?_
    refine (plain_valuationOf (plain_of_refused hp) _ _ _ _ _ _ _).bind fun _ _ => ?_
    refine FailsOnly.bind (failsOnly_require fun _ => hp _) fun _ _ => ?_
    refine (hsound.refuses_lend hp hrelease _ _ _).bind fun _ _ => ?_
    refine (Ledger.plain_reserve (plain_of_refused hp) _ _).bind fun _ _ => ?_
    refine (plain_valuationOf (plain_of_refused hp) _ _ _ _ _ _ _).bind fun _ _ => ?_
    refine FailsOnly.bind (failsOnly_require fun _ => hp _) fun _ _ => ?_
    refine (hb.refuses_openNew hp _ _ _ _ _ _ _).bind fun _ _ => ?_
    refine (Ledger.plain_reserve (plain_of_refused hp) _ _).bind fun _ _ => ?_
    exact (plain_reserveUpdate (plain_of_refused hp) _ _ _).bind fun _ _ => failsOnly_pure _

/-- A repayment is taken or refused. -/
lemma refuses_repay (h : store.ledger.Sound) (caller : Account) (item : Item) (amount now : Nat) :
    FailsOnly p (store.repay caller item amount now) := by
  refine FailsOnly.bind (failsOnly_require fun _ => hp _) fun _ _ => ?_
  refine (LoanBook.refuses_openLoan hp _ _).bind fun _ _ => ?_
  refine FailsOnly.bind (failsOnly_require fun _ => hp _) fun _ _ => ?_
  refine (Ledger.plain_reserve (plain_of_refused hp) _ _).bind fun _ _ => ?_
  refine FailsOnly.bind (failsOnly_require fun _ => hp _) fun _ _ => ?_
  refine (h.refuses_accrue hp _ _).bind fun ⟨_, accrued⟩ ha => ?_
  have hsound := h.accrue ha
  refine (Ledger.plain_reserve (plain_of_refused hp) _ _).bind fun _ _ => ?_
  refine (Reserve.failsOnly_debtOf (hp _) _ _).bind fun _ _ => ?_
  refine (hsound.refuses_repay hp _ _ _).bind fun _ _ => ?_
  refine (LoanBook.plain_payDown (plain_of_refused hp) _ _ _ _).bind fun _ _ => ?_
  exact (plain_reserveUpdate (plain_of_refused hp) _ _ _).bind fun _ _ => failsOnly_pure _

/-- A mandate is set or refused. -/
lemma refuses_setMandate (store : Store) (caller delegatee : Account) (approved : Bool)
    (now : Nat) : FailsOnly p (store.setMandate caller delegatee approved now) :=
  FailsOnly.bind (failsOnly_require fun _ => hp _) fun _ _ => failsOnly_pure _

/-- A bid is taken or refused. -/
lemma refuses_bid (h : store.ledger.Sound) (hv : store.collateral.Valid) (prices : O)
    (caller : Account) (item : Item) (price : Nat) (bidder : Account) (now : Nat) :
    FailsOnly p (store.bid prices caller item price bidder now) := by
  refine FailsOnly.bind (failsOnly_require fun _ => hp _) fun _ _ => ?_
  refine (LoanBook.refuses_openLoan hp _ _).bind fun loan _ => ?_
  refine (refuses_accrue hp h _ _).bind fun store' haccrue => ?_
  obtain ⟨_, accrued, -, rfl⟩ := accrue_eq_ok haccrue
  refine FailsOnly.bind (plain_valuation (plain_of_refused hp) _ _ _ _ _ _)
    fun ⟨config, valuation⟩ hvalued => ?_
  obtain ⟨_, hconfig, -, -⟩ := valuation_eq_ok hvalued
  refine (Ledger.plain_reserve (plain_of_refused hp) _ _).bind fun _ _ => ?_
  simp only []
  split
  · refine FailsOnly.bind (failsOnly_require fun _ => hp _) fun _ _ => ?_
    refine (CollateralTerms.refuses_firstBid hp (hv.config hconfig) _ _).bind fun _ _ => ?_
    refine FailsOnly.bind (failsOnly_require fun _ => hp _) fun _ _ => ?_
    refine (CollateralTerms.refuses_redeemFine hp _ _ _ _).bind fun _ _ => ?_
    refine FailsOnly.bind (failsOnly_pure _) fun _ _ => ?_
    exact (plain_reserveUpdate (plain_of_refused hp) _ _ _).bind fun _ _ => failsOnly_pure _
  · refine FailsOnly.bind (failsOnly_orRefuse fun _ => hp _) fun _ _ => ?_
    refine (failsOnly_fitClock (hp _) _).bind fun _ _ => ?_
    refine FailsOnly.bind (failsOnly_require fun _ => hp _) fun _ _ => ?_
    refine FailsOnly.bind ?_ fun _ _ => ?_
    · exact (plain_mulDiv (plain_of_refused hp) _ _ _ _).bind fun _ _ => failsOnly_pure _
    refine (failsOnly_addAmount (hp _) _ _).bind fun _ _ => ?_
    refine FailsOnly.bind (failsOnly_require fun _ => hp _) fun _ _ => ?_
    refine FailsOnly.bind (failsOnly_pure _) fun _ _ => ?_
    exact (plain_reserveUpdate (plain_of_refused hp) _ _ _).bind fun _ _ => failsOnly_pure _
  · refine FailsOnly.bind (failsOnly_refuse (hp _)) fun _ _ => ?_
    exact (plain_reserveUpdate (plain_of_refused hp) _ _ _).bind fun _ _ => failsOnly_pure _

/-- What a redeem leaves of the debt is accepted or refused. -/
lemma refuses_checkRedeem (settings : Settings) (terms : CollateralTerms) (valuation : Valuation)
    (decimals pay : Nat) : FailsOnly p (checkRedeem settings terms valuation decimals pay) := by
  refine failsOnly_ite (fun hpart => ?_) fun _ => failsOnly_ok _
  refine (plain_mulDiv (plain_of_refused hp) _ _ _ _).bind fun _ _ => ?_
  refine FailsOnly.bind (failsOnly_require fun _ => hp _) fun _ _ => ?_
  refine (failsOnly_bareSub hpart.le).bind fun _ _ => ?_
  refine (plain_worthOf (plain_of_refused hp) _ _ _ _).bind fun _ _ => ?_
  exact (plain_mulDiv (plain_of_refused hp) _ _ _ _).bind fun _ _ => failsOnly_require fun _ => hp _

/-- A redeem is taken or refused. -/
lemma refuses_redeem (h : store.ledger.Sound) (prices : O) (caller : Account) (item : Item)
    (amount maxFine now : Nat) :
    FailsOnly p (store.redeem prices caller item amount maxFine now) := by
  refine FailsOnly.bind (failsOnly_require fun _ => hp _) fun _ _ => ?_
  refine (LoanBook.refuses_openLoan hp _ _).bind fun loan _ => ?_
  refine FailsOnly.bind (failsOnly_require fun _ => hp _) fun _ _ => ?_
  refine FailsOnly.bind (failsOnly_orRefuse fun _ => hp _) fun _ _ => ?_
  refine (CollateralRegistry.plain_config (plain_of_refused hp) _ _).bind fun _ _ => ?_
  refine (failsOnly_fitClock (hp _) _).bind fun _ _ => ?_
  refine FailsOnly.bind (failsOnly_require fun _ => hp _) fun _ _ => ?_
  refine (refuses_accrue hp h _ _).bind fun store' haccrue => ?_
  obtain ⟨_, accrued, ha, rfl⟩ := accrue_eq_ok haccrue
  have hsound := h.accrue ha
  refine (plain_valuation (plain_of_refused hp) _ _ _ _ _ _).bind fun _ _ => ?_
  refine (Ledger.plain_reserve (plain_of_refused hp) _ _).bind fun _ _ => ?_
  refine FailsOnly.bind (failsOnly_require fun _ => hp _) fun _ _ => ?_
  refine (refuses_checkRedeem hp _ _ _ _ _).bind fun _ _ => ?_
  refine FailsOnly.bind (hsound.refuses_repay hp _ _ _) fun _ _ => ?_
  refine (failsOnly_addAmount (hp _) _ _).bind fun _ _ => ?_
  refine (LoanBook.plain_payDown (plain_of_refused hp) _ _ _ _).bind fun _ _ => ?_
  exact (plain_reserveUpdate (plain_of_refused hp) _ _ _).bind fun _ _ => failsOnly_pure _

/-- A loan is settled or that is refused: no more is repaid than the proceeds. -/
lemma refuses_settle (h : store.ledger.Sound) (loan : Loan) (proceeds : Nat)
    (winner : Option Account) (now : Nat) :
    FailsOnly p (store.settle loan proceeds winner now) := by
  unfold settle
  refine (Ledger.plain_reserve (plain_of_refused hp) _ _).bind fun _ _ => ?_
  refine (Reserve.failsOnly_debtOf (hp _) _ _).bind fun debt _ => ?_
  simp only [bind_pure_bind, ite_bind]
  refine FailsOnly.bind ?_ fun ⟨remaining, repaid⟩ hpay => ?_
  · exact failsOnly_ite (fun _ => failsOnly_pure _) fun _ => (h.refuses_repay hp _ _ _).map
  have hrepaid : repaid.Sound := by
    rcases paid_eq_ok hpay with ⟨-, -, rfl⟩ | ⟨_, -, hrepays, -⟩
    · exact h
    · exact h.repay hrepays
  refine FailsOnly.bind ?_ fun _ _ => ?_
  · exact failsOnly_ite (fun _ => failsOnly_pure _) fun _ => hrepaid.refuses_writeOff hp _ _
  refine (failsOnly_bareSub (Nat.min_le_left _ _)).bind fun _ _ => ?_
  exact (LoanBook.plain_close (plain_of_refused hp) _ _ _ _).bind fun _ _ => failsOnly_pure _

/-- A request waits for a window to be over, or is refused, or breaks off: the first moment after
the window must be one of the clock. -/
lemma refuses_requireOver {deadline now : Nat} (hfits : deadline < clockBound)
    (hlast : deadline = maxClock → now ≤ deadline → p (.fault .addition)) :
    FailsOnly p (requireOver deadline now) := by
  refine failsOnly_ite (fun hopen => ?_) fun _ => failsOnly_ok _
  refine FailsOnly.bind (failsOnly_bareAdd fun hfull => ?_) fun _ _ => failsOnly_refuse (hp _)
  refine hlast ?_ hopen
  rw [maxClock]
  omega

/-- A liquidation is carried out or refused, unless the clock ends with the bid window. -/
lemma refuses_liquidate (h : store.ledger.Sound) (caller : Account) {item : Item} (minPrice : Nat)
    {now : Nat} (hlast : store.ClosesWithClock item now → p (.fault .addition)) :
    FailsOnly p (store.liquidate caller item minPrice now) := by
  refine (LoanBook.refuses_openLoan hp _ _).bind fun loan hloan => ?_
  refine FailsOnly.bind (failsOnly_require fun _ => hp _) fun _ hauction => ?_
  refine FailsOnly.bind (failsOnly_orRefuse fun _ => hp _) fun bid hbid => ?_
  refine (CollateralRegistry.plain_config (plain_of_refused hp) _ _).bind fun config hconfig => ?_
  refine (failsOnly_fitClock (hp _) _).bind fun deadline hdeadline => ?_
  obtain ⟨hfits, rfl⟩ := fitClock_eq_ok.mp hdeadline
  refine FailsOnly.bind (refuses_requireOver hp hfits fun hend hopen => ?_) fun _ _ => ?_
  · refine hlast ⟨loan, bid, config, ?_, ?_, ?_, hconfig, hend, hend ▸ hopen⟩
    · exact orRefuse_eq_ok.mp hloan
    · exact require_eq_ok.mp hauction
    · exact orRefuse_eq_ok.mp hbid
  refine FailsOnly.bind (failsOnly_require fun _ => hp _) fun _ _ => ?_
  refine (refuses_accrue hp h _ _).bind fun store' haccrue => ?_
  obtain ⟨_, accrued, ha, rfl⟩ := accrue_eq_ok haccrue
  refine FailsOnly.bind (refuses_settle hp (h.accrue ha) _ _ _ _) fun _ _ => ?_
  exact (plain_reserveUpdate (plain_of_refused hp) _ _ _).bind fun _ _ => failsOnly_pure _

/-- A sale is carried out or refused, or the venue fails, unless the clock ends with the bid
window. -/
lemma refuses_sell (h : store.ledger.Sound) (hv : store.collateral.Valid) {venue : N}
    (hvenue : ∀ item asset least, FailsOnly p (Venue.sell venue item asset least)) {prices : O}
    (caller : Account) {item : Item} {now : Nat}
    (hlast : store.ClosesWithClock item now → store.SaleWeighed prices item now →
      p (.fault .addition)) :
    FailsOnly p (store.sell prices venue caller item now) := by
  refine (LoanBook.refuses_openLoan hp _ _).bind fun loan hloan => ?_
  refine (refuses_accrue hp h _ _).bind fun store' haccrue => ?_
  obtain ⟨_, accrued, ha, rfl⟩ := accrue_eq_ok haccrue
  refine FailsOnly.bind (plain_valuation (plain_of_refused hp) _ _ _ _ _ _)
    fun ⟨config, valuation⟩ hvalued => ?_
  obtain ⟨_, hconfig, -, -⟩ := valuation_eq_ok hvalued
  refine (CollateralTerms.refuses_saleFloor hp (hv.config hconfig) _).bind fun floor hfloor => ?_
  have hopen := orRefuse_eq_ok.mp hloan
  have hweighed : store.SaleWeighed prices item now :=
    ⟨loan, _, config, valuation, floor, hopen, haccrue, hvalued, hfloor⟩
  refine FailsOnly.bind ?_ fun _ _ => ?_
  · unfold checkSale
    split
    · exact FailsOnly.bind (failsOnly_require fun _ => hp _) fun _ _ => failsOnly_pure _
    · next hauction =>
      refine FailsOnly.bind (failsOnly_orRefuse fun _ => hp _) fun bid hbid => ?_
      refine (failsOnly_fitClock (hp _) _).bind fun deadline hdeadline => ?_
      obtain ⟨hfits, rfl⟩ := fitClock_eq_ok.mp hdeadline
      refine FailsOnly.bind (refuses_requireOver hp hfits fun hend hsoon => ?_) fun _ _ => ?_
      · have hbid := orRefuse_eq_ok.mp hbid
        exact hlast ⟨loan, bid, config, hopen, hauction, hbid, hconfig, hend, hend ▸ hsoon⟩ hweighed
      · exact FailsOnly.bind (failsOnly_require fun _ => hp _) fun _ _ => failsOnly_pure _
    · exact failsOnly_refuse (hp _)
  refine (hvenue _ _ _).bind fun _ _ => ?_
  refine FailsOnly.bind (failsOnly_require fun _ => hp _) fun _ _ => ?_
  refine FailsOnly.bind (refuses_settle hp (h.accrue ha) _ _ _ _) fun _ _ => ?_
  exact (plain_reserveUpdate (plain_of_refused hp) _ _ _).bind fun _ _ => failsOnly_pure _

/-- The end of an auction is accepted or refused: one in the past is refused before the length is
measured. -/
lemma refuses_auctionEnd (settings : Settings) (kind : SaleKind) (endsAt now : Nat) :
    FailsOnly p (auctionEnd settings kind endsAt now) := by
  cases kind with
  | fixedPrice => exact failsOnly_ok _
  | auction =>
    refine FailsOnly.bind (failsOnly_require fun _ => hp _) fun _ hlater => ?_
    refine (failsOnly_bareSub (require_eq_ok.mp hlater).le).bind fun _ _ => ?_
    exact FailsOnly.bind (failsOnly_require fun _ => hp _) fun _ _ => failsOnly_pure _

/-- A debt is listed or that is refused. -/
lemma refuses_list (store : Store) (caller : Account) (item : Item) (kind : SaleKind)
    (price endsAt now : Nat) : FailsOnly p (store.list caller item kind price endsAt now) := by
  refine (LoanBook.refuses_openLoan hp _ _).bind fun _ _ => ?_
  refine FailsOnly.bind (failsOnly_require fun _ => hp _) fun _ _ => ?_
  refine FailsOnly.bind (failsOnly_require fun _ => hp _) fun _ _ => ?_
  split
  · exact failsOnly_refuse (hp _)
  · refine FailsOnly.bind (failsOnly_require fun _ => hp _) fun _ _ => ?_
    refine (refuses_auctionEnd hp _ _ _ _).bind fun _ _ => ?_
    refine FailsOnly.bind ?_ fun _ _ => failsOnly_pure _
    exact (failsOnly_fitClock (hp _) _).bind fun _ _ => failsOnly_pure _

/-- A debt is passed on or that is refused. -/
lemma refuses_passDebt (store : Store) (listing : Listing) (buyer : Account) :
    FailsOnly p (store.passDebt listing buyer) := by
  refine (LoanBook.refuses_openLoan hp _ _).bind fun _ _ => ?_
  exact FailsOnly.bind (failsOnly_orRefuse fun _ => hp _) fun _ _ => failsOnly_pure _

/-- A debt is bought or that is refused. -/
lemma refuses_buyDebt (store : Store) (caller : Account) (item : Item) (now : Nat) :
    FailsOnly p (store.buyDebt caller item now) := by
  refine FailsOnly.bind (failsOnly_orRefuse fun _ => hp _) fun _ _ => ?_
  refine FailsOnly.bind (failsOnly_require fun _ => hp _) fun _ _ => ?_
  refine FailsOnly.bind (failsOnly_require fun _ => hp _) fun _ _ => ?_
  refine FailsOnly.bind (failsOnly_require fun _ => hp _) fun _ _ => ?_
  exact (refuses_passDebt hp _ _ _).bind fun _ _ => failsOnly_pure _

/-- A bid for a debt is taken or refused. -/
lemma refuses_bidDebt (store : Store) (caller : Account) (item : Item) (amount now : Nat) :
    FailsOnly p (store.bidDebt caller item amount now) := by
  refine FailsOnly.bind (failsOnly_orRefuse fun _ => hp _) fun listing _ => ?_
  refine FailsOnly.bind (failsOnly_require fun _ => hp _) fun _ _ => ?_
  refine FailsOnly.bind (failsOnly_require fun _ => hp _) fun _ _ => ?_
  refine FailsOnly.bind (failsOnly_require fun _ => hp _) fun _ _ => ?_
  refine FailsOnly.bind (failsOnly_require fun _ => hp _) fun _ _ => ?_
  have hnext : FailsOnly p (nextDebtBid store.settings listing) := by
    unfold nextDebtBid
    split
    · exact failsOnly_ok _
    · refine FailsOnly.bind ?_ fun _ _ => ?_
      · exact (plain_mulDiv (plain_of_refused hp) _ _ _ _).bind fun _ _ => failsOnly_pure _
      exact failsOnly_addAmount (hp _) _ _
  refine hnext.bind fun _ _ => ?_
  refine FailsOnly.bind (failsOnly_require fun _ => hp _) fun _ _ => ?_
  exact FailsOnly.bind (failsOnly_orRefuse fun _ => hp _) fun _ _ => failsOnly_pure _

/-- A debt is claimed or that is refused. -/
lemma refuses_claimDebt (store : Store) (item : Item) (now : Nat) :
    FailsOnly p (store.claimDebt item now) := by
  refine FailsOnly.bind (failsOnly_orRefuse fun _ => hp _) fun _ _ => ?_
  refine FailsOnly.bind (failsOnly_require fun _ => hp _) fun _ _ => ?_
  refine FailsOnly.bind (failsOnly_require fun _ => hp _) fun _ _ => ?_
  refine FailsOnly.bind (failsOnly_orRefuse fun _ => hp _) fun _ _ => ?_
  refine FailsOnly.bind (failsOnly_require fun _ => hp _) fun _ _ => ?_
  exact (refuses_passDebt hp _ _ _).bind fun _ _ => failsOnly_pure _

/-- A listing is cancelled or that is refused. -/
lemma refuses_cancelListing (store : Store) (caller : Account) (item : Item) (now : Nat) :
    FailsOnly p (store.cancelListing caller item now) := by
  refine FailsOnly.bind (failsOnly_orRefuse fun _ => hp _) fun _ _ => ?_
  refine FailsOnly.bind (failsOnly_require fun _ => hp _) fun _ _ => ?_
  simp only []
  split
  · refine FailsOnly.bind (failsOnly_orRefuse fun _ => hp _) fun _ _ => ?_
    exact FailsOnly.bind (failsOnly_pure _) fun _ _ => failsOnly_pure _
  · exact FailsOnly.bind (failsOnly_pure _) fun _ _ => failsOnly_pure _

end Store

/-! ## Actions -/

variable {O V N : Type} [PriceSource O] [Vault V] [Venue N]

/-- The action of a user is done or refused, or the vault or the venue fails, unless it is to settle
a loan whose open bid window ends with the clock. -/
lemma UserAction.refuses_run {action : UserAction} {store : Store} (h : store.ledger.Sound)
    (hv : store.collateral.Valid) (hb : store.loans.InStep) {vault : V} {venue : N}
    (hrelease : ∀ asset amount, FailsOnly p (Vault.release vault asset amount))
    (hvenue : ∀ item asset least, FailsOnly p (Venue.sell venue item asset least)) {prices : O}
    (caller : Account) {now : Nat}
    (hlast : action.SettlesAtClockEnd prices store now → p (.fault .addition)) :
    FailsOnly p (action.run prices ⟨store, vault, venue⟩ caller now) := by
  cases action with
  | deposit =>
    exact (Store.refuses_deposit hp h _ _ _ _ _ _).bind fun _ _ => failsOnly_pure _
  | withdraw =>
    exact (Store.refuses_withdraw hp h hrelease _ _ _ _ _).bind fun _ _ => failsOnly_pure _
  | borrow =>
    exact (Store.refuses_borrow hp h hb hrelease _ _ _ _ _ _ _ _).bind fun _ _ => failsOnly_pure _
  | repay => exact (Store.refuses_repay hp h _ _ _ _).bind fun _ _ => failsOnly_pure _
  | setMandate => exact (Store.refuses_setMandate hp _ _ _ _ _).bind fun _ _ => failsOnly_pure _
  | bid => exact (Store.refuses_bid hp h hv _ _ _ _ _ _).bind fun _ _ => failsOnly_pure _
  | redeem => exact (Store.refuses_redeem hp h _ _ _ _ _ _).bind fun _ _ => failsOnly_pure _
  | liquidate item minPrice =>
    refine FailsOnly.bind (Store.refuses_liquidate hp h _ _ fun hcloses => ?_) fun _ _ => ?_
    · exact hlast (.liquidate hcloses)
    · exact failsOnly_pure _
  | sell item =>
    refine FailsOnly.bind (Store.refuses_sell hp h hv hvenue _ fun hcloses hweighed => ?_)
      fun _ _ => ?_
    · exact hlast (.sell hcloses hweighed)
    · exact failsOnly_pure _
  | list => exact (Store.refuses_list hp _ _ _ _ _ _ _).bind fun _ _ => failsOnly_pure _
  | buyDebt => exact (Store.refuses_buyDebt hp _ _ _ _).bind fun _ _ => failsOnly_pure _
  | bidDebt => exact (Store.refuses_bidDebt hp _ _ _ _ _).bind fun _ _ => failsOnly_pure _
  | claimDebt => exact (Store.refuses_claimDebt hp _ _ _).bind fun _ _ => failsOnly_pure _
  | cancelListing =>
    exact (Store.refuses_cancelListing hp _ _ _ _).bind fun _ _ => failsOnly_pure _

/-- A role is given or that is refused. -/
lemma RoleRegister.refuses_grant (register : RoleRegister) (caller account : Account) (role : Role)
    (now : Nat) : FailsOnly p (register.grant caller account role now) := by
  refine FailsOnly.bind (failsOnly_require fun _ => hp _) fun _ _ => ?_
  refine FailsOnly.bind (failsOnly_require fun _ => hp _) fun _ _ => ?_
  exact FailsOnly.bind (failsOnly_require fun _ => hp _) fun _ _ => failsOnly_pure _

/-- A role is taken or that is refused. -/
lemma RoleRegister.refuses_revoke (register : RoleRegister) (caller account : Account) (role : Role)
    (now : Nat) : FailsOnly p (register.revoke caller account role now) := by
  refine FailsOnly.bind (failsOnly_require fun _ => hp _) fun _ _ => ?_
  refine FailsOnly.bind (failsOnly_require fun _ => hp _) fun _ _ => ?_
  exact FailsOnly.bind (failsOnly_require fun _ => hp _) fun _ _ => failsOnly_pure _

/-- The switches of a collection are told or that is refused. -/
lemma PoolState.refuses_collateralSwitched (state : PoolState) (collection : Collection)
    (now : Nat) : FailsOnly p (state.collateralSwitched collection now) :=
  (CollateralRegistry.plain_config (plain_of_refused hp) _ _).bind fun _ _ => failsOnly_pure _

/-- The switches of a reserve are told or that is refused. -/
lemma PoolState.refuses_reserveConfigured (state : PoolState) (asset : Asset) (now : Nat) :
    FailsOnly p (state.reserveConfigured asset now) :=
  (Ledger.plain_reserve (plain_of_refused hp) _ _).bind fun _ _ => failsOnly_pure _

/-- The action of an operator is done or refused, or the vault fails. -/
lemma OperatorAction.refuses_run (action : OperatorAction) {state : PoolState}
    (h : state.store.ledger.Sound) {vault : V}
    (hplace : ∀ asset amount, FailsOnly p (Vault.place vault asset amount))
    (hrelease : ∀ asset amount, FailsOnly p (Vault.release vault asset amount))
    (caller : Account) (now : Nat) : FailsOnly p (action.run state vault caller now) := by
  unfold run
  refine FailsOnly.bind (failsOnly_require fun _ => hp _) fun _ _ => ?_
  cases action with
  | setPause paused =>
    simp only []
    split
    · refine FailsOnly.bind ?_ fun _ _ => failsOnly_pure _
      exact FailsOnly.bind (failsOnly_require fun _ => hp _) fun _ _ => failsOnly_pure _
    · refine FailsOnly.bind ?_ fun _ _ => failsOnly_pure _
      exact FailsOnly.bind (failsOnly_require fun _ => hp _) fun _ _ => failsOnly_pure _
  | grantRole => exact (RoleRegister.refuses_grant hp _ _ _ _ _).bind fun _ _ => failsOnly_pure _
  | revokeRole => exact (RoleRegister.refuses_revoke hp _ _ _ _ _).bind fun _ _ => failsOnly_pure _
  | configureCollateral =>
    exact (CollateralRegistry.refuses_configure hp _ _ _ _ _ _).bind fun _ _ => failsOnly_pure _
  | setCollateralActive =>
    refine FailsOnly.bind ?_ fun _ _ => ?_
    · refine FailsOnly.bind (failsOnly_require fun _ => hp _) fun _ _ => ?_
      exact FailsOnly.bind (failsOnly_orRefuse fun _ => hp _) fun _ _ => failsOnly_pure _
    exact (PoolState.refuses_collateralSwitched hp _ _ _).bind fun _ _ => failsOnly_pure _
  | setCollateralFrozen =>
    refine FailsOnly.bind ?_ fun _ _ => ?_
    · exact FailsOnly.bind (failsOnly_orRefuse fun _ => hp _) fun _ _ => failsOnly_pure _
    exact (PoolState.refuses_collateralSwitched hp _ _ _).bind fun _ _ => failsOnly_pure _
  | registerWrapper =>
    refine FailsOnly.bind ?_ fun _ _ => failsOnly_pure _
    refine FailsOnly.bind (failsOnly_require fun _ => hp _) fun _ _ => ?_
    exact FailsOnly.bind (failsOnly_require fun _ => hp _) fun _ _ => failsOnly_pure _
  | openReserve =>
    refine (Ledger.refuses_openReserve hp _ _ _ _).bind fun _ _ => ?_
    exact (Store.plain_reserveUpdate (plain_of_refused hp) _ _ _).bind fun _ _ => failsOnly_pure _
  | setReserveFlags =>
    refine (Ledger.refuses_setFlags hp _ _ _ _ _).bind fun _ _ => ?_
    exact (PoolState.refuses_reserveConfigured hp _ _ _).bind fun _ _ => failsOnly_pure _
  | setReserveFactor =>
    refine (h.refuses_setFactor hp _ _ _).bind fun _ _ => ?_
    refine (PoolState.refuses_reserveConfigured hp _ _ _).bind fun _ _ => ?_
    exact (Store.plain_reserveUpdate (plain_of_refused hp) _ _ _).bind fun _ _ => failsOnly_pure _
  | setRateModel =>
    refine (h.refuses_setModel hp _ _ _).bind fun _ _ => ?_
    exact (Store.plain_reserveUpdate (plain_of_refused hp) _ _ _).bind fun _ _ => failsOnly_pure _
  | setVaultShare =>
    exact (Ledger.refuses_setVaultShare hp _ _ _).bind fun _ _ => failsOnly_pure _
  | rebalance =>
    refine (h.refuses_accrue hp _ _).bind fun _ ha => ?_
    refine ((h.accrue ha).refuses_rebalance hp hrelease hplace _).bind fun _ _ => ?_
    exact (Store.plain_reserveUpdate (plain_of_refused hp) _ _ _).bind fun _ _ => failsOnly_pure _

end Refusals

/-! ## Settling at the end of the clock -/

/-- A window may end with the last moment of the clock. -/
lemma Bid.deadline_eq_maxClock {bid : Bid} {window : Nat} (h : bid.startedAt + window = maxClock) :
    bid.deadline window = .ok maxClock := by
  have hfits : maxClock < clockBound := by decide
  exact fitClock_eq_ok.mpr ⟨by rwa [h], h⟩

/-- There is no first moment after the last one of the clock. -/
lemma Store.requireOver_maxClock {now : Nat} (h : now ≤ maxClock) :
    requireOver maxClock now = .error (.fault .addition) := by
  have hfull : ¬ maxClock + 1 < clockBound := by decide
  rw [requireOver, if_pos h, bareAdd, if_neg hfull]
  rfl

namespace Store.ClosesWithClock

variable {store : Store} {item : Item} {now : Nat}

/-- A liquidation breaks off while a bid window is open that ends with the clock. -/
lemma liquidate_eq (h : store.ClosesWithClock item now) (caller : Account) (minPrice : Nat) :
    store.liquidate caller item minPrice now = .error (.fault .addition) := by
  obtain ⟨loan, bid, config, hopen, hauction, hbid, hconfig, hend, hnow⟩ := h
  have hloan : store.loans.openLoan item = .ok loan := orRefuse_eq_ok.mpr hopen
  have hstatus : loan.requireStatus .auction = .ok () := require_eq_ok.mpr hauction
  have hlocked : loan.requireBid = .ok bid := orRefuse_eq_ok.mpr hbid
  have hdeadline := Bid.deadline_eq_maxClock hend
  simp only [Store.liquidate, hloan, hstatus, hlocked, hconfig, hdeadline,
    requireOver_maxClock hnow, Bind.bind, Except.bind]

/-- A sale whose loan is weighed breaks off while a bid window is open that ends with the clock. -/
lemma sell_eq {O N : Type} [PriceSource O] [Venue N] {prices : O}
    (h : store.ClosesWithClock item now) (hweighed : store.SaleWeighed prices item now) (venue : N)
    (caller : Account) :
    store.sell prices venue caller item now = .error (.fault .addition) := by
  obtain ⟨loan, bid, config, hopen, hauction, hbid, hconfig, hend, hnow⟩ := h
  obtain ⟨loan', accrued, config', valuation, floor, hopen', haccrue, hvalued, hfloor⟩ := hweighed
  obtain rfl := Option.some.inj (hopen.symm.trans hopen')
  -- the accrual leaves the terms in force
  obtain ⟨_, ledger, -, rfl⟩ := Store.accrue_eq_ok haccrue
  obtain ⟨_, hconfig', -, -⟩ := Store.valuation_eq_ok hvalued
  obtain rfl := Except.ok.inj (hconfig.symm.trans hconfig')
  have hloan : store.loans.openLoan item = .ok loan := orRefuse_eq_ok.mpr hopen
  have hlocked : loan.requireBid = .ok bid := orRefuse_eq_ok.mpr hbid
  have hdeadline := Bid.deadline_eq_maxClock hend
  have hcheck : Store.checkSale { store with ledger } loan config valuation floor now =
      .error (.fault .addition) := by
    simp only [Store.checkSale, hauction, hlocked, hdeadline, requireOver_maxClock hnow, Bind.bind,
      Except.bind]
  simp only [Store.sell, hloan, haccrue, hvalued, hfloor, hcheck, Bind.bind, Except.bind]

end Store.ClosesWithClock

/-- An action that is to settle a loan at the end of the clock breaks off. -/
lemma UserAction.SettlesAtClockEnd.run_eq {O V N : Type} [PriceSource O] [Vault V] [Venue N]
    {prices : O} {store : Store} {now : Nat} {action : UserAction}
    (h : action.SettlesAtClockEnd prices store now) (vault : V) (venue : N) (caller : Account) :
    action.run prices ⟨store, vault, venue⟩ caller now = .error (.fault .addition) := by
  cases h with
  | liquidate closes =>
    simp only [UserAction.run, closes.liquidate_eq, Bind.bind, Except.bind]
  | sell closes weighed =>
    simp only [UserAction.run, closes.sell_eq weighed, Bind.bind, Except.bind]

end PooledCredit
