import PooledCredit.Proofs.Loans.Exits

/-!
# Repayments cover the debt

A repayment burns scaled debt rounded down, and what is left of a debt is told rounded up. What is
paid and what is left therefore cover the debt that there was, by less than two scaled units too
much, and a debt that is split into many repayments at one moment costs no less than a debt that is
paid at once. A rest that would be no more than dust is taken with the repayment, so a loan that
stays open owes more than dust.
-/

namespace PooledCredit

namespace Store

variable {store store' : Store} {caller : Account} {item : Item} {loan loan' : Loan}
variable {amount now debt : Nat}

/-! ## The debt after a repayment -/

/-- What a loan owes is its scaled debt at the index of the moment. -/
lemma owedAt_of_debtIndexAt {index : Nat} (h : store.debtIndexAt loan.asset now = .ok index) :
    store.owedAt loan now = rayMul .up loan.scaled index := by
  simp only [owedAt, h, Bind.bind, Except.bind]

/-- A repayment leaves the debt index where it stands at the moment of the accrual. -/
lemma debtIndexAt_of_repaid {asset : Asset} {accrual : Accrual} {accrued : Ledger}
    {reserve : Reserve} {scaled : Nat} {repayment : Repayment}
    (ha : store.ledger.accrue asset now = .ok (accrual, accrued))
    (hr : accrued.reserves.get? asset = some reserve)
    (hp : accrued.repay asset scaled amount = .ok (repayment, store'.ledger)) :
    store'.debtIndexAt asset now = .ok reserve.debtIndex := by
  obtain ⟨_, _, htouch, haccrue⟩ := Ledger.accrue_eq_ok ha
  obtain rfl := htouch.found hr
  obtain ⟨found, debt, _, htouch', -, hdebt, -⟩ := Ledger.repay_eq_ok hp
  obtain rfl := Option.some.inj (htouch'.old.symm.trans hr)
  obtain ⟨-, -, _, _, _, _, hafter⟩ := Ledger.repay_leaves hr hdebt hp
  have hnow : now ≤ found.updatedAt := (Reserve.accrue_updatedAt haccrue).ge
  exact bind_eq_ok.mpr ⟨_, orRefuse_eq_ok.mpr hafter, if_pos (.inl hnow)⟩

/-! ## One repayment -/

/-- The store that a repayment leaves. -/
def RepaySteps.after (s : RepaySteps store item amount now) : Store :=
  { store with ledger := s.repaid, loans := s.loans }

/-- What repayments at one moment do to what a loan owes. What they pay and what the loan then owes
cover what it owed, and for each of them exceed it by at most one scaled unit, rounded up. -/
structure Reduces (store store' : Store) (now : Nat) (loan loan' : Loan)
    (count paid debt left : Nat) : Prop where
  filed : store'.loans.loan? loan.id = some loan'
  sameIndex : store'.debtIndexAt loan.asset now = store.debtIndexAt loan.asset now
  owed : store.owedAt loan now = .ok debt
  rest : store'.owedAt loan' now = .ok left
  covers : debt ≤ paid + left
  tight : ∀ index, store.debtIndexAt loan.asset now = .ok index →
    paid + left ≤ debt + count * Rounding.up.divide index ray
  shrinks : left ≤ debt

/-- No repayment leaves the whole debt. -/
lemma Reduces.refl (hfiled : store.loans.loan? loan.id = some loan)
    (howed : store.owedAt loan now = .ok debt) :
    Reduces store store now loan loan 0 0 debt debt where
  filed := hfiled
  sameIndex := rfl
  owed := howed
  rest := howed
  covers := by omega
  tight _ _ := by omega
  shrinks := Nat.le_refl debt

/-- Repayments follow one another. -/
lemma Reduces.trans {store'' : Store} {loan'' : Loan} {count count' paid paid' rest left : Nat}
    (h : Reduces store store' now loan loan' count paid debt rest)
    (h' : Reduces store' store'' now loan' loan'' count' paid' rest left)
    (hid : loan'.id = loan.id) (hasset : loan'.asset = loan.asset) :
    Reduces store store'' now loan loan'' (count + count') (paid + paid') debt left where
  filed := hid ▸ h'.filed
  sameIndex := by
    have hindex := h'.sameIndex
    rw [hasset] at hindex
    exact hindex.trans h.sameIndex
  owed := h.owed
  rest := h'.rest
  covers := by
    have := h.covers
    have := h'.covers
    omega
  tight index hindex := by
    have hindex' : store'.debtIndexAt loan'.asset now = .ok index := by
      rw [hasset, h.sameIndex, hindex]
    have hfirst := h.tight index hindex
    have hsecond := h'.tight index hindex'
    rw [Nat.add_mul]
    omega
  shrinks := h'.shrinks.trans h.shrinks

/-- What a repayment leaves of the debt is what a loan with the remaining scaled debt owes then. -/
lemma RepaySteps.leaves (s : RepaySteps store item amount now) :
    ∃ left, s.reserve.Leaves s.debt s.repayment.paid s.repayment.remaining left ∧
      ∀ loan' : Loan, loan'.asset = s.loan.asset → loan'.scaled = s.repayment.remaining →
        s.after.owedAt loan' now = .ok left := by
  obtain ⟨-, ⟨left, hleaves⟩, -⟩ := Ledger.repay_leaves s.found s.owes s.repays
  refine ⟨left, hleaves, fun loan' hasset hscaled => ?_⟩
  have hindex : s.after.debtIndexAt loan'.asset now = .ok s.reserve.debtIndex := by
    rw [hasset]
    exact debtIndexAt_of_repaid s.accrues s.found s.repays
  rw [owedAt_of_debtIndexAt hindex, hscaled]
  exact hleaves.amounts

/-- A repayment that leaves something of the loan files it with the rest. -/
lemma RepaySteps.filed (s : RepaySteps store item amount now) (h : s.repayment.remaining ≠ 0) :
    s.after.loans.loan? s.loan.id =
      some { s.loan with scaled := s.repayment.remaining, updatedAt := now } := by
  rcases LoanBook.payDown_eq_ok s.paysDown with ⟨hnothing, -⟩ | ⟨-, hset⟩
  · exact absurd hnothing h
  · show s.loans.loan? s.loan.id = _
    rw [hset, LoanBook.loan?_setLoan, if_pos rfl]

/-- A repayment reduces what the loan owes. It closes the loan as repaid when nothing is left, and
else leaves it open with the rest. -/
lemma RepaySteps.reduces (hb : store.loans.Consistent) (s : RepaySteps store item amount now) :
    ∃ loan' left, Reduces store s.after now s.loan loan' 1 s.repayment.paid s.debt left ∧
      ((s.after.loans.openLoan? item = none ∧ loan'.status = .repaid ∧ left = 0) ∨
        (s.after.loans.openLoan? item = some loan' ∧ s.after.loans.Consistent ∧
          loan'.id = s.loan.id ∧ loan'.asset = s.loan.asset)) := by
  obtain ⟨hfiled, hopen, hitem⟩ := hb.of_openLoan? s.isOpen
  obtain ⟨left, hleaves, hrest⟩ := s.leaves
  have hindex := debtIndexAt_of_accrued s.accrues s.found
  have hindex' : s.after.debtIndexAt s.loan.asset now = .ok s.reserve.debtIndex :=
    debtIndexAt_of_repaid s.accrues s.found s.repays
  have hreduces {loan' : Loan} (hfiled' : s.after.loans.loan? s.loan.id = some loan')
      (hasset : loan'.asset = s.loan.asset) (hscaled : loan'.scaled = s.repayment.remaining) :
      Reduces store s.after now s.loan loan' 1 s.repayment.paid s.debt left := by
    refine ⟨hfiled', hindex'.trans hindex.symm, (owedAt_of_accrued s.accrues s.found).trans s.owes,
      hrest loan' hasset hscaled, hleaves.covers, fun index hi => ?_, hleaves.shrinks⟩
    obtain rfl := Except.ok.inj (hindex.symm.trans hi)
    rw [Nat.one_mul]
    exact hleaves.tight
  have honItem := congrArg s.after.loans.openLoan? hitem
  rcases LoanBook.payDown_eq_ok s.paysDown with ⟨hnothing, hclose⟩ | ⟨hsome, -⟩
  · have hamounts := hleaves.amounts
    rw [hnothing, Reserve.debtOf_zero] at hamounts
    have hgone : s.loans.openLoan? s.loan.item = none := LoanBook.openLoan?_close hfiled hclose
    exact ⟨_, left, hreduces (loan?_close hfiled hclose) rfl hnothing.symm,
      .inl ⟨honItem.symm.trans hgone, rfl, (Except.ok.inj hamounts).symm⟩⟩
  · have hb' : s.after.loans.Consistent := hb.payDown hfiled rfl rfl s.paysDown
    have hfound := hb'.openLoan?_of_isOpen (s.filed hsome) hopen
    exact ⟨_, left, hreduces (s.filed hsome) rfl rfl,
      .inr ⟨honItem.symm.trans hfound, hb', rfl, rfl⟩⟩

/-- A repayment that would leave no more than dust pays the whole debt. -/
lemma RepaySteps.dust_lt (s : RepaySteps store item amount now)
    (hshort : s.repayment.paid < s.debt) :
    store.settings.debtDust < s.debt - s.repayment.paid := by
  obtain ⟨hpaid, -⟩ := Ledger.repay_leaves s.found s.owes s.repays
  rw [hpaid, paymentFor] at hshort ⊢
  by_cases hdust : s.debt - min amount s.debt ≤ store.settings.debtDust
  · rw [if_pos hdust, Nat.min_self] at hshort
    exact absurd hshort (Nat.lt_irrefl _)
  · rw [if_neg hdust, Nat.min_eq_left (Nat.min_le_right _ _)]
    exact Nat.lt_of_not_le hdust

/-! ## Repayments in a row -/

/-- Repays on a token at one moment, one payer's offer after the other; returns what was paid in
all. -/
def repayAll (store : Store) (item : Item) (now : Nat) :
    List (Account × Nat) → Result (Nat × Store)
  | [] => .ok (0, store)
  | (payer, offer) :: offers => do
    let outcome ← store.repay payer item offer now
    let (paid, store) ← outcome.store.repayAll item now offers
    return (outcome.reply.paid + paid, store)

/-- Repayments in a row reduce what the loan owes. They close it as repaid, or leave it open. -/
lemma repayAll_reduces {offers : List (Account × Nat)} {paid : Nat}
    (hb : store.loans.Consistent) (hopen : store.loans.openLoan? item = some loan)
    (howed : store.owedAt loan now = .ok debt)
    (h : store.repayAll item now offers = .ok (paid, store')) :
    ∃ loan' left, Reduces store store' now loan loan' offers.length paid debt left ∧
      ((store'.loans.openLoan? item = none ∧ loan'.status = .repaid ∧ left = 0) ∨
        store'.loans.openLoan? item = some loan') := by
  induction offers generalizing store loan debt paid with
  | nil =>
    obtain ⟨rfl, rfl⟩ := Prod.mk.inj (Except.ok.inj h)
    exact ⟨loan, debt, .refl (hb.of_openLoan? hopen).1 howed, .inr hopen⟩
  | cons offer offers ih =>
    simp only [repayAll, bind_eq_ok, pure_eq_ok, Prod.exists, Prod.mk.injEq] at h
    obtain ⟨outcome, hrepay, others, last, hothers, rfl, rfl⟩ := h
    obtain ⟨s, rfl⟩ := repay_eq_ok hrepay
    obtain rfl := Option.some.inj (s.isOpen.symm.trans hopen)
    obtain ⟨loan', rest, hfirst, hend⟩ := s.reduces hb
    obtain rfl := Except.ok.inj (hfirst.owed.symm.trans howed)
    rcases hend with hclosed | ⟨hopen', hb', hid, hasset⟩
    · -- on a closed loan no more repayments succeed
      obtain ⟨hgone, hstatus, hleft⟩ := hclosed
      cases offers with
      | nil =>
        obtain ⟨rfl, rfl⟩ := Prod.mk.inj (Except.ok.inj hothers)
        exact ⟨loan', rest, hfirst, .inl ⟨hgone, hstatus, hleft⟩⟩
      | cons offer' offers =>
        simp only [repayAll, bind_eq_ok] at hothers
        obtain ⟨_, hagain, -⟩ := hothers
        obtain ⟨s', -⟩ := repay_eq_ok hagain
        cases hgone.symm.trans s'.isOpen
    · obtain ⟨loan'', left, hothers, hend⟩ := ih hb' hopen' hfirst.rest hothers
      have hall := hfirst.trans hothers hid hasset
      rw [Nat.add_comm 1] at hall
      exact ⟨loan'', left, hall, hend⟩

/-- A repayment takes what is offered but no more than the debt, and nothing of the scaled debt is
left exactly when the whole debt is paid. What is left of the debt is at least what was not paid, at
most one scaled unit, rounded up, more than that, and no more than the debt. Repayments of a loan at
one moment, however many, close it only when they have paid all that it owed, and they pay at most
one scaled unit each too much. And a loan that a repayment leaves open still owes more than dust. -/
theorem repayments_cover_debt :
    (∀ (ledger ledger' : Ledger) (asset : Asset) (scaled amount : Nat) (repayment : Repayment)
      (reserve : Reserve), ledger.reserves.get? asset = some reserve →
      ledger.repay asset scaled amount = .ok (repayment, ledger') →
      ∃ debt reserve' left, reserve.debtOf scaled = .ok debt ∧
        ledger'.reserves.get? asset = some reserve' ∧
        reserve'.debtOf repayment.remaining = .ok left ∧ repayment.paid = min amount debt ∧
        (repayment.remaining = 0 ↔ repayment.paid = debt) ∧ debt - repayment.paid ≤ left ∧
        left ≤ debt - repayment.paid + Rounding.up.divide reserve.debtIndex ray ∧ left ≤ debt) ∧
    (∀ (store store' : Store) (item : Item) (loan : Loan) (offers : List (Account × Nat))
      (now paid : Nat), store.loans.Consistent → store.loans.openLoan? item = some loan →
      store.repayAll item now offers = .ok (paid, store') → store'.loans.openLoan? item = none →
      ∃ debt index, store.owedAt loan now = .ok debt ∧
        store.debtIndexAt loan.asset now = .ok index ∧ debt ≤ paid ∧
        paid ≤ debt + offers.length * Rounding.up.divide index ray ∧
        (store'.loans.loan? loan.id).map Loan.status = some .repaid) ∧
    ∀ (store : Store) (caller : Account) (item : Item) (amount now : Nat)
      (outcome : Outcome RepayReply), store.repay caller item amount now = .ok outcome →
      outcome.reply.closed = false →
      ∃ loan loan' left, store.loans.openLoan? item = some loan ∧
        outcome.store.loans.loan? loan.id = some loan' ∧ loan'.status = .active ∧
        outcome.store.owedAt loan' now = .ok left ∧ store.settings.debtDust < left := by
  refine ⟨?once, ?inARow, ?stillOpen⟩
  case once =>
    intro ledger ledger' asset scaled amount repayment reserve hr h
    obtain ⟨found, debt, _, htouch, -, hdebt, -⟩ := Ledger.repay_eq_ok h
    obtain rfl := Option.some.inj (htouch.old.symm.trans hr)
    obtain ⟨hpaid, ⟨left, hleaves⟩, _, _, _, _, hr'⟩ := Ledger.repay_leaves hr hdebt h
    have hcovers := hleaves.covers
    have htight := hleaves.tight
    have hcleared : repayment.remaining = 0 ↔ repayment.paid = debt := by
      rcases Ledger.repay_remaining hr hdebt h with ⟨hall, hnothing⟩ | ⟨hshort, hsome⟩
      · exact iff_of_true hnothing hall
      · exact iff_of_false hsome hshort.ne
    exact ⟨debt, _, left, hdebt, hr', hleaves.amounts, hpaid, hcleared, by omega, by omega,
      hleaves.shrinks⟩
  case inARow =>
    intro store store' item loan offers now paid hb hopen hpays hclosed
    cases offers with
    | nil =>
      obtain ⟨rfl, rfl⟩ := Prod.mk.inj (Except.ok.inj hpays)
      cases hopen.symm.trans hclosed
    | cons offer offers =>
      have hfirst := hpays
      simp only [repayAll, bind_eq_ok] at hfirst
      obtain ⟨_, hfirst, -⟩ := hfirst
      obtain ⟨s, -⟩ := repay_eq_ok hfirst
      obtain rfl := Option.some.inj (s.isOpen.symm.trans hopen)
      have howed := (owedAt_of_accrued s.accrues s.found).trans s.owes
      have hindex := debtIndexAt_of_accrued s.accrues s.found
      obtain ⟨loan', left, hreduces, ⟨-, hstatus, rfl⟩ | hopen'⟩ :=
        repayAll_reduces hb s.isOpen howed hpays
      · refine ⟨s.debt, _, howed, hindex, hreduces.covers, hreduces.tight _ hindex, ?_⟩
        rw [hreduces.filed, Option.map_some, hstatus]
      · cases hclosed.symm.trans hopen'
  case stillOpen =>
    intro store caller item amount now outcome h hopen
    obtain ⟨s, rfl⟩ := repay_eq_ok h
    have hsome : s.repayment.remaining ≠ 0 := beq_eq_false_iff_ne.mp hopen
    obtain ⟨left, hleaves, hrest⟩ := s.leaves
    have hshort : s.repayment.paid < s.debt := by
      rcases Ledger.repay_remaining s.found s.owes s.repays with ⟨-, hnothing⟩ | ⟨hshort, -⟩
      · exact absurd hnothing hsome
      · exact hshort
    have hdust := s.dust_lt hshort
    have hcovers := hleaves.covers
    exact ⟨s.loan, _, left, s.isOpen, s.filed hsome, s.active, hrest _ rfl rfl, by omega⟩

end Store

namespace SmallMarket

/-- The price of the tokens is a million, the supplier supplies as much, and the borrower takes
300000 of it. -/
def lendingMore : List (Move PriceFeeds NoVault FlatVenue) :=
  [.turn { feeds with floors := feeds.floors.insert art ⟨1000000 * wad, 0⟩ } {} SmallMarket.venue,
    .fund coin supplier 1000000,
    .call ⟨supplier, 0, .user (.deposit coin 1000000 supplier 0)⟩,
    .call ⟨borrower, 0, .user (.borrow coin 300000 ⟨art, 1⟩ borrower 0)⟩]

/-- The pool with a loan of 300000. -/
def lentMore : Pool PriceFeeds NoVault FlatVenue := founded.follow (setUp ++ lendingMore)

/-- The books of the pool with the loan of 300000 are consistent. -/
lemma lentMore_consistent : lentMore.state.store.loans.Consistent :=
  (founded_reachable (setUp ++ lendingMore)).store.debtsAddUp.book

/-- After a year the loan owes 309000. Two parts of 100000 leave it open with more than dust, and
with the rest after them 309001 are paid in all, which is within the three scaled units. -/
theorem lentMore_split :
    (∃ paid store' loan debt index,
      lentMore.state.store.loans.openLoan? ⟨art, 1⟩ = some loan ∧
      lentMore.state.store.repayAll ⟨art, 1⟩ year
        [(borrower, 100000), (supplier, 100000), (borrower, maxAmount)] = .ok (paid, store') ∧
      lentMore.state.store.owedAt loan year = .ok debt ∧
      lentMore.state.store.debtIndexAt loan.asset year = .ok index ∧
      debt ≤ paid ∧ paid ≤ debt + 3 * Rounding.up.divide index ray ∧ paid = 309001) ∧
    ∃ outcome loan loan' left,
      lentMore.state.store.repay borrower ⟨art, 1⟩ 100000 year = .ok outcome ∧
      lentMore.state.store.loans.openLoan? ⟨art, 1⟩ = some loan ∧
      outcome.store.loans.loan? loan.id = some loan' ∧
      outcome.store.owedAt loan' year = .ok left ∧ 1000 < left := by
  obtain ⟨-, hinARow, hstillOpen⟩ := Store.repayments_cover_debt
  constructor
  · have hsplit : (lentMore.state.store.repayAll ⟨art, 1⟩ year
        [(borrower, 100000), (supplier, 100000), (borrower, maxAmount)]).map
          (fun (paid, store') => (paid, store'.loans.openLoan? ⟨art, 1⟩)) = .ok (309001, none) := by
      decide +kernel
    have hsome : (lentMore.state.store.loans.openLoan? ⟨art, 1⟩).isSome = true := by
      decide +kernel
    obtain ⟨loan, hopen⟩ := Option.isSome_iff_exists.mp hsome
    obtain ⟨⟨paid, store'⟩, hpays, heq⟩ := map_eq_ok.mp hsplit
    obtain ⟨hpaid, hclosed⟩ := Prod.mk.inj heq
    obtain ⟨debt, index, howed, hindex, hcovers, htight, -⟩ :=
      hinARow _ store' ⟨art, 1⟩ loan _ year paid lentMore_consistent hopen hpays hclosed
    exact ⟨paid, store', loan, debt, index, hopen, hpays, howed, hindex, hcovers, htight, hpaid⟩
  · have hpart : (lentMore.state.store.repay borrower ⟨art, 1⟩ 100000 year).map
        (fun outcome => outcome.reply.closed) = .ok false := by decide +kernel
    have hdust : lentMore.state.store.settings.debtDust = 1000 := by decide +kernel
    obtain ⟨outcome, hrepay, hclosed⟩ := map_eq_ok.mp hpart
    obtain ⟨loan, loan', left, hopen, hfiled, -, hleft, hlt⟩ :=
      hstillOpen _ _ _ _ _ outcome hrepay hclosed
    exact ⟨outcome, loan, loan', left, hrepay, hopen, hfiled, hleft, hdust ▸ hlt⟩

end SmallMarket

end PooledCredit
