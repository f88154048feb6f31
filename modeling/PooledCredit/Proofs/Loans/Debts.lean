import PooledCredit.Proofs.Reserves.Balances
import PooledCredit.Proofs.Runs

/-!
# The debts of the loans add up

The ledger keeps one scaled debt for each reserve, the loan book one for each loan. In every
reachable store the debt of a reserve is the sum over the open loans in its asset, an open loan
owes something and a closed one nothing. That is why no repayment, redeem or settlement can try
to take more off a reserve than it is owed.
-/

namespace PooledCredit

/-- What an open loan owes, scaled, in the reserve of an asset. -/
def Loan.openDebt (asset : Asset) (loan : Loan) : Nat :=
  if loan.status.isOpen = true ∧ loan.asset = asset then loan.scaled else 0

namespace Store

/-- The scaled debt of every reserve is the sum over the open loans in its asset; open loans owe
something and closed ones nothing. -/
structure DebtsAddUp (store : Store) : Prop where
  book : store.loans.Consistent
  total : ∀ asset, store.ledger.scaledDebtOf asset = store.loans.loans.total (Loan.openDebt asset)
  owing : ∀ id loan, store.loans.loan? id = some loan → loan.status.isOpen = true →
    0 < loan.scaled
  settled : ∀ id loan, store.loans.loan? id = some loan → loan.status.isOpen = false →
    loan.scaled = 0

namespace DebtsAddUp

variable {store : Store}

/-- A request that keeps the loans and the scaled debts keeps the debts adding up. -/
lemma frame (h : store.DebtsAddUp) {store' : Store} (hloans : store'.loans = store.loans)
    (hdebts : ∀ asset, store'.ledger.scaledDebtOf asset = store.ledger.scaledDebtOf asset) :
    store'.DebtsAddUp where
  book := hloans ▸ h.book
  total asset := by rw [hdebts, hloans, h.total]
  owing := hloans ▸ h.owing
  settled := hloans ▸ h.settled

/-- An open loan owes no more than its reserve is owed. -/
lemma scaled_le (h : store.DebtsAddUp) {id : LoanId} {loan : Loan}
    (hloan : store.loans.loan? id = some loan) (hopen : loan.status.isOpen = true) :
    loan.scaled ≤ store.ledger.scaledDebtOf loan.asset := by
  have hle := SortedMap.le_total (Loan.openDebt loan.asset) hloan
  rw [h.total]
  simpa [Loan.openDebt, hopen] using hle

/-- Rewriting one loan keeps the debts adding up when the ledger follows what the loan owes. -/
lemma rewrite (h : store.DebtsAddUp) {ledger : Ledger} {loans : LoanBook} {id : LoanId}
    {loan : Loan} (hbook : loans.Consistent)
    (hloans : loans.loans = store.loans.loans.insert id loan)
    (hsum : ∀ asset, ledger.scaledDebtOf asset +
        SortedMap.part (Loan.openDebt asset) (store.loans.loan? id) =
      store.ledger.scaledDebtOf asset + loan.openDebt asset)
    (howing : loan.status.isOpen = true → 0 < loan.scaled)
    (hsettled : loan.status.isOpen = false → loan.scaled = 0) :
    { store with ledger, loans }.DebtsAddUp where
  book := hbook
  total asset := by
    show ledger.scaledDebtOf asset = loans.loans.total (Loan.openDebt asset)
    have hinsert := SortedMap.total_insert (Loan.openDebt asset) store.loans.loans id loan
    have hsum := hsum asset
    rw [h.total] at hsum
    rw [hloans]
    unfold LoanBook.loan? at hsum
    omega
  owing other found hf hopen := by
    rw [LoanBook.loan?_insert hloans] at hf
    split at hf
    · obtain rfl := Option.some.inj hf
      exact howing hopen
    · exact h.owing other found hf hopen
  settled other found hf hclosed := by
    rw [LoanBook.loan?_insert hloans] at hf
    split at hf
    · obtain rfl := Option.some.inj hf
      exact hsettled hclosed
    · exact h.settled other found hf hclosed

/-- Storing an open loan again, with the same asset and debt, keeps the debts adding up. -/
lemma setLoan (h : store.DebtsAddUp) {old : Loan} (loan : Loan)
    (hold : store.loans.loan? loan.id = some old) (hopen : old.status.isOpen = true)
    (hopen' : loan.status.isOpen = true) (hitem : loan.item = old.item)
    (hasset : loan.asset = old.asset) (hscaled : loan.scaled = old.scaled) :
    { store with loans := store.loans.setLoan loan }.DebtsAddUp := by
  refine h.rewrite (h.book.setLoan hold (hopen'.trans hopen.symm) hitem) rfl ?_ ?_ ?_
  · intro asset
    rw [hold]
    simp [Loan.openDebt, hopen, hopen', hasset, hscaled]
  · intro _
    rw [hscaled]
    exact h.owing _ old hold hopen
  · intro hclosed
    rw [hopen'] at hclosed
    cases hclosed

/-- Closing an open loan keeps the debts adding up when its whole debt is taken off the
reserve. -/
lemma close (h : store.DebtsAddUp) {ledger : Ledger} {loans : LoanBook} {loan : Loan}
    {status : LoanStatus} {now : Nat} (hloan : store.loans.loan? loan.id = some loan)
    (hopen : loan.status.isOpen = true)
    (hdebts : ∀ asset, ledger.scaledDebtOf asset + (if asset = loan.asset then loan.scaled else 0) =
      store.ledger.scaledDebtOf asset)
    (hc : store.loans.close loan.id status now = .ok loans) :
    { store with ledger, loans }.DebtsAddUp := by
  have hbook := h.book.close hc
  obtain ⟨found, hfound, -, hfinal, rfl⟩ := LoanBook.close_eq_ok hc
  rw [hloan] at hfound
  obtain rfl := Option.some.inj hfound
  refine h.rewrite hbook rfl ?_ ?_ ?_
  · intro asset
    rw [hloan]
    simpa [Loan.openDebt, hopen, hfinal, eq_comm] using hdebts asset
  · intro hopen'
    rw [hfinal] at hopen'
    cases hopen'
  · intro _
    rfl

/-- Paying down an open loan keeps the debts adding up when what is burned is taken off the
reserve. -/
lemma payDown (h : store.DebtsAddUp) {ledger : Ledger} {loans : LoanBook} {loan : Loan}
    (next : Loan) {burned now : Nat} (hloan : store.loans.loan? loan.id = some loan)
    (hopen : loan.status.isOpen = true) (hopen' : next.status.isOpen = true)
    (hid : next.id = loan.id) (hitem : next.item = loan.item) (hasset : next.asset = loan.asset)
    (hle : burned ≤ loan.scaled)
    (hdebts : ∀ asset, ledger.scaledDebtOf asset + (if asset = loan.asset then burned else 0) =
      store.ledger.scaledDebtOf asset)
    (hp : store.loans.payDown next (loan.scaled - burned) now = .ok loans) :
    { store with ledger, loans }.DebtsAddUp := by
  rcases LoanBook.payDown_eq_ok hp with ⟨hz, hc⟩ | ⟨hnz, rfl⟩
  · rw [hid] at hc
    have hall : burned = loan.scaled := by omega
    subst hall
    exact h.close hloan hopen hdebts hc
  · have hold : store.loans.loan? next.id = some loan := hid ▸ hloan
    refine h.rewrite (h.book.setLoan hold (hopen'.trans hopen.symm) hitem) rfl ?_ ?_ ?_
    · intro asset
      have hdebts := hdebts asset
      rw [hold]
      simp only [SortedMap.part_some, Loan.openDebt, hopen, hopen', hasset, true_and]
      by_cases heq : loan.asset = asset
      · simp only [heq, if_true] at hdebts ⊢
        omega
      · simp only [heq, Ne.symm heq, if_false] at hdebts ⊢
        exact hdebts
    · intro _
      exact Nat.pos_of_ne_zero hnz
    · intro hclosed
      exact absurd (hopen'.symm.trans hclosed) (by decide)

/-! ## Requests -/

variable {O V N : Type} [PriceSource O] [Vault V] [Venue N]
variable {caller : Account} {item : Item} {amount now : Nat}

/-- The open loan that a request finds on a token. -/
lemma found (h : store.DebtsAddUp) {loan : Loan} (hloan : store.loans.openLoan? item = some loan) :
    store.loans.loan? loan.id = some loan ∧ loan.status.isOpen = true := by
  obtain ⟨hfiled, hopen, -⟩ := h.book.of_openLoan? hloan
  exact ⟨hfiled, hopen⟩

/-- An accrual keeps the debts adding up. -/
lemma accrue (h : store.DebtsAddUp) {ledger : Ledger} {asset : Asset} {accrual : Accrual}
    (ha : store.ledger.accrue asset now = .ok (accrual, ledger)) :
    { store with ledger }.DebtsAddUp :=
  h.frame rfl (Ledger.accrue_scaledDebtOf ha)

/-- A borrow adds the new loan's debt to the reserve. -/
lemma borrow (h : store.DebtsAddUp) {prices : O} {vault vault' : V} {asset : Asset}
    {debtor : Account}
    (s : BorrowSteps store prices vault caller asset amount item debtor now vault') :
    { store with ledger := s.lent, loans := s.loans }.DebtsAddUp := by
  have hbook := h.book.openNew s.opens
  obtain ⟨hid, -, hloans⟩ := LoanBook.openNew_eq_ok s.opens
  refine h.rewrite hbook (by rw [hloans]) ?_ ?_ ?_
  · intro other
    rw [hid, h.book.next_free, SortedMap.part_none, Nat.add_zero,
      Ledger.lend_scaledDebtOf s.lends other, Ledger.accrue_scaledDebtOf s.accrues other]
    simp [Loan.openDebt, LoanStatus.isOpen, eq_comm]
  · intro _
    -- the debt of a positive amount is rounded up
    obtain ⟨_, reserve, accrued, _, pulled, reserve', -, hne, -, -, -, hs, -⟩ :=
      Ledger.lend_eq_ok s.lends
    exact mulDiv_up_pos hs (Nat.mul_pos (Nat.pos_of_ne_zero hne) (by decide))
  · intro hclosed
    cases hclosed

/-- A repayment takes what it burns off the reserve and off the loan. -/
lemma repay (h : store.DebtsAddUp) (s : RepaySteps store item amount now) :
    { store with ledger := s.repaid, loans := s.loans }.DebtsAddUp := by
  obtain ⟨hloan, hopen⟩ := h.found s.isOpen
  obtain ⟨_, _, _, -, -, -, -, -, -, hle, hremaining, -⟩ := Ledger.repay_eq_ok s.repays
  have hp := s.paysDown
  rw [hremaining] at hp
  refine h.payDown s.loan hloan hopen hopen rfl rfl rfl hle ?_ hp
  intro other
  rw [Ledger.repay_scaledDebtOf s.repays other, Ledger.accrue_scaledDebtOf s.accrues other]

/-- A redeem takes what it burns off the reserve and off the loan. -/
lemma redeem (h : store.DebtsAddUp) {prices : O} {maxFine : Nat}
    (s : RedeemSteps store prices item amount maxFine now) :
    { store with ledger := s.repaid, loans := s.loans }.DebtsAddUp := by
  obtain ⟨hloan, hopen⟩ := h.found s.isOpen
  obtain ⟨_, _, _, -, -, -, -, -, -, hle, hremaining, -⟩ := Ledger.repay_eq_ok s.repays
  have hp := s.paysDown
  rw [hremaining] at hp
  refine h.payDown { s.loan with status := .active, bid := none } hloan hopen rfl rfl rfl rfl
    hle ?_ hp
  intro other
  rw [Ledger.repay_scaledDebtOf s.repays other, Ledger.accrue_scaledDebtOf s.accrues other]

/-- A bid changes no debt. -/
lemma bid (h : store.DebtsAddUp) {prices : O} {price : Nat} {bidder : Account}
    (s : BidSteps store prices caller item price bidder now) :
    { store with ledger := s.accrued, loans := store.loans.setLoan s.bidden }.DebtsAddUp := by
  obtain ⟨hloan, hopen⟩ := h.found s.isOpen
  have haccrued := h.accrue s.accrues
  exact haccrued.setLoan s.bidden hloan hopen rfl rfl rfl rfl

/-- A settlement takes the whole debt of the loan off the reserve, paid or written off. -/
lemma settle (h : store.DebtsAddUp) {loan : Loan} {proceeds : Nat}
    (hloan : store.loans.loan? loan.id = some loan) (hopen : loan.status.isOpen = true)
    (s : SettleSteps store loan proceeds now) :
    { store with ledger := s.settled, loans := s.loans }.DebtsAddUp := by
  refine h.close hloan hopen ?_ s.closes
  intro other
  -- what was paid and what remained make up the scaled debt of the loan
  have hpaid : s.repaid.scaledDebtOf other +
      (if other = loan.asset then loan.scaled - s.remaining else 0) =
        store.ledger.scaledDebtOf other ∧ s.remaining ≤ loan.scaled := by
    rcases s.repays with ⟨-, hremaining, hledger⟩ | ⟨repayment, -, hp, hremaining⟩
    · rw [hledger, hremaining]
      simp
    · obtain ⟨_, _, _, -, -, -, -, -, -, hle, hrest, -⟩ := Ledger.repay_eq_ok hp
      have hdebt := Ledger.repay_scaledDebtOf hp other
      rw [hremaining, hrest, Nat.sub_sub_self hle]
      exact ⟨hdebt, Nat.sub_le _ _⟩
  have hwritten : s.settled.scaledDebtOf other +
      (if other = loan.asset then s.remaining else 0) = s.repaid.scaledDebtOf other := by
    rcases s.writesOff with ⟨hz, -, hledger⟩ | ⟨-, hw⟩
    · rw [hledger, hz]
      simp
    · exact Ledger.writeOff_scaledDebtOf hw other
  obtain ⟨hpaid, hle⟩ := hpaid
  split at hpaid
  · next heq =>
    simp only [heq, if_true] at hwritten ⊢
    rw [heq] at hpaid
    omega
  · next hne =>
    simp only [hne, if_false] at hwritten ⊢
    omega

/-- Passing a debt changes no amount. -/
lemma passDebt (h : store.DebtsAddUp) {listing : Listing} {buyer : Account}
    (s : PassSteps store listing buyer) (board : ListingBoard) :
    { store with loans := s.passed, board }.DebtsAddUp := by
  obtain ⟨hloan, hopen⟩ := h.found s.isOpen
  have hset := h.setLoan { s.loan with debtor := buyer } hloan hopen hopen rfl rfl rfl
  exact ⟨hset.book, hset.total, hset.owing, hset.settled⟩

/-- Settling an open loan after an accrual keeps the debts adding up. -/
lemma settled_accrued (h : store.DebtsAddUp) {loan : Loan} {accrual : Accrual} {accrued : Ledger}
    {proceeds : Nat} {winner : Option Account} {settlement : Settlement} {store' : Store}
    {transfers : List Transfer} (hopen : store.loans.openLoan? item = some loan)
    (ha : store.ledger.accrue loan.asset now = .ok (accrual, accrued))
    (hs : { store with ledger := accrued }.settle loan proceeds winner now =
      .ok (settlement, store', transfers)) : store'.DebtsAddUp := by
  obtain ⟨hloan, hopen⟩ := h.found hopen
  obtain ⟨s, -, rfl, -⟩ := Store.settle_eq_ok hs
  exact (h.accrue ha).settle hloan hopen s

/-- Passing the debt of a listing keeps the debts adding up. -/
lemma passed (h : store.DebtsAddUp) {listing : Listing} {buyer : Account} {asset : Asset}
    {transfers : List Transfer} {store' : Store}
    (hp : store.passDebt listing buyer = .ok (asset, transfers, store')) : store'.DebtsAddUp := by
  obtain ⟨s, -, -, rfl⟩ := Store.passDebt_eq_ok hp
  exact h.passDebt s _

/-- Every user action keeps the debts adding up. -/
lemma user (h : store.DebtsAddUp) {action : UserAction} {prices : O} {vault : V} {venue : N}
    {facility : Facility V N} {transfers : List Transfer}
    (hs : action.Serves prices store vault venue caller now facility transfers) :
    facility.store.DebtsAddUp := by
  cases hs with
  | deposit hd => exact h.frame rfl (Ledger.deposit_scaledDebtOf hd)
  | withdraw hw => exact h.frame rfl (Ledger.withdraw_scaledDebtOf hw)
  | borrow s => exact h.borrow s
  | repay s => exact h.repay s
  | setMandate => exact ⟨h.book.setMandate _ _ _, h.total, h.owing, h.settled⟩
  | bid s => exact h.bid s
  | redeem s => exact h.redeem s
  | liquidate s => exact h.settled_accrued s.isOpen s.accrues s.settles
  | sell s => exact h.settled_accrued s.isOpen s.accrues s.settles
  | buyDebt s => exact h.passed s.passes
  | claimDebt s => exact h.passed s.passes
  | list | bidDebt | cancelListing => exact h.frame rfl fun _ => rfl

/-- Every step keeps the debts adding up. -/
lemma step (h : store.DebtsAddUp) {store' : Store} (hs : Step store store') :
    store'.DebtsAddUp := by
  cases hs with
  | user hrun => exact h.user (UserAction.run_serves hrun)
  | operator hrun =>
    obtain ⟨-, hloans, -, -, hledger⟩ := OperatorAction.run_eq_ok hrun
    exact h.frame hloans hledger.scaledDebtOf
  | accrual ha =>
    obtain ⟨accrual, ledger, hledger, rfl⟩ := Store.accrue_eq_ok ha
    exact h.accrue hledger

end DebtsAddUp

/-- The debts add up in every reachable store. -/
theorem Reachable.debtsAddUp {store : Store} (h : store.Reachable) : store.DebtsAddUp := by
  refine h.invariant ?_ fun _ _ _ hi hs => hi.step hs
  intro settings store hc
  obtain rfl := create_eq_ok hc
  exact {
    book := LoanBook.consistent_empty
    total := fun _ => rfl
    owing := fun _ _ hloan => nomatch hloan
    settled := fun _ _ hloan => nomatch hloan }

end Store

end PooledCredit
