import PooledCredit.Proofs.Collateral.Terms
import PooledCredit.Proofs.Loans.Losses
import PooledCredit.Proofs.Reserves.Soundness

/-!
# Exits stay open

Whatever operators switch, freeze or configure, and whoever the debt was sold to, an active loan
can be repaid in full, and a loan whose bid window is over can be liquidated. Both fail only with
an overflow, or because the clock is behind the last update of the reserve. What else could stand
in the way is ruled out in turn: the reserve is there and active as long as it is owed anything,
the collection of an open loan keeps its terms, a loan under auction has its bid, and an open loan
owes a positive debt that its reserve is owed as well.
-/

namespace PooledCredit

/-! ## What can fail

`p` is any set of failures that contains the overflow. -/

section Failures

variable {p : Failure → Prop} (ho : p (.refused .overflow))

/-- Closing an open loan does not fail. -/
lemma LoanBook.failsOnly_close {book : LoanBook} {id : LoanId} {loan : Loan}
    {status : LoanStatus} {now : Nat} (hloan : book.loan? id = some loan)
    (hopen : loan.status.isOpen = true) (hfinal : status.isOpen = false) :
    FailsOnly p (book.close id status now) := by
  refine FailsOnly.bind_of_ok (orRefuse_eq_ok.mpr hloan) ?_
  exact FailsOnly.bind_of_holds ⟨hopen, hfinal⟩ (failsOnly_pure _)

/-- A positive scaled debt amounts to something at an index of at least one ray. -/
lemma Reserve.Sound.debtOf_pos {reserve : Reserve} (h : reserve.Sound) {scaled debt : Nat}
    (hscaled : 0 < scaled) (hd : reserve.debtOf scaled = .ok debt) : 0 < debt := by
  have hindex : 0 < reserve.debtIndex := Nat.lt_of_lt_of_le (by decide) h.debtIndex
  have howed : mulDiv .up scaled reserve.debtIndex ray = .ok debt := hd
  exact mulDiv_up_pos howed (Nat.mul_pos hscaled hindex)

/-- A reserve that is owed something is there. -/
lemma Ledger.reserve_of_scaledDebtOf {ledger : Ledger} {asset : Asset}
    (h : 0 < ledger.scaledDebtOf asset) :
    ∃ reserve, ledger.reserves.get? asset = some reserve := by
  cases hr : ledger.reserves.get? asset with
  | none =>
    rw [Ledger.scaledDebtOf, hr] at h
    exact absurd h (Nat.lt_irrefl 0)
  | some reserve => exact ⟨reserve, rfl⟩

namespace Store

variable {store : Store} {loan : Loan} {reserve : Reserve} {now : Nat}

/-- What is paid of a positive debt is positive. -/
lemma paymentFor_ne_zero {settings : Settings} {debt offered : Nat} (hdebt : 0 < debt)
    (hoffered : offered ≠ 0) : paymentFor settings debt offered ≠ 0 := by
  unfold paymentFor
  split <;> omega

/-- Offering the largest amount pays the whole debt. -/
lemma paymentFor_max {settings : Settings} {scaled debt : Nat}
    (hd : reserve.debtOf scaled = .ok debt) : paymentFor settings debt maxAmount = debt := by
  have howed : mulDiv .up scaled reserve.debtIndex ray = .ok debt := hd
  obtain ⟨-, hlt, heq⟩ := mulDiv_eq_ok.mp howed
  rw [heq] at hlt
  have hmin : min maxAmount debt = debt := Nat.min_eq_right (Nat.le_sub_one_of_lt hlt)
  rw [paymentFor, hmin, Nat.sub_self, if_pos (Nat.zero_le _)]

/-- Telling the rates of a reserve that is there does not fail. -/
lemma failsOnly_reserveUpdate {asset : Asset}
    (hr : ∃ reserve, store.ledger.reserves.get? asset = some reserve) :
    FailsOnly p (store.reserveUpdate asset now) := by
  obtain ⟨reserve, hr⟩ := hr
  exact FailsOnly.bind_of_ok (orRefuse_eq_ok.mpr hr) (failsOnly_pure _)

/-- The reserve of an open loan is there and is owed the loan. -/
lemma DebtsAddUp.reserve_owed (h : store.DebtsAddUp)
    (hfiled : store.loans.loan? loan.id = some loan) (hopen : loan.status.isOpen = true) :
    ∃ reserve, store.ledger.reserves.get? loan.asset = some reserve ∧
      loan.scaled ≤ reserve.scaledDebt := by
  have hle := h.scaled_le hfiled hopen
  have hpositive := Nat.lt_of_lt_of_le (h.owing loan.id loan hfiled hopen) hle
  obtain ⟨reserve, hr⟩ := Ledger.reserve_of_scaledDebtOf hpositive
  rw [Ledger.scaledDebtOf_eq hr] at hle
  exact ⟨reserve, hr, hle⟩

include ho

/-- Settling an open loan that its sound reserve is owed fails only with an overflow. -/
lemma failsOnly_settle (hd : store.DebtsAddUp) (hsound : store.ledger.Sound)
    (hfiled : store.loans.loan? loan.id = some loan) (hopen : loan.status.isOpen = true)
    (proceeds : Nat) (winner : Option Account) :
    FailsOnly p (store.settle loan proceeds winner now) := by
  obtain ⟨reserve, hr, hle⟩ := hd.reserve_owed hfiled hopen
  refine FailsOnly.bind_of_ok (orRefuse_eq_ok.mpr hr) ?_
  refine (Reserve.failsOnly_debtOf ho _ _).bind fun debt hdebt => ?_
  simp only [bind_pure_bind, ite_bind]
  refine FailsOnly.bind ?_ fun ⟨remaining, repaid⟩ hpay => ?_
  · refine failsOnly_ite (fun _ => failsOnly_pure _) fun hne => ?_
    exact (hsound.failsOnly_repay ho hr hle hne).map
  have hpay := paid_eq_ok hpay
  have hrest : remaining ≤ repaid.scaledDebtOf loan.asset :=
    remaining_le (hd.scaled_le hfiled hopen) hpay
  have hrepaid : repaid.Sound := by
    rcases hpay with ⟨-, -, rfl⟩ | ⟨_, -, hp, -⟩
    · exact hsound
    · exact hsound.repay hp
  refine FailsOnly.bind ?_ fun ⟨loss, settled⟩ _ => ?_
  · refine failsOnly_ite (fun _ => failsOnly_pure _) fun hne => ?_
    -- what remains is owed to a reserve, so the reserve is still there
    obtain ⟨left, hleft⟩ := Ledger.reserve_of_scaledDebtOf
      (Nat.lt_of_lt_of_le (Nat.pos_of_ne_zero hne) hrest)
    rw [Ledger.scaledDebtOf_eq hleft] at hrest
    exact hrepaid.failsOnly_writeOff ho hleft hrest
  have hsurplus : bareSub proceeds (min proceeds debt) = .ok (proceeds - min proceeds debt) :=
    if_pos (Nat.min_le_left _ _)
  refine FailsOnly.bind_of_ok hsurplus ?_
  refine FailsOnly.bind (LoanBook.failsOnly_close hfiled hopen ?_) fun _ _ => failsOnly_pure _
  split <;> rfl

variable (hd : store.DebtsAddUp) (hsound : store.ledger.Sound)
variable (hfiled : store.loans.loan? loan.id = some loan)
variable (hr : store.ledger.reserves.get? loan.asset = some reserve)
variable (hpast : now < reserve.updatedAt → p (.refused (.timeBackwards reserve.updatedAt now)))
include hd hsound hfiled hr hpast

/-- Offering something for an active loan fails only with an overflow, or because the time is
past. -/
lemma failsOnly_repay (hactive : loan.status = .active) {amount : Nat} (hamount : amount ≠ 0)
    (caller : Account) : FailsOnly p (store.repay caller loan.item amount now) := by
  have hopen : loan.status.isOpen = true := by rw [hactive]; rfl
  have howing := hd.owing loan.id loan hfiled hopen
  have huse : reserve.active = true := by
    have hle := hd.scaled_le hfiled hopen
    rw [Ledger.scaledDebtOf_eq hr] at hle
    exact (hsound loan.asset reserve hr).inUse (by omega)
  refine FailsOnly.bind_of_holds hamount ?_
  refine FailsOnly.bind_of_ok (orRefuse_eq_ok.mpr (hd.book.openLoan?_of_isOpen hfiled hopen)) ?_
  refine FailsOnly.bind_of_holds hactive ?_
  refine FailsOnly.bind_of_ok (orRefuse_eq_ok.mpr hr) ?_
  refine FailsOnly.bind_of_holds huse ?_
  refine (hsound.failsOnly_accrue ho hr hpast).bind fun ⟨_, accrued⟩ ha => ?_
  have hd' := hd.accrue ha
  obtain ⟨reserve', hr', hle⟩ := hd'.reserve_owed hfiled hopen
  have hsound' := hsound.accrue ha
  refine FailsOnly.bind_of_ok (orRefuse_eq_ok.mpr hr') ?_
  refine (Reserve.failsOnly_debtOf ho _ _).bind fun debt hdebt => ?_
  have hdebt := (hsound' loan.asset reserve' hr').debtOf_pos howing hdebt
  have hpays : paymentFor store.settings debt amount ≠ 0 := paymentFor_ne_zero hdebt hamount
  refine (hsound'.failsOnly_repay ho hr' hle hpays).bind fun ⟨repayment, repaid⟩ hp => ?_
  refine FailsOnly.bind ?_ fun _ _ => ?_
  · refine failsOnly_ite (fun _ => ?_) fun _ => failsOnly_ok _
    exact LoanBook.failsOnly_close hfiled hopen rfl
  refine FailsOnly.bind (failsOnly_reserveUpdate ?_) fun _ _ => failsOnly_pure _
  obtain ⟨left, hleft, -⟩ := (Ledger.repay_ages hp).kept loan.asset reserve' hr'
  exact ⟨left, hleft⟩

/-- Liquidating a loan whose bid window is over fails only with an overflow, or because the time
is past. -/
lemma failsOnly_liquidate (hauction : loan.status = .auction) {bid : Bid}
    (hbid : loan.bid = some bid) {config : CollateralConfig}
    (hconfig : store.collateral.config loan.item = .ok config)
    (hfits : bid.startedAt + config.terms.bidWindow < clockBound)
    (hover : bid.startedAt + config.terms.bidWindow < now) {minPrice : Nat}
    (hprice : minPrice ≤ bid.price) (caller : Account) :
    FailsOnly p (store.liquidate caller loan.item minPrice now) := by
  have hopen : loan.status.isOpen = true := by rw [hauction]; rfl
  have hover : requireOver (bid.startedAt + config.terms.bidWindow) now = .ok () :=
    requireOver_eq_ok.mpr hover
  refine FailsOnly.bind_of_ok (orRefuse_eq_ok.mpr (hd.book.openLoan?_of_isOpen hfiled hopen)) ?_
  refine FailsOnly.bind_of_holds hauction ?_
  refine FailsOnly.bind_of_ok (orRefuse_eq_ok.mpr hbid) ?_
  refine FailsOnly.bind_of_ok hconfig ?_
  refine FailsOnly.bind_of_ok (fitClock_eq_ok.mpr ⟨hfits, rfl⟩) ?_
  refine FailsOnly.bind_of_ok hover ?_
  refine FailsOnly.bind_of_holds hprice ?_
  refine FailsOnly.bind ?_ fun store' haccrue => ?_
  · exact (hsound.failsOnly_accrue ho hr hpast).bind fun _ _ => failsOnly_pure _
  obtain ⟨_, accrued, ha, rfl⟩ := accrue_eq_ok haccrue
  have hd' := hd.accrue ha
  obtain ⟨reserve', hr', -⟩ := hd'.reserve_owed hfiled hopen
  have hsettles : FailsOnly p ({ store with ledger := accrued }.settle loan bid.price
      (some bid.bidder) now) :=
    failsOnly_settle ho hd' (hsound.accrue ha) hfiled hopen bid.price (some bid.bidder)
  refine hsettles.bind fun ⟨_, settled, _⟩ hs => ?_
  refine FailsOnly.bind (failsOnly_reserveUpdate ?_) fun _ _ => failsOnly_pure _
  obtain ⟨left, hleft, -⟩ := (settle_ages hs).kept loan.asset reserve' hr'
  exact ⟨left, hleft⟩

end Store

end Failures

/-! ## What leaving does -/

namespace Store

variable {store : Store} {loan : Loan} {caller : Account} {item : Item} {now : Nat}

/-- A loan is in the book as it was closed. -/
lemma loan?_close {loans : LoanBook} {status : LoanStatus}
    (hfiled : store.loans.loan? loan.id = some loan)
    (hc : store.loans.close loan.id status now = .ok loans) :
    loans.loan? loan.id = some (loan.closed status now) := by
  obtain ⟨found, hfound, -, -, hloans⟩ := LoanBook.close_eq_ok hc
  obtain rfl := Option.some.inj (hfound.symm.trans hfiled)
  rw [LoanBook.loan?_insert (congrArg LoanBook.loans hloans), if_pos rfl]
  rfl

/-- A repayment of the largest amount pays the whole debt and leaves nothing of it. -/
lemma RepaySteps.pays_all (s : RepaySteps store item maxAmount now) :
    s.repayment.paid = s.debt ∧ s.repayment.remaining = 0 := by
  have hpays := s.repays
  rw [paymentFor_max s.owes] at hpays
  rcases Ledger.repay_remaining s.found s.owes hpays with hall | ⟨hshort, -⟩
  · exact hall
  · obtain ⟨reserve, debt, _, htouch, -, howed, hpaid, -⟩ := Ledger.repay_eq_ok hpays
    obtain rfl := Option.some.inj (s.found.symm.trans htouch.old)
    obtain rfl := Except.ok.inj (s.owes.symm.trans howed)
    rw [hpaid, Nat.min_self] at hshort
    exact absurd hshort (Nat.lt_irrefl _)

/-- A repayment of the largest amount closes the loan as repaid. -/
lemma repay_max_closes (hb : store.loans.Consistent)
    (hfound : store.loans.openLoan? item = some loan) {outcome : Outcome RepayReply}
    (h : store.repay caller item maxAmount now = .ok outcome) :
    outcome.reply.closed = true ∧
      outcome.store.loans.loan? loan.id = some (loan.closed .repaid now) := by
  obtain ⟨s, rfl⟩ := repay_eq_ok h
  obtain rfl := Option.some.inj (s.isOpen.symm.trans hfound)
  obtain ⟨hfiled, -, -⟩ := hb.of_openLoan? hfound
  obtain ⟨-, hnothing⟩ := s.pays_all
  refine ⟨beq_iff_eq.mpr hnothing, ?_⟩
  rcases LoanBook.payDown_eq_ok s.paysDown with ⟨-, hclose⟩ | ⟨hne, -⟩
  · exact loan?_close hfiled hclose
  · exact absurd hnothing hne

/-- A liquidation closes the loan as repaid or as defaulted. -/
lemma liquidate_closes (hb : store.loans.Consistent)
    (hfound : store.loans.openLoan? item = some loan) {minPrice : Nat}
    {outcome : Outcome Settlement}
    (h : store.liquidate caller item minPrice now = .ok outcome) :
    outcome.reply.status.isOpen = false ∧
      outcome.store.loans.loan? loan.id = some (loan.closed outcome.reply.status now) := by
  obtain ⟨s, rfl⟩ := liquidate_eq_ok h
  obtain rfl := Option.some.inj (s.isOpen.symm.trans hfound)
  obtain ⟨hfiled, -, -⟩ := hb.of_openLoan? hfound
  obtain ⟨t, hsettlement, hstore, -⟩ := settle_eq_ok s.settles
  rw [hsettlement, hstore]
  refine ⟨?_, loan?_close hfiled t.closes⟩
  show LoanStatus.isOpen (if t.loss = 0 then .repaid else .defaulted) = false
  split <;> rfl

end Store

/-- How a request to leave may fail at a moment, in a reserve whose clock stands at `last`: with an
overflow, or because the moment is past. -/
def Failure.Excused (last now : Nat) (failure : Failure) : Prop :=
  failure = .refused .overflow ∨
    now < last ∧ failure = .refused (.timeBackwards last now)

/-- In every reachable pool, whoever calls and at whatever time, offering the largest amount for an
active loan closes it as repaid, and liquidating a loan whose bid window is over closes it as
repaid or defaulted; each of them fails only with an overflow, or because the clock of the reserve
is ahead. -/
theorem Pool.Reachable.exits_stay_open {O V N : Type} [PriceSource O] [Vault V] [Venue N]
    {rule : Pool O V N → Move O V N → Prop} {pool : Pool O V N} (h : pool.Reachable rule) :
    (∀ id loan, pool.state.store.loans.loan? id = some loan → loan.status = .active →
      ∃ reserve, pool.state.store.ledger.reserves.get? loan.asset = some reserve ∧
        ∀ caller now,
          (∃ outcome, pool.state.store.repay caller loan.item maxAmount now = .ok outcome ∧
            outcome.reply.closed = true ∧
            outcome.store.loans.loan? id = some (loan.closed .repaid now)) ∨
          ∃ failure, pool.state.store.repay caller loan.item maxAmount now = .error failure ∧
            failure.Excused reserve.updatedAt now) ∧
    ∀ id loan, pool.state.store.loans.loan? id = some loan → loan.status = .auction →
      ∃ bid config reserve, loan.bid = some bid ∧
        pool.state.store.collateral.config loan.item = .ok config ∧
        pool.state.store.ledger.reserves.get? loan.asset = some reserve ∧
        ∀ caller now, bid.startedAt + config.terms.bidWindow < clockBound →
          bid.startedAt + config.terms.bidWindow < now →
          (∃ outcome, pool.state.store.liquidate caller loan.item 0 now = .ok outcome ∧
            outcome.reply.status.isOpen = false ∧
            outcome.store.loans.loan? id = some (loan.closed outcome.reply.status now)) ∨
          ∃ failure, pool.state.store.liquidate caller loan.item 0 now = .error failure ∧
            failure.Excused reserve.updatedAt now := by
  have hd := h.store.debtsAddUp
  have hsound := h.store.sound
  constructor
  · intro id loan hloan hactive
    obtain rfl := hd.book.key id loan hloan
    have hopen : loan.status.isOpen = true := by rw [hactive]; rfl
    have hfound := hd.book.openLoan?_of_isOpen hloan hopen
    obtain ⟨reserve, hr, -⟩ := hd.reserve_owed hloan hopen
    refine ⟨reserve, hr, fun caller now => ?_⟩
    cases hresult : pool.state.store.repay caller loan.item maxAmount now with
    | ok outcome => exact .inl ⟨outcome, rfl, Store.repay_max_closes hd.book hfound hresult⟩
    | error failure =>
      refine .inr ⟨failure, rfl, ?_⟩
      exact Store.failsOnly_repay (.inl rfl) hd hsound hloan hr (fun hlt => .inr ⟨hlt, rfl⟩) hactive
        (by decide) caller failure hresult
  · intro id loan hloan hauction
    obtain rfl := hd.book.key id loan hloan
    have hopen : loan.status.isOpen = true := by rw [hauction]; rfl
    have hfound := hd.book.openLoan?_of_isOpen hloan hopen
    obtain ⟨reserve, hr, -⟩ := hd.reserve_owed hloan hopen
    obtain ⟨config, hconfig⟩ := h.store.termsStand loan.id loan hloan hopen
    obtain ⟨bid, hbid⟩ := Option.isSome_iff_exists.mp
      ((h.store.inStep.bids loan.id loan hloan).mpr hauction)
    refine ⟨bid, config, reserve, hbid, hconfig, hr, fun caller now hfits hover => ?_⟩
    cases hresult : pool.state.store.liquidate caller loan.item 0 now with
    | ok outcome => exact .inl ⟨outcome, rfl, Store.liquidate_closes hd.book hfound hresult⟩
    | error failure =>
      refine .inr ⟨failure, rfl, ?_⟩
      exact Store.failsOnly_liquidate (.inl rfl) hd hsound hloan hr (fun hlt => .inr ⟨hlt, rfl⟩)
        hauction hbid hconfig hfits hover (Nat.zero_le _) caller failure hresult

namespace SmallMarket

/-- The founder freezes the reserve and the collection and stops all lending. -/
def freezing : List (Move PriceFeeds NoVault FlatVenue) :=
  [.call ⟨founder, 0, .operator (.setReserveFlags coin true true false)⟩,
    .call ⟨founder, 0, .operator (.setCollateralFrozen art true)⟩]

/-- When everything is frozen, the active loan can still be repaid by anyone, and once it is under
auction it can be liquidated after its bid window. -/
theorem freezing_leaves_exits :
    (∃ outcome, (lent.follow freezing).state.store.repay founder ⟨art, 1⟩ maxAmount 7201 =
        .ok outcome ∧
      (outcome.store.loans.loan? 1).map Loan.status = some .repaid) ∧
    ∃ outcome, (lent.follow (auctioning ++ freezing)).state.store.liquidate founder ⟨art, 1⟩ 0
        7201 = .ok outcome ∧
      outcome.reply.status.isOpen = false := by
  constructor
  · have hloan : ((lent.follow freezing).state.store.loans.loan? 1).map
        (fun loan => (loan.status, loan.item)) = some (.active, ⟨art, 1⟩) := by decide +kernel
    have hok : ((lent.follow freezing).state.store.repay founder ⟨art, 1⟩ maxAmount 7201).isOk =
        true := by decide +kernel
    obtain ⟨loan, hloan, heq⟩ := Option.map_eq_some_iff.mp hloan
    obtain ⟨hactive, hitem⟩ := Prod.mk.inj heq
    obtain ⟨_, -, hexit⟩ :=
      (Pool.Reachable.exits_stay_open (lent_follow_reachable freezing)).1 1 loan hloan hactive
    rw [hitem] at hexit
    rcases hexit founder 7201 with ⟨outcome, houtcome, -, hclosed⟩ | ⟨failure, hfailure, -⟩
    · exact ⟨outcome, houtcome, by rw [hclosed]; rfl⟩
    · rw [hfailure] at hok
      cases hok
  · have hloan : ((lent.follow (auctioning ++ freezing)).state.store.loans.loan? 1).map
        (fun loan => (loan.status, loan.item, loan.bid.map Bid.startedAt)) =
          some (.auction, ⟨art, 1⟩, some 0) := by decide +kernel
    have hwindow : ((lent.follow (auctioning ++ freezing)).state.store.collateral.config
        ⟨art, 1⟩).map (fun config => config.terms.bidWindow) = .ok 7200 := by decide +kernel
    have hok : ((lent.follow (auctioning ++ freezing)).state.store.liquidate founder ⟨art, 1⟩ 0
        7201).isOk = true := by decide +kernel
    obtain ⟨loan, hloan, heq⟩ := Option.map_eq_some_iff.mp hloan
    obtain ⟨hauction, heq⟩ := Prod.mk.inj heq
    obtain ⟨hitem, hstart⟩ := Prod.mk.inj heq
    obtain ⟨bid, config, _, hbid, hconfig, -, hexit⟩ :=
      (Pool.Reachable.exits_stay_open (lent_follow_reachable (auctioning ++ freezing))).2 1 loan
        hloan hauction
    rw [hbid] at hstart
    rw [hitem] at hconfig hexit
    rw [hconfig] at hwindow
    have hstart : bid.startedAt = 0 := Option.some.inj hstart
    have hwindow : config.terms.bidWindow = 7200 := Except.ok.inj hwindow
    have hdeadline : bid.startedAt + config.terms.bidWindow = 7200 := by rw [hstart, hwindow]
    rcases hexit founder 7201 (by rw [hdeadline]; decide) (by rw [hdeadline]; decide) with
      ⟨outcome, houtcome, hclosed, -⟩ | ⟨failure, hfailure, -⟩
    · exact ⟨outcome, houtcome, hclosed⟩
    · rw [hfailure] at hok
      cases hok

end SmallMarket

end PooledCredit
