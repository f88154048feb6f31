import PooledCredit.Proofs.Loans.Counts
import PooledCredit.Proofs.Reserves.Growth

/-!
# What a failed loan can cost the pool

A bid must cover the debt of the moment at which it is placed, and it is the whole of that bid that
settles the loan when the auction is over. What is written off is therefore no more than the
interest since the bid, and the rounding of one scaled unit: a payment burns scaled debt rounded
down, which leaves less than one scaled unit too much.
-/

namespace PooledCredit

/-! ## Settlements -/

namespace Store

variable {store : Store} {loan : Loan} {proceeds now : Nat}

/-- What a settlement writes off is what the proceeds leave of the debt. -/
lemma SettleSteps.leaves (s : SettleSteps store loan proceeds now) :
    s.reserve.Leaves s.debt (min proceeds s.debt) s.remaining s.loss := by
  obtain ⟨left, hleaves, reserve, hreserve, hindex⟩ :
      ∃ left, s.reserve.Leaves s.debt (min proceeds s.debt) s.remaining left ∧
        ∃ reserve, s.repaid.reserves.get? loan.asset = some reserve ∧
          reserve.debtIndex = s.reserve.debtIndex := by
    rcases s.repays with ⟨hnothing, hall, hledger⟩ | ⟨repayment, -, hp, hremaining⟩
    · rw [hnothing, hall, hledger]
      exact ⟨s.debt, Reserve.leaves_unpaid s.owes, s.reserve, s.found, rfl⟩
    · obtain ⟨hpaid, ⟨left, hleaves⟩, _, _, _, _, hreserve⟩ :=
        Ledger.repay_leaves s.found s.owes hp
      rw [Nat.min_eq_left (Nat.min_le_right _ _)] at hpaid
      rw [hremaining, ← hpaid]
      exact ⟨left, hleaves, _, hreserve, rfl⟩
  suffices hloss : s.loss = left from hloss ▸ hleaves
  rcases s.writesOff with ⟨hnone, hzero, -⟩ | ⟨-, hw⟩
  · have hleft := hleaves.amounts
    rw [hnone, Reserve.debtOf_zero] at hleft
    exact hzero.trans (Except.ok.inj hleft)
  · obtain ⟨found, _, htouch, hlost, -, -⟩ := Ledger.writeOff_eq_ok hw
    obtain rfl := Option.some.inj (htouch.old.symm.trans hreserve)
    rw [Reserve.debtOf, hindex] at hlost
    exact Except.ok.inj (hlost.symm.trans hleaves.amounts)

end Store

/-! ## Bids -/

/-- Every loan under auction carries a bid that covers the debt at the time of the bid, and this is
what the loan amounts to at a debt index that the reserve has reached. -/
def Store.BidsCover (store : Store) : Prop :=
  ∀ id loan, store.loans.loan? id = some loan → loan.status = .auction →
    ∃ bid reserve index, loan.bid = some bid ∧ bid.debt ≤ bid.price ∧
      store.ledger.reserves.get? loan.asset = some reserve ∧ index ≤ reserve.debtIndex ∧
      rayMul .up loan.scaled index = .ok bid.debt

variable {O V N : Type} [PriceSource O] [Vault V] [Venue N]
variable {prices : O} {store : Store} {vault : V} {venue : N} {facility : Facility V N}
variable {caller : Account} {now : Nat} {action : UserAction} {transfers : List Transfer}

/-- A step into auction is a bid of the caller that covers the debt of now. -/
lemma Loan.Advances.of_auction {loan loan' : Loan}
    (h : loan.Advances prices store caller now action transfers loan')
    (hauction : loan'.status = .auction) :
    ∃ bid, loan'.bid = some bid ∧ bid.payer = caller ∧
      action = .bid loan.item bid.price bid.bidder ∧ bid.debt ≤ bid.price ∧
      store.owedAt loan now = .ok bid.debt ∧ loan'.scaled = loan.scaled := by
  cases h with
  | auctioned _ _ _ owes covers | outbid _ _ _ _ _ owes covers =>
    exact ⟨_, rfl, rfl, rfl, covers, owes, rfl⟩
  | paidDown active | bought active | claimed active =>
    exact absurd (active.symm.trans hauction) nofun
  | repaid | reclaimed | redeemed => cases hauction
  | liquidated _ _ _ _ _ final | sold _ _ _ _ final | soldOver _ _ _ _ _ final =>
    rcases final with rfl | rfl <;> cases hauction

/-- After a bid the reserve stands at the debt index of that moment. -/
lemma UserAction.Serves.bid_index (hb : store.loans.Consistent) {loan : Loan} {price : Nat}
    {bidder : Account}
    (h : (UserAction.bid loan.item price bidder).Serves prices store vault venue caller now
      facility transfers)
    (hfiled : store.loans.loan? loan.id = some loan) (hopen : loan.status.isOpen = true) :
    ∃ reserve, facility.store.ledger.reserves.get? loan.asset = some reserve ∧
      store.debtIndexAt loan.asset now = .ok reserve.debtIndex := by
  cases h with
  | bid s =>
    obtain ⟨hfiled', hopen', hitem⟩ := hb.of_openLoan? s.isOpen
    have hid := hb.unique hfiled' hopen' hfiled hopen hitem
    rw [hid] at hfiled'
    have hasset := congrArg Loan.asset (Option.some.inj (hfiled.symm.trans hfiled'))
    rw [hasset]
    exact ⟨s.reserve, s.found, Store.debtIndexAt_of_accrued s.accrues s.found⟩

namespace Store.BidsCover

/-- A change that keeps the loans and lowers no index keeps the bids covering. -/
lemma frame (h : store.BidsCover) {store' : Store} (hloans : store'.loans = store.loans)
    (hrises : store.ledger.Rises store'.ledger) : store'.BidsCover := by
  intro id loan hloan hauction
  rw [hloans] at hloan
  obtain ⟨bid, reserve, index, hbid, hcovers, hreserve, hle, hdebt⟩ := h id loan hloan hauction
  obtain ⟨after, hafter, hle'⟩ := hrises _ _ hreserve
  exact ⟨bid, after, index, hbid, hcovers, hafter, hle.trans hle', hdebt⟩

/-- Every user's action keeps the bids covering. -/
lemma user (h : store.BidsCover) (hb : store.loans.Consistent)
    (hs : action.Serves prices store vault venue caller now facility transfers) :
    facility.store.BidsCover := by
  intro id loan hloan hauction
  have halters := (hs.records hb).alters hb id
  rw [hloan] at halters
  generalize hold : store.loans.loan? id = old at halters
  cases halters with
  | kept =>
    obtain ⟨bid, reserve, index, hbid, hcovers, hreserve, hle, hdebt⟩ := h id loan hold hauction
    obtain ⟨after, hafter, hle'⟩ := hs.rises _ _ hreserve
    exact ⟨bid, after, index, hbid, hcovers, hafter, hle.trans hle', hdebt⟩
  | opened => cases hauction
  | @advanced _ _ before _ advances =>
    obtain ⟨bid, hbid, -, rfl, hcovers, howed, hscaled⟩ := advances.of_auction hauction
    rw [← hb.key id before hold] at hold
    obtain ⟨reserve, hreserve, hindex⟩ := hs.bid_index hb hold advances.isOpen
    obtain ⟨index, hi, hdebt⟩ := Store.owedAt_eq_ok.mp howed
    obtain rfl := Except.ok.inj (hindex.symm.trans hi)
    rw [← advances.sameDeal.asset] at hreserve
    rw [← hscaled] at hdebt
    exact ⟨bid, reserve, reserve.debtIndex, hbid, hcovers, hreserve, Nat.le_refl _, hdebt⟩

end Store.BidsCover

/-- In every reachable store the bids cover the debts at the times of the bids. -/
theorem Store.Reachable.bidsCover (h : store.Reachable) : store.BidsCover := by
  refine h.invariant ?_ fun before after hr hi hs => ?_
  · intro settings store hc
    obtain rfl := create_eq_ok hc
    exact fun _ _ hloan => nomatch hloan
  · cases hs with
    | user hrun => exact hi.user hr.debtsAddUp.book (UserAction.run_serves hrun)
    | operator hrun =>
      obtain ⟨-, hloans, -, -, hledger⟩ := OperatorAction.run_eq_ok hrun
      exact hi.frame hloans hledger.ages.rises
    | accrual ha =>
      obtain ⟨_, _, hledger, rfl⟩ := Store.accrue_eq_ok ha
      exact hi.frame rfl (Ledger.accrue_rises hledger)

/-! ## Pools -/

namespace Pool

variable {rule : Pool O V N → Move O V N → Prop} {pool : Pool O V N} {id : LoanId}

/-- A bid on the loan under a number was placed by a committed call of its payer, at a moment when
the loan owed what the bid records, and has stood since. -/
def BidStands (rule : Pool O V N → Move O V N → Prop) (pool : Pool O V N) (id : LoanId)
    (bid : Bid) : Prop :=
  ∃ (earlier : Pool O V N) (call : Call) (commit : Commit V N) (loan : Loan)
      (moves : List (Move O V N)), earlier.Reachable rule ∧
    earlier.state.store.loans.loan? id = some loan ∧ call.caller = bid.payer ∧
    call.action = .user (.bid loan.item bid.price bid.bidder) ∧
    earlier.attempt call = .ok commit ∧
    earlier.state.store.owedAt loan call.now = .ok bid.debt ∧
    pool = (earlier.after (.call call)).follow moves ∧
    (earlier.after (.call call)).Along
      (fun between => (between.state.store.loans.loan? id).bind Loan.bid = some bid) moves

/-- A bid that is still there after one more move has stood until then. -/
lemma BidStands.after {bid : Bid} (h : pool.BidStands rule id bid) {move : Move O V N}
    (hbid : ((pool.after move).state.store.loans.loan? id).bind Loan.bid = some bid) :
    (pool.after move).BidStands rule id bid := by
  obtain ⟨earlier, call, commit, loan, moves, hr, hloan, hcaller, haction, hcommit, howed, rfl,
    hstands⟩ := h
  exact ⟨earlier, call, commit, loan, moves ++ [move], hr, hloan, hcaller, haction, hcommit, howed,
    (follow_concat _ moves move).symm, hstands.concat hbid⟩

/-- The bid on a loan under auction was placed at the debt of its time and has stood since. -/
theorem Reachable.bid_stands (h : pool.Reachable rule) {loan : Loan}
    (hloan : pool.state.store.loans.loan? id = some loan) (hauction : loan.status = .auction) :
    ∃ bid, loan.bid = some bid ∧ pool.BidStands rule id bid := by
  induction h generalizing loan with
  | created h =>
    obtain ⟨store, hs, -, hstore, -⟩ := create_eq_ok h
    obtain rfl := Store.create_eq_ok hs
    rw [hstore] at hloan
    cases hloan
  | @moved pool move h admitted ih =>
    have hkept (hsame : pool.state.store.loans.loan? id = some loan) :
        ∃ bid, loan.bid = some bid ∧ (pool.after move).BidStands rule id bid := by
      obtain ⟨bid, hbid, hstands⟩ := ih hsame hauction
      refine ⟨bid, hbid, hstands.after ?_⟩
      rw [hloan]
      exact hbid
    rcases pool.loan_after h.store.debtsAddUp.book move id with
      hsame | ⟨call, action, commit, rfl, haction, hcommit, halters⟩
    · exact hkept (hsame.symm.trans hloan)
    · rw [hloan] at halters
      generalize hold : pool.state.store.loans.loan? id = old at halters
      cases halters with
      | kept => exact hkept hold
      | opened => cases hauction
      | advanced advances =>
        obtain ⟨bid, hbid, hpayer, rfl, -, howed, -⟩ := advances.of_auction hauction
        refine ⟨bid, hbid, pool, call, commit, _, [], h, hold, hpayer.symm, haction, hcommit, howed,
          rfl, ?_⟩
        show ((pool.after (.call call)).state.store.loans.loan? id).bind Loan.bid = some bid
        rw [hloan]
        exact hbid

/-- In every reachable pool each loan under auction has a bid whose price covers the debt that it
records, which is what the loan owed when the bid was placed. And every liquidation that is
committed settles such a loan and writes off at most the interest since the bid and one scaled unit,
rounded up. -/
theorem Reachable.auction_loss_le (h : pool.Reachable rule) :
    (∀ id loan, pool.state.store.loans.loan? id = some loan → loan.status = .auction →
      ∃ bid, loan.bid = some bid ∧ bid.debt ≤ bid.price ∧ pool.BidStands rule id bid) ∧
    ∀ (call : Call) item minPrice commit, call.action = .user (.liquidate item minPrice) →
      pool.attempt call = .ok commit →
      ∃ loan bid debt index settlement,
        pool.state.store.loans.openLoan? item = some loan ∧ loan.status = .auction ∧
        loan.bid = some bid ∧ pool.state.store.owedAt loan call.now = .ok debt ∧
        pool.state.store.debtIndexAt loan.asset call.now = .ok index ∧
        commit.reply = .settled settlement ∧ bid.debt ≤ debt ∧
        settlement.loss ≤ (debt - bid.debt) + Rounding.up.divide index ray := by
  have hcover := h.store.bidsCover
  constructor
  · intro id loan hloan hauction
    obtain ⟨bid, hbid, hstands⟩ := h.bid_stands hloan hauction
    obtain ⟨bid', _, _, hbid', hcovers, -⟩ := hcover id loan hloan hauction
    obtain rfl := Option.some.inj (hbid.symm.trans hbid')
    exact ⟨bid, hbid, hcovers, hstands⟩
  · intro call item minPrice commit haction hcommit
    obtain ⟨facility, custody, hrun, -⟩ := attempt_user haction hcommit
    obtain ⟨s, hreply, -, -⟩ := UserAction.run_liquidate hrun
    obtain ⟨t, hsettlement, -, -⟩ := Store.settle_eq_ok s.settles
    have howed := (Store.owedAt_of_accrued s.accrues t.found).trans t.owes
    have hindex := Store.debtIndexAt_of_accrued s.accrues t.found
    obtain ⟨hfiled, -, -⟩ := h.store.debtsAddUp.book.of_openLoan? s.isOpen
    obtain ⟨bid, before, index, hbid, hcovers, hbefore, hle, hdebt⟩ :=
      hcover _ _ hfiled s.auction
    obtain rfl := Option.some.inj (s.locked.symm.trans hbid)
    -- the debt of the bid is that of the same scaled debt at an index of before
    obtain ⟨after, hafter, hrisen⟩ := Ledger.accrue_rises s.accrues _ _ hbefore
    obtain rfl := Option.some.inj (hafter.symm.trans t.found)
    have hgrown : s.bid.debt ≤ t.debt :=
      mulDiv_up_mono (Nat.le_refl _) (hle.trans hrisen) hdebt t.owes
    have hloss := t.leaves.tight
    refine ⟨s.loan, s.bid, t.debt, t.reserve.debtIndex, s.settlement, s.isOpen, s.auction,
      s.locked, howed, hindex, hreply, hgrown, ?_⟩
    rw [hsettlement]
    show t.loss ≤ _
    omega

end Pool

namespace SmallMarket

/-- The price of the token falls, and the supplier bids 300 for it, which is what the loan owes. -/
def auctioning : List (Move PriceFeeds NoVault FlatVenue) :=
  [.turn { feeds with floors := feeds.floors.insert art ⟨300 * wad, 0⟩ } {} SmallMarket.venue,
    .fund coin supplier 300,
    .call ⟨supplier, 0, .user (.bid ⟨art, 1⟩ 300 supplier)⟩]

/-- Two hours later the bid settles the loan, and the interest since is written off. -/
def liquidating : Call := ⟨founder, 7201, .user (.liquidate ⟨art, 1⟩ 0)⟩

/-- The liquidation is committed and loses no more than the interest since the bid and one scaled
unit. -/
theorem auctioning_loss_le :
    ∃ commit loan bid debt index settlement,
      (lent.follow auctioning).attempt liquidating = .ok commit ∧
      commit.reply = .settled settlement ∧
      (lent.follow auctioning).state.store.loans.openLoan? ⟨art, 1⟩ = some loan ∧
      loan.bid = some bid ∧
      (lent.follow auctioning).state.store.owedAt loan liquidating.now = .ok debt ∧
      (lent.follow auctioning).state.store.debtIndexAt loan.asset liquidating.now = .ok index ∧
      settlement.loss ≤ (debt - bid.debt) + Rounding.up.divide index ray := by
  have hr := lent_follow_reachable auctioning
  have hok : ((lent.follow auctioning).attempt liquidating).isOk = true := by
    decide +kernel
  cases hcommit : (lent.follow auctioning).attempt liquidating with
  | error e =>
    rw [hcommit] at hok
    cases hok
  | ok commit =>
    obtain ⟨loan, bid, debt, index, settlement, hopen, -, hbid, howed, hindex, hreply, -, hloss⟩ :=
      (Pool.Reachable.auction_loss_le hr).2 liquidating ⟨art, 1⟩ 0 commit rfl hcommit
    exact ⟨commit, loan, bid, debt, index, settlement, rfl, hreply, hopen, hbid, howed, hindex,
      hloss⟩

end SmallMarket

end PooledCredit
