import PooledCredit.Proofs.Loans.Exits

/-!
# What a settlement books

A loan is settled by the proceeds of its collateral, the highest bid or what a venue pays. The
proceeds pay the debt as far as they go; what they leave of it is written off, and what they leave
over goes to the debtor. The reserve gives up the whole scaled debt of the loan, its idle liquidity
grows by what is repaid and its losses by what is written off. That is exactly nothing when the
proceeds cover the debt, and at most one scaled unit too much when they do not.
-/

namespace PooledCredit

/-- An accrual neither moves funds nor changes the scaled debt or the losses. -/
lemma Reserve.accrue_books {reserve reserve' : Reserve} {now : Nat} {accrual : Accrual}
    (h : reserve.accrue now = .ok (accrual, reserve')) :
    reserve'.scaledDebt = reserve.scaledDebt ∧ reserve'.idle = reserve.idle ∧
      reserve'.losses = reserve.losses := by
  rcases accrue_eq_ok h with ⟨-, -, rfl⟩ | ⟨-, _, _, _, _, _, -, -, -, -, -, -, -, -, hu⟩
  · exact ⟨rfl, rfl, rfl⟩
  · obtain ⟨_, _, _, -, -, -, rfl⟩ := refreshRates_eq_ok hu
    exact ⟨rfl, rfl, rfl⟩

namespace Store

variable {store store' : Store} {loan : Loan} {proceeds now : Nat}

/-! ## The books of the reserve -/

/-- A settlement takes the scaled debt of the loan off the reserve, adds what is repaid to the idle
liquidity and what is written off to the losses. -/
lemma SettleSteps.books (s : SettleSteps store loan proceeds now) :
    ∃ after, s.settled.reserves.get? loan.asset = some after ∧
      after.scaledDebt + loan.scaled = s.reserve.scaledDebt ∧
      after.idle = s.reserve.idle + min proceeds s.debt ∧
      after.losses = s.reserve.losses + s.loss := by
  -- the repayment, if there is one, takes off all but the remaining scaled debt
  obtain ⟨middle, hmiddle, hscaled, hidle, hlosses⟩ :
      ∃ middle, s.repaid.reserves.get? loan.asset = some middle ∧
        middle.scaledDebt + loan.scaled = s.reserve.scaledDebt + s.remaining ∧
        middle.idle = s.reserve.idle + min proceeds s.debt ∧
        middle.losses = s.reserve.losses := by
    rcases s.repays with ⟨hnothing, hall, hledger⟩ | ⟨repayment, -, hp, hremaining⟩
    · rw [hledger, hall, hnothing]
      exact ⟨s.reserve, s.found, rfl, rfl, rfl⟩
    · obtain ⟨found, debt, after, htouch, -, hdebt, hpaid, -, hle, hle', hleft, hu⟩ :=
        Ledger.repay_eq_ok hp
      obtain rfl := Option.some.inj (htouch.old.symm.trans s.found)
      obtain rfl := Except.ok.inj (hdebt.symm.trans s.owes)
      obtain ⟨_, _, _, -, -, -, rfl⟩ := Reserve.refreshRates_eq_ok hu
      refine ⟨_, htouch.new, ?_, ?_, rfl⟩
      · show s.reserve.scaledDebt - repayment.burned + loan.scaled = _
        omega
      · show s.reserve.idle + repayment.paid = _
        rw [hpaid, Nat.min_eq_left (Nat.min_le_right _ _)]
  rcases s.writesOff with ⟨hnone, hzero, hledger⟩ | ⟨-, hw⟩
  · rw [hledger]
    exact ⟨middle, hmiddle, by omega, hidle, by omega⟩
  · obtain ⟨found, after, htouch, -, hle, hu⟩ := Ledger.writeOff_eq_ok hw
    obtain rfl := Option.some.inj (htouch.old.symm.trans hmiddle)
    obtain ⟨_, _, _, -, -, -, rfl⟩ := Reserve.refreshRates_eq_ok hu
    refine ⟨_, htouch.new, ?_, hidle, ?_⟩
    · show found.scaledDebt - s.remaining + loan.scaled = _
      omega
    · show found.losses + s.loss = _
      rw [hlosses]

/-- How proceeds settle a loan that owes a debt at a debt index, and how its reserve changes from
before the interest of the moment is accrued until the loan is closed. -/
structure Settles (store store' : Store) (loan : Loan) (proceeds now : Nat)
    (settlement : Settlement) (debt index : Nat) (before after : Reserve) : Prop where
  owed : store.owedAt loan now = .ok debt
  reached : store.debtIndexAt loan.asset now = .ok index
  numbered : settlement.loan = loan.id
  repaid : settlement.repaid = min proceeds debt
  divided : settlement.repaid + settlement.surplus = proceeds
  lossless : settlement.loss = 0 ↔ debt ≤ proceeds
  status : settlement.status = if debt ≤ proceeds then .repaid else .defaulted
  short : proceeds < debt → debt - proceeds ≤ settlement.loss ∧
    settlement.loss ≤ debt - proceeds + Rounding.up.divide index ray
  found : store.ledger.reserves.get? loan.asset = some before
  left : store'.ledger.reserves.get? loan.asset = some after
  scaledDebt : after.scaledDebt + loan.scaled = before.scaledDebt
  idle : after.idle = before.idle + settlement.repaid
  losses : after.losses = before.losses + settlement.loss
  closed : store'.loans.loan? loan.id = some (loan.closed settlement.status now)
  released : ∀ item, store'.loans.openByItem.get? item ≠ some loan.id

/-- A settlement after an accrual settles an open loan, gives the surplus to its debtor and the
token to the winner. -/
lemma settles_of_settle (hb : store.loans.Consistent) {winner : Option Account} {accrual : Accrual}
    {accrued : Ledger} {settlement : Settlement} {transfers : List Transfer}
    (hfiled : store.loans.loan? loan.id = some loan)
    (ha : store.ledger.accrue loan.asset now = .ok (accrual, accrued))
    (hs : { store with ledger := accrued }.settle loan proceeds winner now =
      .ok (settlement, store', transfers)) :
    (∃ debt index before after,
      Settles store store' loan proceeds now settlement debt index before after) ∧
    transfers = Transfer.payment loan.asset store.poolAccount loan.debtor settlement.surplus ++
      winner.elim [] (Transfer.handover loan.item store.poolAccount) ++ [.burn loan.wrapped] := by
  obtain ⟨s, rfl, rfl, rfl⟩ := settle_eq_ok hs
  obtain ⟨before, _, htouch, haccrue⟩ := Ledger.accrue_eq_ok ha
  obtain rfl := htouch.found s.found
  obtain ⟨hscaled, hidle, hlosses⟩ := Reserve.accrue_books haccrue
  obtain ⟨after, hafter, hscaled', hidle', hlosses'⟩ := s.books
  have hcovers := s.leaves.covers
  have htight := s.leaves.tight
  have hfull := s.leaves.full
  have hlossless : s.loss = 0 ↔ s.debt ≤ proceeds := by
    constructor
    · intro hzero
      omega
    · intro hle
      exact hfull (Nat.min_eq_right hle)
  have hshort (hlt : proceeds < s.debt) : s.debt - proceeds ≤ s.loss ∧
      s.loss ≤ s.debt - proceeds + Rounding.up.divide s.reserve.debtIndex ray := by
    rw [Nat.min_eq_left hlt.le] at hcovers htight
    omega
  refine ⟨⟨s.debt, s.reserve.debtIndex, before, after, ?_⟩, rfl⟩
  have hclosed := loan?_close hfiled s.closes
  obtain ⟨-, -, -, hfinal, -⟩ := LoanBook.close_eq_ok s.closes
  exact {
    owed := (owedAt_of_accrued ha s.found).trans s.owes
    reached := debtIndexAt_of_accrued ha s.found
    numbered := rfl
    repaid := rfl
    divided := Nat.add_sub_cancel' (Nat.min_le_left _ _)
    lossless := hlossless
    status := if_congr hlossless rfl rfl
    short := hshort
    found := htouch.old
    left := hafter
    scaledDebt := hscaled'.trans hscaled
    idle := hidle ▸ hidle'
    losses := hlosses ▸ hlosses'
    closed := hclosed
    released := fun item hindexed => by
      obtain ⟨found, hfound, hopen, -⟩ := ((hb.close s.closes).indexed item loan.id).mp hindexed
      obtain rfl := Option.some.inj (hclosed.symm.trans hfound)
      cases hfinal.symm.trans hopen }

/-! ## Liquidations and sales -/

/-- In every reachable store, a liquidation settles the open loan on the token with the price of its
bid and gives the token to the bidder, and a sale settles it with what the venue pays and gives the
bid back, if there is one. Both give what the proceeds leave over the debt to the debtor, write off
what they leave of it, and close the loan. -/
theorem Reachable.settlements_exact (h : store.Reachable) :
    (∀ caller item minPrice now outcome, store.liquidate caller item minPrice now = .ok outcome →
      ∃ loan bid debt index before after,
        store.loans.openLoan? item = some loan ∧ loan.bid = some bid ∧
        Settles store outcome.store loan bid.price now outcome.reply debt index before after ∧
        outcome.effects.transfers =
          Transfer.payment loan.asset store.poolAccount loan.debtor outcome.reply.surplus ++
            Transfer.handover loan.item store.poolAccount bid.bidder ++ [.burn loan.wrapped]) ∧
    ∀ {O N : Type} [PriceSource O] [Venue N] (prices : O) (venue venue' : N) caller item now
        outcome,
      store.sell prices venue caller item now = .ok (outcome, venue') →
      ∃ loan floor proceeds debt index before after,
        store.loans.openLoan? item = some loan ∧
        Venue.sell venue loan.item loan.asset floor = .ok (proceeds, venue') ∧
        Settles store outcome.store loan proceeds now outcome.reply debt index before after ∧
        outcome.effects.transfers =
          loan.bid.elim [] (fun bid =>
            Transfer.payment loan.asset store.poolAccount bid.payer bid.price) ++
          Transfer.handover loan.item store.poolAccount (Venue.account venue') ++
          Transfer.payment loan.asset (Venue.account venue') store.poolAccount proceeds ++
          (Transfer.payment loan.asset store.poolAccount loan.debtor outcome.reply.surplus ++
            [.burn loan.wrapped]) := by
  have hb := h.inStep
  constructor
  · intro caller item minPrice now outcome hliquidate
    obtain ⟨s, rfl⟩ := liquidate_eq_ok hliquidate
    obtain ⟨hfiled, -, -⟩ := hb.of_openLoan? s.isOpen
    obtain ⟨⟨debt, index, before, after, hsettles⟩, htransfers⟩ :=
      settles_of_settle hb.toConsistent hfiled s.accrues s.settles
    exact ⟨s.loan, s.bid, debt, index, before, after, s.isOpen, s.locked, hsettles, htransfers⟩
  · intro O N _ _ prices venue venue' caller item now outcome hsell
    obtain ⟨s, rfl⟩ := sell_eq_ok hsell
    obtain ⟨hfiled, -, -⟩ := hb.of_openLoan? s.isOpen
    obtain ⟨⟨debt, index, before, after, hsettles⟩, htransfers⟩ :=
      settles_of_settle hb.toConsistent hfiled s.accrues s.settles
    have hrefund : s.refund = s.loan.bid.elim [] (fun bid =>
        Transfer.payment s.loan.asset store.poolAccount bid.payer bid.price) := by
      rcases checkSale_eq_ok s.checks with ⟨hactive, -, hnone⟩ |
        ⟨bid, _, -, hbid, -, -, -, hgiven⟩
      · -- an active loan has no bid
        have hbids := hb.bids s.loan.id s.loan hfiled
        rw [hactive] at hbids
        cases hbid : s.loan.bid with
        | none => exact hnone
        | some bid =>
          rw [hbid] at hbids
          cases hbids.mp rfl
      · rw [hbid, hgiven]
        rfl
    refine ⟨s.loan, s.floor, s.proceeds, debt, index, before, after, s.isOpen, s.sells, hsettles,
      ?_⟩
    show s.refund ++ _ ++ _ ++ s.transfers = _
    rw [hrefund, htransfers, Option.elim_none, List.append_nil]

end Store

namespace SmallMarket

/-- The price of the token falls to 300, so that the loan can be sold. -/
def falling : List (Move PriceFeeds NoVault FlatVenue) :=
  [.turn { feeds with floors := feeds.floors.insert art ⟨300 * wad, 0⟩ } {} SmallMarket.venue]

/-- The bid of 300 settles the loan two hours after it was placed, and 2 are written off. The venue
pays 500 for the token of the same loan at once, so the debt of 300 is repaid and the debtor gets
200. -/
theorem falling_settles :
    (∃ outcome loan debt index before after,
      (lent.follow auctioning).state.store.liquidate founder ⟨art, 1⟩ 0 7201 = .ok outcome ∧
      (lent.follow auctioning).state.store.Settles outcome.store loan 300 7201 outcome.reply
        debt index before after ∧
      outcome.reply = ⟨1, 300, 0, 2, .defaulted⟩) ∧
    ∃ outcome venue' loan debt index before after,
      (lent.follow falling).state.store.sell (lent.follow falling).prices SmallMarket.venue founder
        ⟨art, 1⟩ 0 = .ok (outcome, venue') ∧
      (lent.follow falling).state.store.Settles outcome.store loan 500 0 outcome.reply
        debt index before after ∧
      outcome.reply = ⟨1, 300, 200, 0, .repaid⟩ := by
  constructor
  · have hreply : ((lent.follow auctioning).state.store.liquidate founder ⟨art, 1⟩ 0 7201).map
        Outcome.reply = .ok ⟨1, 300, 0, 2, .defaulted⟩ := by decide +kernel
    have hprice : ((lent.follow auctioning).state.store.loans.openLoan? ⟨art, 1⟩).bind
        (fun loan => loan.bid.map Bid.price) = some 300 := by decide +kernel
    obtain ⟨outcome, hrun, hreply⟩ := map_eq_ok.mp hreply
    obtain ⟨loan, bid, debt, index, before, after, hopen, hbid, hsettles, -⟩ :=
      (Store.Reachable.settlements_exact (lent_follow_reachable auctioning).store).1
        _ _ _ _ outcome hrun
    rw [hopen, Option.bind_some, hbid] at hprice
    rw [Option.some.inj hprice] at hsettles
    exact ⟨outcome, loan, debt, index, before, after, hrun, hsettles, hreply⟩
  · have hreply : ((lent.follow falling).state.store.sell (lent.follow falling).prices
        SmallMarket.venue founder ⟨art, 1⟩ 0).map (fun sale => sale.1.reply) =
          .ok ⟨1, 300, 200, 0, .repaid⟩ := by decide +kernel
    obtain ⟨⟨outcome, venue'⟩, hrun, hreply⟩ := map_eq_ok.mp hreply
    obtain ⟨loan, _, proceeds, debt, index, before, after, -, hsell, hsettles, -⟩ :=
      (Store.Reachable.settlements_exact (lent_follow_reachable falling).store).2
        _ _ _ _ _ _ outcome hrun
    have hproceeds : proceeds = 500 := (congrArg Prod.fst (Except.ok.inj hsell)).symm
    rw [hproceeds] at hsettles
    exact ⟨outcome, venue', loan, debt, index, before, after, hrun, hsettles, hreply⟩

end SmallMarket

end PooledCredit
