import PooledCredit.Proofs.Loans.Exits
import PooledCredit.Proofs.Loans.Windows

/-!
# Deadlines of an auction

A bid, a redeem, a liquidation and a sale each compute a deadline of their own, from the moment of
the first bid and from terms that may have been laid down anew since. What keeps the four apart is
that valid terms never make the redeem window longer than the bid window: whatever the time, a loan
under auction cannot both be bid on or redeemed and be settled.

Up to the end of the bid window a liquidation is refused, and after it every bid and every redeem
is. What can still stand in the way of a liquidation then is no deadline of the auction, but the
clock of the reserve: like every request that accrues, it is refused when the reserve was last
updated later than now.
-/

namespace PooledCredit

/-- The token of the loan that an action settles, if it settles one. -/
def UserAction.settled? : UserAction → Option Item
  | liquidate item _ | sell item => some item
  | _ => none

section Requests

variable {O V N : Type} [PriceSource O] [Vault V] [Venue N]
variable {store : Store} {prices : O} {caller : Account} {item : Item} {now : Nat}

/-! ## Requests that come too early -/

/-- A loan under auction is settled only after its bid window. -/
lemma UserAction.Serves.over {action : UserAction} {vault : V} {venue : N}
    {facility : Facility V N} {transfers : List Transfer}
    (h : action.Serves prices store vault venue caller now facility transfers)
    (hsettles : action.settled? = some item) {loan : Loan} {bid : Bid}
    (hopen : store.loans.openLoan? item = some loan) (hauction : loan.status = .auction)
    (hbid : loan.bid = some bid) :
    ∃ config, store.collateral.config loan.item = .ok config ∧
      bid.startedAt + config.terms.bidWindow < now := by
  cases h with
  | liquidate s =>
    cases hsettles
    obtain rfl := Option.some.inj (hopen.symm.trans s.isOpen)
    obtain rfl := Option.some.inj (hbid.symm.trans s.locked)
    obtain ⟨-, hdeadline⟩ := fitClock_eq_ok.mp s.closes
    exact ⟨s.config, s.configured, hdeadline.trans_lt s.elapsed⟩
  | sell s =>
    cases hsettles
    obtain rfl := Option.some.inj (hopen.symm.trans s.isOpen)
    rcases Store.checkSale_eq_ok s.checks with
      ⟨hactive, -⟩ | ⟨bid', deadline, -, hbid', hcloses, helapsed, -⟩
    · exact absurd (hauction.symm.trans hactive) nofun
    · obtain rfl := Option.some.inj (hbid.symm.trans hbid')
      obtain ⟨-, hdeadline⟩ := fitClock_eq_ok.mp hcloses
      exact ⟨s.config, s.configured, hdeadline.trans_lt helapsed⟩
  | deposit | withdraw | borrow | repay | setMandate | bid | redeem | list | buyDebt | bidDebt
    | claimDebt | cancelListing => cases hsettles

namespace Store

variable {loan : Loan} {bid : Bid} {config : CollateralConfig}
variable (hopen : store.loans.openLoan? loan.item = some loan) (hauction : loan.status = .auction)
variable (hbid : loan.bid = some bid) (hconfig : store.collateral.config loan.item = .ok config)

include hopen hauction hbid hconfig

/-- A liquidation looks at the bid window and at the least price before it does anything. -/
lemma liquidate_refused (hfits : bid.startedAt + config.terms.bidWindow < clockBound)
    {minPrice : Nat} {failure : Failure}
    (hguards : (do
      requireOver (bid.startedAt + config.terms.bidWindow) now
      require (minPrice ≤ bid.price) (.priceBelowMinimum bid.price minPrice)) = .error failure) :
    store.liquidate caller loan.item minPrice now = .error failure := by
  have hfound : store.loans.openLoan loan.item = .ok loan := orRefuse_eq_ok.mpr hopen
  have hstatus : loan.requireStatus .auction = .ok () := require_eq_ok.mpr hauction
  have hlocked : loan.requireBid = .ok bid := orRefuse_eq_ok.mpr hbid
  have hdeadline : bid.deadline config.terms.bidWindow =
      .ok (bid.startedAt + config.terms.bidWindow) := fitClock_eq_ok.mpr ⟨hfits, rfl⟩
  simp only [Bind.bind, Except.bind] at hguards
  simp only [liquidate, hfound, hstatus, hlocked, hconfig, hdeadline, Bind.bind, Except.bind]
  cases hover : requireOver (bid.startedAt + config.terms.bidWindow) now with
  | error _ =>
    rw [hover] at hguards
    cases hguards
    rfl
  | ok _ =>
    simp only [hover] at hguards
    simp only [hguards]

/-- Up to the end of the bid window, every liquidation is refused because the window after it is not
open yet. -/
lemma liquidate_early (hlast : bid.startedAt + config.terms.bidWindow < maxClock)
    (hearly : now ≤ bid.startedAt + config.terms.bidWindow) (minPrice : Nat) :
    store.liquidate caller loan.item minPrice now =
      .error (.refused (.windowNotOpen "liquidate"
        (bid.startedAt + config.terms.bidWindow + 1) now)) := by
  have hbound : maxClock + 1 = clockBound := rfl
  have hnext : bareAdd clockBound (bid.startedAt + config.terms.bidWindow) 1 =
      .ok (bid.startedAt + config.terms.bidWindow + 1) := bareAdd_eq_ok.mpr ⟨by omega, rfl⟩
  have hwaits : requireOver (bid.startedAt + config.terms.bidWindow) now =
      .error (.refused (.windowNotOpen "liquidate"
        (bid.startedAt + config.terms.bidWindow + 1) now)) := by
    rw [requireOver, if_pos hearly, hnext]
    rfl
  refine liquidate_refused hopen hauction hbid hconfig (by omega) ?_
  rw [hwaits]
  rfl

/-- After the bid window, a liquidation that expects more than the bid is refused for its price. -/
lemma liquidate_underbid (hfits : bid.startedAt + config.terms.bidWindow < clockBound)
    (hlate : bid.startedAt + config.terms.bidWindow < now) {minPrice : Nat}
    (hprice : bid.price < minPrice) :
    store.liquidate caller loan.item minPrice now =
      .error (.refused (.priceBelowMinimum bid.price minPrice)) := by
  have hover : requireOver (bid.startedAt + config.terms.bidWindow) now = .ok () :=
    requireOver_eq_ok.mpr hlate
  refine liquidate_refused hopen hauction hbid hconfig hfits ?_
  rw [hover, require, if_neg (Nat.not_le_of_lt hprice)]
  rfl

/-- After the redeem window, offering something to redeem is refused because the window has
closed. -/
lemma redeem_closed {O : Type} [PriceSource O] {prices : O} {amount maxFine : Nat}
    (hamount : amount ≠ 0) (hfits : bid.startedAt + config.terms.redeemWindow < clockBound)
    (hlate : bid.startedAt + config.terms.redeemWindow < now) :
    store.redeem prices caller loan.item amount maxFine now =
      .error (.refused (.windowClosed "redeem" (bid.startedAt + config.terms.redeemWindow)
        now)) := by
  have hoffers : require (amount ≠ 0) .zeroAmount = .ok () := require_eq_ok.mpr hamount
  have hfound : store.loans.openLoan loan.item = .ok loan := orRefuse_eq_ok.mpr hopen
  have hstatus : loan.requireStatus .auction = .ok () := require_eq_ok.mpr hauction
  have hlocked : loan.requireBid = .ok bid := orRefuse_eq_ok.mpr hbid
  have hdeadline : bid.deadline config.terms.redeemWindow =
      .ok (bid.startedAt + config.terms.redeemWindow) := fitClock_eq_ok.mpr ⟨hfits, rfl⟩
  have hclosed : require (now ≤ bid.startedAt + config.terms.redeemWindow)
      (.windowClosed "redeem" (bid.startedAt + config.terms.redeemWindow) now) =
      .error (.refused (.windowClosed "redeem" (bid.startedAt + config.terms.redeemWindow)
        now)) := if_neg (Nat.not_le_of_lt hlate)
  simp only [redeem, hoffers, hfound, hstatus, hlocked, hconfig, hdeadline, hclosed, Bind.bind,
    Except.bind]

end Store

end Requests

/-! ## Requests that come too late -/

/-- A refusal for timing that says that the clock of a reserve, which stands at `last`, is ahead;
other failures say nothing here. -/
def Failure.OfClock (last now : Nat) (failure : Failure) : Prop :=
  ∀ cause, failure = .refused cause → cause.category = .timing →
    cause = .timeBackwards last now ∧ now < last

/-- A refusal of another category is none for timing. -/
lemma Failure.ofClock_of_category {last now : Nat} {cause : Refusal}
    (h : cause.category ≠ .timing) : (Failure.refused cause).OfClock last now := by
  rintro _ ⟨⟩ htiming
  exact absurd htiming h

/-- A refusal because the clock is ahead. -/
lemma Failure.ofClock_timeBackwards {last now : Nat} (h : now < last) :
    (Failure.refused (.timeBackwards last now)).OfClock last now := by
  rintro _ ⟨⟩ -
  exact ⟨rfl, h⟩

namespace Store

variable {store : Store} {loan : Loan} {bid : Bid} {config : CollateralConfig} {reserve : Reserve}
variable {now : Nat}

/-- After the bid window, a liquidation is refused for timing only when the clock of the reserve is
ahead. -/
lemma Reachable.liquidate_late (h : store.Reachable)
    (hloan : store.loans.loan? loan.id = some loan) (hauction : loan.status = .auction)
    (hbid : loan.bid = some bid) (hconfig : store.collateral.config loan.item = .ok config)
    (hr : store.ledger.reserves.get? loan.asset = some reserve)
    (hfits : bid.startedAt + config.terms.bidWindow < clockBound)
    (hlate : bid.startedAt + config.terms.bidWindow < now) (caller : Account) (minPrice : Nat) :
    FailsOnly (Failure.OfClock reserve.updatedAt now)
      (store.liquidate caller loan.item minPrice now) := by
  have hd := h.debtsAddUp
  by_cases hprice : minPrice ≤ bid.price
  · have hoverflow : Failure.OfClock reserve.updatedAt now (.refused .overflow) :=
      Failure.ofClock_of_category nofun
    exact failsOnly_liquidate hoverflow hd h.sound hloan hr Failure.ofClock_timeBackwards hauction
      hbid hconfig hfits hlate hprice caller
  · intro failure hfailure
    have hopen := hd.book.openLoan?_of_isOpen hloan (by rw [hauction]; rfl)
    rw [liquidate_underbid hopen hauction hbid hconfig hfits hlate
      (Nat.lt_of_not_le hprice)] at hfailure
    cases hfailure
    exact Failure.ofClock_of_category nofun

/-- An action can succeed at a time, asked for by someone, at some prices and with some vault and
venue. -/
def Allows (store : Store) (action : UserAction) (now : Nat) : Prop :=
  ∃ (O V N : Type) (_ : PriceSource O) (_ : Vault V) (_ : Venue N) (prices : O) (vault : V)
    (venue : N) (caller : Account) (reply : Reply) (facility : Facility V N) (effects : Effects),
    action.run prices ⟨store, vault, venue⟩ caller now = .ok (reply, facility, effects)

variable {action : UserAction} {window : Window}

/-- An action that must keep to a window of an auction can succeed only while it is open. -/
lemma Allows.in_time (h : store.Allows action now)
    (hwithin : action.within = some (loan.item, window))
    (hopen : store.loans.openLoan? loan.item = some loan) (hauction : loan.status = .auction)
    (hbid : loan.bid = some bid) (hconfig : store.collateral.config loan.item = .ok config) :
    now ≤ bid.startedAt + config.terms.lengthOf window := by
  obtain ⟨_, _, _, _, _, _, _, _, _, _, _, _, _, hrun⟩ := h
  obtain ⟨_, hterms, hle⟩ := (UserAction.run_serves hrun).in_time hwithin hopen hauction hbid
  obtain rfl := Except.ok.inj (hconfig.symm.trans hterms)
  exact hle

/-- An action that settles a loan under auction can succeed only when the bid window is over. -/
lemma Allows.over (h : store.Allows action now) (hsettles : action.settled? = some loan.item)
    (hopen : store.loans.openLoan? loan.item = some loan) (hauction : loan.status = .auction)
    (hbid : loan.bid = some bid) (hconfig : store.collateral.config loan.item = .ok config) :
    bid.startedAt + config.terms.bidWindow < now := by
  obtain ⟨_, _, _, _, _, _, _, _, _, _, _, _, _, hrun⟩ := h
  obtain ⟨_, hterms, hlt⟩ := (UserAction.run_serves hrun).over hsettles hopen hauction hbid
  obtain rfl := Except.ok.inj (hconfig.symm.trans hterms)
  exact hlt

variable {O V N : Type} [PriceSource O] [Vault V] [Venue N]

/-- When an action that must keep to a window of an auction fails because a window has closed, it is
its own window that has. -/
lemma DebtsAddUp.closed_of_refused (hd : store.DebtsAddUp)
    (hwithin : action.within = some (loan.item, window))
    (hopen : store.loans.openLoan? loan.item = some loan) (hbid : loan.bid = some bid)
    (hconfig : store.collateral.config loan.item = .ok config) {prices : O} {vault : V} {venue : N}
    {caller : Account} {name : String} {deadline time : Nat}
    (h : action.run prices ⟨store, vault, venue⟩ caller now =
      .error (.refused (.windowClosed name deadline time))) :
    bid.startedAt + config.terms.lengthOf window < now := by
  have htells := UserAction.failsOnly_run hd hwithin vault venue _ h
  obtain ⟨_, _, _, hopen', -, hbid', hconfig', hlate⟩ := htells
  obtain rfl := Option.some.inj (hopen.symm.trans hopen')
  obtain rfl := Option.some.inj (hbid.symm.trans hbid')
  obtain rfl := Except.ok.inj (hconfig.symm.trans hconfig')
  exact hlate

/-- Let a loan be under auction in a reachable store. Its redeem window is no longer than its bid
window, and at no time can the loan both be bid on or redeemed and be settled.

When the moment after the bid window is still a clock reading, then up to the end of the bid window
every liquidation is refused because it comes too early, no sale succeeds, and no bid fails because
the window has closed. After it every bid and every redeem fails, and a liquidation is refused for
timing only when the reserve was last updated later than now. And offering something to redeem is
refused because the window has closed exactly when the redeem window is over. -/
theorem Reachable.auction_deadlines (h : store.Reachable) {id : LoanId}
    (hloan : store.loans.loan? id = some loan) (hauction : loan.status = .auction) :
    ∃ bid config reserve, loan.bid = some bid ∧
      store.collateral.config loan.item = .ok config ∧
      store.ledger.reserves.get? loan.asset = some reserve ∧
      config.terms.redeemWindow ≤ config.terms.bidWindow ∧
      (∀ now action window settling, action.within = some (loan.item, window) →
        settling.settled? = some loan.item → store.Allows action now →
        ¬ store.Allows settling now) ∧
      (bid.startedAt + config.terms.bidWindow < maxClock →
        ∀ (prices : O) (vault : V) (venue : N) (caller : Account) (now : Nat),
          (now ≤ bid.startedAt + config.terms.bidWindow →
            (∀ minPrice, (UserAction.liquidate loan.item minPrice).run prices
                ⟨store, vault, venue⟩ caller now =
              .error (.refused (.windowNotOpen "liquidate"
                (bid.startedAt + config.terms.bidWindow + 1) now))) ∧
            ¬ store.Allows (.sell loan.item) now ∧
            ∀ price bidder name deadline time, (UserAction.bid loan.item price bidder).run prices
                ⟨store, vault, venue⟩ caller now ≠
              .error (.refused (.windowClosed name deadline time))) ∧
          (bid.startedAt + config.terms.bidWindow < now →
            (∀ action window, action.within = some (loan.item, window) →
              ¬ store.Allows action now) ∧
            ∀ minPrice, FailsOnly (Failure.OfClock reserve.updatedAt now)
              ((UserAction.liquidate loan.item minPrice).run prices ⟨store, vault, venue⟩ caller
                now)) ∧
          ∀ amount maxFine, amount ≠ 0 →
            ((∃ name deadline time, (UserAction.redeem loan.item amount maxFine).run prices
                ⟨store, vault, venue⟩ caller now =
              .error (.refused (.windowClosed name deadline time))) ↔
            bid.startedAt + config.terms.redeemWindow < now)) := by
  have hd := h.debtsAddUp
  obtain rfl := hd.book.key id loan hloan
  have hactive : loan.status.isOpen = true := by rw [hauction]; rfl
  have hopen := hd.book.openLoan?_of_isOpen hloan hactive
  obtain ⟨reserve, hr, -⟩ := hd.reserve_owed hloan hactive
  obtain ⟨config, hconfig⟩ := h.termsStand loan.id loan hloan hactive
  obtain ⟨bid, hbid⟩ := Option.isSome_iff_exists.mp
    ((h.inStep.bids loan.id loan hloan).mpr hauction)
  have hlength := CollateralTerms.lengthOf_le (h.collateral_valid.config hconfig)
  have hredeem : config.terms.redeemWindow ≤ config.terms.bidWindow := hlength .redeem
  have hbound : maxClock + 1 = clockBound := rfl
  refine ⟨bid, config, reserve, hbid, hconfig, hr, hredeem, ?exclusive,
    fun hlast prices vault venue caller now => ⟨?early, ?late, ?closed⟩⟩
  case exclusive =>
    intro now action window settling hwithin hsettles hallows hallows'
    have hle := hallows.in_time hwithin hopen hauction hbid hconfig
    have hlt := hallows'.over hsettles hopen hauction hbid hconfig
    have hwindow := hlength window
    omega
  case early =>
    intro hearly
    refine ⟨fun minPrice => ?_, fun hallows => ?_,
      fun price bidder name deadline time hrefused => ?_⟩
    · have hwaits : store.liquidate caller loan.item minPrice now = _ :=
        liquidate_early hopen hauction hbid hconfig hlast hearly minPrice
      simp only [UserAction.run, hwaits, Bind.bind, Except.bind]
    · have hlt := hallows.over rfl hopen hauction hbid hconfig
      omega
    · have hlt : bid.startedAt + config.terms.lengthOf .bid < now :=
        hd.closed_of_refused rfl hopen hbid hconfig hrefused
      exact Nat.not_le_of_lt hlt hearly
  case late =>
    intro hlate
    refine ⟨fun action window hwithin hallows => ?_, fun minPrice => ?_⟩
    · have hle := hallows.in_time hwithin hopen hauction hbid hconfig
      have hwindow := hlength window
      omega
    · have hfails :=
        h.liquidate_late hloan hauction hbid hconfig hr (by omega) hlate caller minPrice
      exact hfails.bind fun _ _ => failsOnly_pure _
  case closed =>
    intro amount maxFine hamount
    constructor
    · rintro ⟨name, deadline, time, hrefused⟩
      have hlt : bid.startedAt + config.terms.lengthOf .redeem < now :=
        hd.closed_of_refused rfl hopen hbid hconfig hrefused
      exact hlt
    · intro hlate
      have hrefused : store.redeem prices caller loan.item amount maxFine now = _ :=
        redeem_closed hopen hauction hbid hconfig hamount (by omega) hlate
      refine ⟨"redeem", bid.startedAt + config.terms.redeemWindow, now, ?_⟩
      simp only [UserAction.run, hrefused, Bind.bind, Except.bind]

end Store

namespace SmallMarket

/-- The auction that starts at zero with windows of one and two hours keeps its deadlines: one
second after its redeem window a redeem is refused for it, at the end of its bid window the loan
cannot be liquidated yet, and one second later it cannot be bid on. -/
theorem auctioning_deadlines :
    let store := (lent.follow auctioning).state.store
    let facility : Facility NoVault FlatVenue := ⟨store, {}, venue⟩
    (∃ name deadline time, (UserAction.redeem ⟨art, 1⟩ maxAmount maxAmount).run feeds facility
      borrower 3601 = .error (.refused (.windowClosed name deadline time))) ∧
    (UserAction.liquidate ⟨art, 1⟩ 0).run feeds facility borrower 7200 =
      .error (.refused (.windowNotOpen "liquidate" 7201 7200)) ∧
    ¬ store.Allows (.bid ⟨art, 1⟩ 330 borrower) 7201 := by
  intro store facility
  have hr : store.Reachable := (lent_follow_reachable auctioning).store
  obtain ⟨loan, hloan, hitem, hauction, bid, hbid, hstart⟩ := show
    ∃ loan ∈ store.loans.loan? 1, loan.item = ⟨art, 1⟩ ∧ loan.status = .auction ∧
      ∃ bid ∈ loan.bid, bid.startedAt = 0 by decide +kernel
  have hterms : store.collateral.config loan.item = .ok ⟨{}, true, false, 0⟩ := by
    rw [hitem]
    decide +kernel
  obtain ⟨bid', config, _, hbid', hconfig, -, -, -, hdeadlines⟩ :=
    Store.Reachable.auction_deadlines (O := PriceFeeds) (V := NoVault) (N := FlatVenue) hr hloan
      hauction
  obtain rfl := Option.some.inj (hbid.symm.trans hbid')
  obtain rfl := Except.ok.inj (hterms.symm.trans hconfig)
  rw [hitem, hstart] at hdeadlines
  have hkeeps := hdeadlines (by decide) feeds {} venue borrower
  refine ⟨?redeem, ?liquidate, ?bid⟩
  case redeem => exact ((hkeeps 3601).2.2 maxAmount maxAmount (by decide)).mpr (by decide)
  case liquidate => exact ((hkeeps 7200).1 (by decide)).1 0
  case bid => exact ((hkeeps 7201).2.1 (by decide)).1 _ .bid rfl

/-- The treasury share of the reserve is laid down once more at a later time, which accrues it. -/
def touchingLate : List (Move PriceFeeds NoVault FlatVenue) :=
  [.call ⟨founder, 10000, .operator (.setReserveFactor coin 1000)⟩]

/-- A liquidation after the bid window can still be refused for timing: the reserve of the loan was
last updated later. -/
theorem touchingLate_refuses :
    let store := (lent.follow (auctioning ++ touchingLate)).state.store
    store.Reachable ∧
    (∃ loan ∈ store.loans.loan? 1, loan.item = ⟨art, 1⟩ ∧ loan.status = .auction ∧
      ∃ bid ∈ loan.bid, bid.startedAt = 0) ∧
    (store.collateral.config ⟨art, 1⟩ = .ok ⟨{}, true, false, 0⟩ ∧
      ({} : CollateralTerms).bidWindow = 7200) ∧
    (UserAction.liquidate ⟨art, 1⟩ 0).run feeds (⟨store, {}, venue⟩ : Facility NoVault FlatVenue)
      founder 8000 = .error (.refused (.timeBackwards 10000 8000)) ∧
    (Refusal.timeBackwards 10000 8000).category = .timing := by
  intro store
  refine ⟨(lent_follow_reachable _).store, ?_, ⟨?_, rfl⟩, ?_, rfl⟩
  · decide +kernel
  · decide +kernel
  · rfl

end SmallMarket

end PooledCredit
