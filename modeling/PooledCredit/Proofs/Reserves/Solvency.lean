import PooledCredit.Proofs.Reserves.Backing
import PooledCredit.Proofs.Runs

/-!
# The claims of suppliers along a run

Whatever requests a store has answered, the claims of the suppliers of a reserve are covered by
its funds, its debt and its losses, where the losses count at the supply index and a drift is
added that grows by the slack of each accrual. Neither correction can be left out: claims on
what was lost go on earning interest, and a debt of few units is rounded up by a large part of
it before its rate is applied.
-/

namespace PooledCredit

/-! ## Requests -/

/-- A settlement changes the ledger quietly. -/
lemma Store.settle_quiet {store store' : Store} {loan : Loan} {proceeds now : Nat}
    {winner : Option Account} {settlement : Settlement} {transfers : List Transfer}
    (h : store.settle loan proceeds winner now = .ok (settlement, store', transfers)) :
    store.ledger.Quiet store'.ledger := by
  obtain ⟨s, -, rfl, -⟩ := settle_eq_ok h
  have hrepaid : store.ledger.Quiet s.repaid := by
    rcases s.repays with ⟨-, -, hledger⟩ | ⟨_, -, hp, -⟩
    · rw [hledger]
      exact .refl _
    · exact Ledger.repay_quiet hp
  refine hrepaid.trans ?_
  rcases s.writesOff with ⟨-, -, hledger⟩ | ⟨-, hw⟩
  · rw [hledger]
    exact .refl _
  · exact Ledger.writeOff_quiet hw

/-- Passing a debt leaves the ledger alone. -/
lemma Store.passDebt_ledger {store store' : Store} {listing : Listing} {buyer : Account}
    {asset : Asset} {transfers : List Transfer}
    (h : store.passDebt listing buyer = .ok (asset, transfers, store')) :
    store'.ledger = store.ledger := by
  obtain ⟨s, -, -, rfl⟩ := passDebt_eq_ok h
  rfl

/-- A user's action turns the ledger. -/
lemma UserAction.Serves.turns {O V N : Type} [PriceSource O] [Vault V] [Venue N]
    {action : UserAction} {prices : O} {store : Store} {vault : V} {venue : N}
    {facility : Facility V N} {caller : Account} {now : Nat} {transfers : List Transfer}
    (h : action.Serves prices store vault venue caller now facility transfers) :
    store.ledger.Turns facility.store.ledger := by
  cases h with
  | deposit hd => exact Ledger.deposit_turns hd
  | withdraw hw => exact Ledger.withdraw_turns hw
  | borrow s => exact Ledger.accrue_lend_turns s.accrues s.lends
  | repay s => exact (Ledger.accrue_turns s.accrues).quiet (Ledger.repay_quiet s.repays)
  | redeem s => exact (Ledger.accrue_turns s.accrues).quiet (Ledger.repay_quiet s.repays)
  | bid s => exact Ledger.accrue_turns s.accrues
  | liquidate s | sell s =>
    have hsettle := Store.settle_quiet s.settles
    exact (Ledger.accrue_turns s.accrues).quiet hsettle
  | buyDebt s | claimDebt s =>
    show store.ledger.Turns s.store'.ledger
    rw [Store.passDebt_ledger s.passes]
    exact (Ledger.Quiet.refl _).turns
  | setMandate | list | bidDebt | cancelListing => exact (Ledger.Quiet.refl _).turns

/-- Every step of a store turns its ledger. -/
lemma Store.Step.turns {store store' : Store} (h : Step store store') :
    store.ledger.Turns store'.ledger := by
  cases h with
  | user h => exact (UserAction.run_serves h).turns
  | operator h => exact (OperatorAction.run_eq_ok h).2.2.2.2.turns
  | accrual h =>
    obtain ⟨_, _, ha, rfl⟩ := Store.accrue_eq_ok h
    exact Ledger.accrue_turns ha

/-! ## Runs -/

/-- The slack of a change in the reserve of an asset; none where there was no reserve. -/
def Ledger.slack (asset : Asset) (before after : Ledger) : Nat :=
  match before.reserves.get? asset, after.reserves.get? asset with
  | some old, some new => old.slack new
  | _, _ => 0

namespace Store

/-- The slack of all steps of a run, the latest store first. -/
def drift (asset : Asset) : List Store → Nat
  | after :: before :: past =>
    drift asset (before :: past) + Ledger.slack asset before.ledger after.ledger
  | _ => 0

/-- Along a run every reserve is backed with the drift of the run. -/
lemma Trail.backed {store : Store} {past : List Store} (h : Trail (store :: past))
    {asset : Asset} {reserve : Reserve}
    (hr : store.ledger.reserves.get? asset = some reserve) :
    reserve.Backed (drift asset (store :: past)) := by
  generalize htrail : store :: past = trail at h
  induction h generalizing store past reserve with
  | created h =>
    cases htrail
    obtain rfl := create_eq_ok h
    cases hr
  | @stepped before after past h hs ih =>
    cases htrail
    rcases hs.turns asset reserve hr with ⟨-, hb⟩ | ⟨old, hold, ht⟩
    · exact hb.mono (Nat.zero_le _)
    · have hslack : Ledger.slack asset before.ledger after.ledger = old.slack reserve := by
        simp only [Ledger.slack, hold, hr]
      rw [drift, hslack]
      exact ht _ (ih hold rfl)

/-- Along every run the suppliers of a reserve may claim at most its idle and invested liquidity,
its debt and the worth, at the supply index, of its losses and the drift of the run. -/
theorem Trail.claims_backed {store : Store} {past : List Store} (h : Trail (store :: past))
    {asset : Asset} {reserve : Reserve}
    (hr : store.ledger.reserves.get? asset = some reserve) :
    ∃ debt, reserve.debt = .ok debt ∧
      reserve.scaledSupply * reserve.supplyIndex / ray ≤
        reserve.idle + reserve.invested + debt +
          (reserve.losses + drift asset (store :: past)) * reserve.supplyIndex / ray := by
  have hb := h.backed hr
  obtain ⟨debt, hdebt, -⟩ := hb.current
  refine ⟨debt, hdebt, ?_⟩
  have hround : rayMul .up reserve.scaledDebt reserve.debtIndex = .ok debt := hdebt
  have howed := le_mulDiv_up hround
  have hcovers := hb.covers
  have hray : 0 < ray := by decide
  have hle : reserve.scaledSupply * reserve.supplyIndex ≤
      (reserve.losses + drift asset (store :: past)) * reserve.supplyIndex +
        ray * (reserve.idle + reserve.invested + debt) := by
    calc reserve.scaledSupply * reserve.supplyIndex
        ≤ reserve.funds * ray + reserve.scaledDebt * reserve.debtIndex +
            reserve.supplyIndex * reserve.losses +
              reserve.supplyIndex * drift asset (store :: past) := hcovers
      _ ≤ reserve.funds * ray + debt * ray + reserve.supplyIndex * reserve.losses +
            reserve.supplyIndex * drift asset (store :: past) := by gcongr
      _ = (reserve.losses + drift asset (store :: past)) * reserve.supplyIndex +
            ray * (reserve.funds + debt) := by ring
  have hdiv := Nat.div_le_div_right hle (c := ray)
  rw [Nat.add_mul_div_left _ _ hray] at hdiv
  omega

end Store

namespace SmallMarket

/-- The price of the first token falls and it is sold for nothing, so that the 300 are lost; after a
loan of 200 on a second token ten years pass. -/
def defaulting : List (Move PriceFeeds NoVault FlatVenue) :=
  [.turn { feeds with floors := feeds.floors.insert art ⟨wad, 0⟩ } {} { venue with proceeds := 0 },
    .call ⟨founder, 0, .user (.sell ⟨art, 1⟩)⟩,
    .turn feeds {} venue,
    .mint ⟨art, 2⟩ borrower,
    .call ⟨borrower, 0, .user (.borrow coin 200 ⟨art, 2⟩ borrower 0)⟩,
    .call ⟨founder, 10 * year, .operator (.setReserveFactor coin 1000)⟩]

/-- At the highest base rate the borrower takes one unit; a second passes, and then ten years. -/
def dusting : List (Move PriceFeeds NoVault FlatVenue) :=
  [.call ⟨supplier, 0, .user (.deposit coin 1000 supplier 0)⟩,
    .call ⟨founder, 0, .operator (.setRateModel coin { base := maxRate })⟩,
    .call ⟨borrower, 0, .user (.borrow coin 1 ⟨art, 1⟩ borrower 0)⟩,
    .call ⟨founder, 1, .operator (.setReserveFactor coin 1000)⟩,
    .call ⟨founder, 10 * year, .operator (.setReserveFactor coin 1000)⟩]

/-- With a drift of one unit the claims after the default are backed. -/
theorem defaulting_backed :
    Store.drift coin (founded.stores [] (setUp ++ lending ++ defaulting)) = 1 ∧
      ∃ reserve debt,
        (founded.follow (setUp ++ lending ++ defaulting)).state.store.ledger.reserves.get? coin =
          some reserve ∧
        reserve.debt = .ok debt ∧
        reserve.scaledSupply * reserve.supplyIndex / ray ≤ reserve.idle + reserve.invested + debt +
          (reserve.losses + 1) * reserve.supplyIndex / ray := by
  have hdrift : Store.drift coin (founded.stores [] (setUp ++ lending ++ defaulting)) = 1 := by
    decide +kernel
  have hcreated : Store.create {} = .ok founded.state.store := by decide +kernel
  have htrail := Pool.trail_stores (.created hcreated) (setUp ++ lending ++ defaulting)
  have hstores : founded.stores [] (setUp ++ lending ++ defaulting) =
      (founded.follow (setUp ++ lending ++ defaulting)).state.store ::
        (founded.stores [] (setUp ++ lending ++ defaulting)).tail := by
    decide +kernel
  obtain ⟨reserve, hr⟩ := Option.isSome_iff_exists.mp (show
    ((founded.follow (setUp ++ lending ++ defaulting)).state.store.ledger.reserves.get?
      coin).isSome = true by decide +kernel)
  rw [hstores] at htrail
  obtain ⟨debt, hdebt, hle⟩ := Store.Trail.claims_backed htrail hr
  rw [← hstores, hdrift] at hle
  exact ⟨hdrift, reserve, debt, hr, hdebt, hle⟩

/-- At face value the recorded losses and the debt do not back the claims: not after a default, nor
without any loss when a debt is rounded up from one unit to two. -/
theorem claims_exceed_face_value :
    ((founded.follow (setUp ++ lending ++ defaulting)).state.store.Reachable ∧
      ∃ reserve ∈ (founded.follow
          (setUp ++ lending ++ defaulting)).state.store.ledger.reserves.get? coin,
        reserve.debt = .ok 258 ∧ reserve.idle + reserve.invested + 258 + reserve.losses = 1058 ∧
          1058 < reserve.scaledSupply * reserve.supplyIndex / ray) ∧
    (founded.follow (setUp ++ dusting)).state.store.Reachable ∧
      ∃ reserve ∈ (founded.follow (setUp ++ dusting)).state.store.ledger.reserves.get? coin,
        reserve.debt = .ok 102 ∧ reserve.idle + reserve.invested + 102 + reserve.losses = 1101 ∧
          1101 < reserve.scaledSupply * reserve.supplyIndex / ray := by
  refine ⟨⟨(founded_reachable _).store, ?_⟩, (founded_reachable _).store, ?_⟩
  · decide +kernel
  · decide +kernel

end SmallMarket

end PooledCredit
