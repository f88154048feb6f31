import PooledCredit.Proofs.Reserves.Solvency

/-!
# What is laid down for a reserve

Next to the balances that requests move, a reserve keeps what operators lay down for it: its
switches, its treasury share, its rate curve and the share of its liquidity that the vault may hold.
The requests of users accrue, pull, repay and write off, and each of these computes a new reserve
from the old one by changing balances, indices, rates or the clock. So none of them opens a reserve
or changes anything that is laid down for one.
-/

namespace PooledCredit

/-! ## Single reserves -/

/-- What is laid down for a reserve, apart from the share that the vault may hold. -/
structure ReserveSetup where
  decimals : Nat
  factor : Nat
  model : RateModel
  active : Bool
  frozen : Bool
  borrowing : Bool
deriving DecidableEq

namespace Reserve

/-- What is laid down for a reserve. -/
def setup (reserve : Reserve) : ReserveSetup where
  decimals := reserve.decimals
  factor := reserve.factor
  model := reserve.model
  active := reserve.active
  frozen := reserve.frozen
  borrowing := reserve.borrowing

/-- A change of a reserve that leaves alone what is laid down for it. -/
structure SameTerms (before after : Reserve) : Prop where
  setup : after.setup = before.setup
  vaultShare : after.vaultShare = before.vaultShare

variable {reserve reserve' before middle after : Reserve} {now : Nat}

/-- No change leaves the terms alone. -/
lemma SameTerms.refl (reserve : Reserve) : reserve.SameTerms reserve := ⟨rfl, rfl⟩

/-- Two changes that leave the terms alone are one. -/
lemma SameTerms.trans (h : before.SameTerms middle) (h' : middle.SameTerms after) :
    before.SameTerms after :=
  ⟨h'.setup.trans h.setup, h'.vaultShare.trans h.vaultShare⟩

/-- A change that leaves the terms alone still does once the rates are refreshed. -/
lemma refreshRates_sameTerms (hu : middle.refreshRates = .ok after)
    (h : before.SameTerms middle) : before.SameTerms after := by
  obtain ⟨_, _, _, -, -, -, rfl⟩ := refreshRates_eq_ok hu
  exact ⟨h.setup, h.vaultShare⟩

/-- An accrual leaves the terms alone. -/
lemma accrue_sameTerms {accrual : Accrual} (h : reserve.accrue now = .ok (accrual, reserve')) :
    reserve.SameTerms reserve' := by
  rcases accrue_eq_ok h with ⟨-, -, rfl⟩ | ⟨-, _, _, _, _, _, -, -, -, -, -, -, -, -, hu⟩
  · exact .refl _
  · exact refreshRates_sameTerms hu ⟨rfl, rfl⟩

/-- Booking a withdrawal leaves the terms alone. -/
lemma receive_sameTerms {withdrawal : Withdrawal} {movement : Movement}
    (h : reserve.receive withdrawal = .ok (movement, reserve')) : reserve.SameTerms reserve' := by
  obtain ⟨-, rfl⟩ := receive_eq_ok h
  exact ⟨rfl, rfl⟩

variable {V : Type} [Vault V] {vault vault' : V} {movement : Movement}

/-- A pull leaves the terms alone. -/
lemma pull_sameTerms {needed : Nat}
    (h : reserve.pull vault needed = .ok (movement, reserve', vault')) :
    reserve.SameTerms reserve' := by
  rcases pull_eq_ok h with ⟨-, rfl, -⟩ | ⟨_, _, received, -, -, hreceive, hu⟩
  · exact .refl _
  · exact refreshRates_sameTerms hu (receive_sameTerms hreceive)

/-- A rebalance leaves the terms alone. -/
lemma rebalance_sameTerms (h : reserve.rebalance vault = .ok (movement, reserve', vault')) :
    reserve.SameTerms reserve' := by
  obtain ⟨loss, known, last, hk, hu, hmove⟩ := rebalance_eq_ok h
  obtain ⟨-, rfl⟩ := recognize_eq_ok hk
  refine refreshRates_sameTerms hu ?_
  rcases hmove with ⟨-, rfl, -⟩ | ⟨_, -, -, -, rfl⟩ | ⟨_, _, _, -, -, hreceive, -⟩
  · exact ⟨rfl, rfl⟩
  · exact ⟨rfl, rfl⟩
  · exact ⟨(receive_sameTerms hreceive).setup, (receive_sameTerms hreceive).vaultShare⟩

end Reserve

/-! ## The ledger -/

namespace Ledger

/-- What is laid down for the reserve of an asset, if there is one. -/
def setupOf (ledger : Ledger) (asset : Asset) : Option ReserveSetup :=
  (ledger.reserves.get? asset).map Reserve.setup

/-- The share of the liquidity in an asset that the vault may hold, if there is a reserve. -/
def vaultShareOf (ledger : Ledger) (asset : Asset) : Option Nat :=
  (ledger.reserves.get? asset).map Reserve.vaultShare

/-- Two ledgers have reserves for the same assets, on the same terms. -/
structure SameTerms (ledger ledger' : Ledger) : Prop where
  setup : ∀ asset, ledger'.setupOf asset = ledger.setupOf asset
  vaultShare : ∀ asset, ledger'.vaultShareOf asset = ledger.vaultShareOf asset

variable {ledger middle ledger' : Ledger} {asset : Asset} {now amount : Nat}

/-- No change leaves the terms alone. -/
lemma SameTerms.refl (ledger : Ledger) : ledger.SameTerms ledger := ⟨fun _ => rfl, fun _ => rfl⟩

/-- Two changes that leave the terms alone are one. -/
lemma SameTerms.trans (h : ledger.SameTerms middle) (h' : middle.SameTerms ledger') :
    ledger.SameTerms ledger' where
  setup asset := (h'.setup asset).trans (h.setup asset)
  vaultShare asset := (h'.vaultShare asset).trans (h.vaultShare asset)

/-- Whatever is read off the reserves stays the same when it does for the one that is touched. -/
lemma Touches.map_eq {α : Type} {before after : Reserve}
    (h : Touches asset before after ledger ledger') {f : Reserve → α} (hf : f after = f before)
    (other : Asset) :
    (ledger'.reserves.get? other).map f = (ledger.reserves.get? other).map f := by
  by_cases hother : other = asset
  · rw [hother, h.new, h.old]
    exact congrArg some hf
  · rw [h.others other hother]

/-- The terms of all reserves stay when those of the one reserve that is touched do. -/
lemma Touches.sameTerms {before after : Reserve} (h : Touches asset before after ledger ledger')
    (hs : before.SameTerms after) : ledger.SameTerms ledger' :=
  ⟨h.map_eq hs.setup, h.map_eq hs.vaultShare⟩

/-- An accrual leaves the terms alone. -/
lemma accrue_sameTerms {accrual : Accrual} (h : ledger.accrue asset now = .ok (accrual, ledger')) :
    ledger.SameTerms ledger' := by
  obtain ⟨_, _, htouch, ha⟩ := accrue_eq_ok h
  exact htouch.sameTerms (Reserve.accrue_sameTerms ha)

/-- A deposit leaves the terms alone. -/
lemma deposit_sameTerms {account : Account} {scaled : Nat}
    (h : ledger.deposit asset account amount now = .ok (scaled, ledger')) :
    ledger.SameTerms ledger' := by
  obtain ⟨_, _, accrued, _, htouch, ha, -, hu⟩ := deposit_eq_ok h
  have haccrued := Reserve.accrue_sameTerms ha
  exact htouch.sameTerms (Reserve.refreshRates_sameTerms hu ⟨haccrued.setup, haccrued.vaultShare⟩)

variable {V : Type} [Vault V] {vault vault' : V}

/-- A withdrawal leaves the terms alone. -/
lemma withdraw_sameTerms {owner : Account} {paid : Nat} {movement : Movement}
    (h : ledger.withdraw vault asset owner amount now = .ok (paid, movement, ledger', vault')) :
    ledger.SameTerms ledger' := by
  obtain ⟨_, _, accrued, pulled, _, _, htouch, ha, hp, -, -, -, hu⟩ := withdraw_eq_ok h
  have hpulled := (Reserve.accrue_sameTerms ha).trans (Reserve.pull_sameTerms hp)
  exact htouch.sameTerms (Reserve.refreshRates_sameTerms hu ⟨hpulled.setup, hpulled.vaultShare⟩)

/-- Lending leaves the terms alone. -/
lemma lend_sameTerms {scaled : Nat}
    (h : ledger.lend vault asset amount now = .ok (scaled, ledger', vault')) :
    ledger.SameTerms ledger' := by
  obtain ⟨_, _, accrued, _, pulled, _, htouch, -, ha, hp, -, -, hu⟩ := lend_eq_ok h
  have hpulled := (Reserve.accrue_sameTerms ha).trans (Reserve.pull_sameTerms hp)
  exact htouch.sameTerms (Reserve.refreshRates_sameTerms hu ⟨hpulled.setup, hpulled.vaultShare⟩)

/-- A repayment leaves the terms alone. -/
lemma repay_sameTerms {scaled : Nat} {repayment : Repayment}
    (h : ledger.repay asset scaled amount = .ok (repayment, ledger')) :
    ledger.SameTerms ledger' := by
  obtain ⟨_, _, _, htouch, -, -, -, -, -, -, -, hu⟩ := repay_eq_ok h
  exact htouch.sameTerms (Reserve.refreshRates_sameTerms hu ⟨rfl, rfl⟩)

/-- A write-off leaves the terms alone. -/
lemma writeOff_sameTerms {scaled loss : Nat}
    (h : ledger.writeOff asset scaled = .ok (loss, ledger')) : ledger.SameTerms ledger' := by
  obtain ⟨_, _, htouch, -, -, hu⟩ := writeOff_eq_ok h
  exact htouch.sameTerms (Reserve.refreshRates_sameTerms hu ⟨rfl, rfl⟩)

/-- A rebalance leaves the terms alone. -/
lemma rebalance_sameTerms {movement : Movement}
    (h : ledger.rebalance vault asset = .ok (movement, ledger', vault')) :
    ledger.SameTerms ledger' := by
  obtain ⟨_, _, htouch, hb⟩ := rebalance_eq_ok h
  exact htouch.sameTerms (Reserve.rebalance_sameTerms hb)

/-- A new vault share leaves everything else that is laid down alone. -/
lemma setVaultShare_setupOf {bps : Nat} (h : ledger.setVaultShare asset bps = .ok ledger')
    (other : Asset) : ledger'.setupOf other = ledger.setupOf other := by
  obtain ⟨_, htouch, -⟩ := setVaultShare_eq_ok h
  exact htouch.map_eq rfl other

end Ledger

/-! ## Requests -/

/-- A settlement leaves the terms alone. -/
lemma Store.settle_sameTerms {store store' : Store} {loan : Loan} {proceeds now : Nat}
    {winner : Option Account} {settlement : Settlement} {transfers : List Transfer}
    (h : store.settle loan proceeds winner now = .ok (settlement, store', transfers)) :
    store.ledger.SameTerms store'.ledger := by
  obtain ⟨s, -, rfl, -⟩ := settle_eq_ok h
  have hrepaid : store.ledger.SameTerms s.repaid := by
    rcases s.repays with ⟨-, -, hledger⟩ | ⟨_, -, hp, -⟩
    · rw [hledger]
      exact .refl _
    · exact Ledger.repay_sameTerms hp
  refine hrepaid.trans ?_
  rcases s.writesOff with ⟨-, -, hledger⟩ | ⟨-, hw⟩
  · show s.repaid.SameTerms s.settled
    rw [hledger]
    exact .refl _
  · exact Ledger.writeOff_sameTerms hw

/-- No user's action opens a reserve or changes the terms of one. -/
lemma UserAction.Serves.sameTerms {O V N : Type} [PriceSource O] [Vault V] [Venue N]
    {action : UserAction} {prices : O} {store : Store} {vault : V} {venue : N}
    {facility : Facility V N} {caller : Account} {now : Nat} {transfers : List Transfer}
    (h : action.Serves prices store vault venue caller now facility transfers) :
    store.ledger.SameTerms facility.store.ledger := by
  cases h with
  | deposit hd => exact Ledger.deposit_sameTerms hd
  | withdraw hw => exact Ledger.withdraw_sameTerms hw
  | borrow s => exact (Ledger.accrue_sameTerms s.accrues).trans (Ledger.lend_sameTerms s.lends)
  | repay s => exact (Ledger.accrue_sameTerms s.accrues).trans (Ledger.repay_sameTerms s.repays)
  | redeem s => exact (Ledger.accrue_sameTerms s.accrues).trans (Ledger.repay_sameTerms s.repays)
  | bid s => exact Ledger.accrue_sameTerms s.accrues
  | liquidate s | sell s =>
    exact (Ledger.accrue_sameTerms s.accrues).trans (Store.settle_sameTerms s.settles)
  | buyDebt s | claimDebt s =>
    show store.ledger.SameTerms s.store'.ledger
    rw [Store.passDebt_ledger s.passes]
    exact .refl _
  | setMandate | list | bidDebt | cancelListing => exact .refl _

end PooledCredit
