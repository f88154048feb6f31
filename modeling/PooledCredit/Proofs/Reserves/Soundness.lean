import PooledCredit.Proofs.Loans.Underflow
import PooledCredit.Proofs.Reserves.Solvency

/-!
# Sound reserves

A sound reserve has an accepted rate curve and treasury share, indices of at least one ray, and it
is active while it is owed anything. All reserves of a reachable store are sound: an inactive
reserve gives out no loans, and a reserve that is owed something cannot be made inactive.

What a request computes on a sound reserve divides by no zero and never breaks off. An accrual
fails only with an overflow or because its time is past, and paying or writing off a debt that the
reserve is owed only with an overflow.
-/

namespace PooledCredit

/-! ## Single reserves -/

namespace Reserve

/-- The rate curve and the treasury share are accepted ones, both indices are at least one ray, and
the reserve is active while it is owed anything. -/
structure Sound (reserve : Reserve) : Prop where
  curve : reserve.model.validate = .ok ()
  factor : reserve.factor ≤ fullShare
  supplyIndex : ray ≤ reserve.supplyIndex
  debtIndex : ray ≤ reserve.debtIndex
  inUse : reserve.scaledDebt ≠ 0 → reserve.active = true

variable {reserve reserve' : Reserve} {now : Nat} {accrual : Accrual}

/-- An accrual leaves the switches alone. -/
lemma accrue_active (h : reserve.accrue now = .ok (accrual, reserve')) :
    reserve'.active = reserve.active := by
  rcases accrue_eq_ok h with ⟨-, -, rfl⟩ | ⟨-, _, _, _, _, _, -, -, -, -, -, -, -, -, hu⟩
  · rfl
  · obtain ⟨_, _, _, -, -, -, rfl⟩ := refreshRates_eq_ok hu
    rfl

variable {V : Type} [Vault V] {vault vault' : V} {movement : Movement}

/-- A pull leaves the switches alone. -/
lemma pull_active {needed : Nat}
    (h : reserve.pull vault needed = .ok (movement, reserve', vault')) :
    reserve'.active = reserve.active := by
  rcases pull_eq_ok h with ⟨-, rfl, -⟩ | ⟨_, _, _, -, -, hreceive, hu⟩
  · rfl
  · obtain ⟨-, rfl⟩ := receive_eq_ok hreceive
    obtain ⟨_, _, _, -, -, -, rfl⟩ := refreshRates_eq_ok hu
    rfl

namespace Sound

/-- Refreshing the rates keeps a reserve sound. -/
lemma refreshed (h : reserve.Sound) (hu : reserve.refreshRates = .ok reserve') :
    reserve'.Sound := by
  obtain ⟨_, _, _, -, -, -, rfl⟩ := refreshRates_eq_ok hu
  exact ⟨h.curve, h.factor, h.supplyIndex, h.debtIndex, h.inUse⟩

/-- An accrual keeps a reserve sound: neither index falls. -/
lemma accrue (h : reserve.Sound) (ha : reserve.accrue now = .ok (accrual, reserve')) :
    reserve'.Sound := by
  rcases accrue_eq_ok ha with ⟨-, -, rfl⟩ |
    ⟨-, _, _, _, _, _, hsupply, hdebt, -, -, -, -, -, -, hu⟩
  · exact h
  · obtain ⟨_, -, -, hrisen⟩ := supplyIndexAt_eq_ok hsupply
    refine refreshed ?_ hu
    exact ⟨h.curve, h.factor, h.supplyIndex.trans hrisen, h.debtIndex.trans (debtIndexAt_ge hdebt),
      h.inUse⟩

/-- Booking a withdrawal keeps a reserve sound. -/
lemma receive (h : reserve.Sound) {withdrawal : Withdrawal}
    (hr : reserve.receive withdrawal = .ok (movement, reserve')) : reserve'.Sound := by
  obtain ⟨-, rfl⟩ := receive_eq_ok hr
  exact ⟨h.curve, h.factor, h.supplyIndex, h.debtIndex, h.inUse⟩

/-- A pull keeps a reserve sound. -/
lemma pull (h : reserve.Sound) {needed : Nat}
    (hp : reserve.pull vault needed = .ok (movement, reserve', vault')) : reserve'.Sound := by
  rcases pull_eq_ok hp with ⟨-, rfl, -⟩ | ⟨_, _, _, -, -, hreceive, hu⟩
  · exact h
  · exact (h.receive hreceive).refreshed hu

/-- A rebalance keeps a reserve sound. -/
lemma rebalance (h : reserve.Sound)
    (hb : reserve.rebalance vault = .ok (movement, reserve', vault')) : reserve'.Sound := by
  obtain ⟨_, known, last, hk, hu, hmove⟩ := rebalance_eq_ok hb
  have hknown : known.Sound := by
    obtain ⟨-, rfl⟩ := recognize_eq_ok hk
    exact ⟨h.curve, h.factor, h.supplyIndex, h.debtIndex, h.inUse⟩
  refine refreshed ?_ hu
  rcases hmove with ⟨-, rfl, -⟩ | ⟨_, -, -, -, rfl⟩ | ⟨_, _, _, -, -, hreceive, -⟩
  · exact hknown
  · exact ⟨hknown.curve, hknown.factor, hknown.supplyIndex, hknown.debtIndex, hknown.inUse⟩
  · exact hknown.receive hreceive

/-- A reserve that is owed less stays sound. -/
lemma owedLess (h : reserve.Sound) {idle losses scaledDebt : Nat}
    (hle : scaledDebt ≤ reserve.scaledDebt) :
    { reserve with idle, losses, scaledDebt }.Sound where
  curve := h.curve
  factor := h.factor
  supplyIndex := h.supplyIndex
  debtIndex := h.debtIndex
  inUse hne := h.inUse fun hz => hne (Nat.le_zero.mp (hz ▸ hle))

end Sound

end Reserve

/-! ## The ledger -/

namespace Ledger

/-- Every reserve is sound. -/
def Sound (ledger : Ledger) : Prop :=
  ∀ asset reserve, ledger.reserves.get? asset = some reserve → reserve.Sound

variable {ledger ledger' : Ledger} {asset : Asset} {now amount : Nat}

/-- A ledger stays sound when the one reserve that is touched does. -/
lemma Touches.sound {before after : Reserve} (h : Touches asset before after ledger ledger')
    (hl : ledger.Sound) (hkeeps : before.Sound → after.Sound) : ledger'.Sound :=
  h.forall_reserves hl hkeeps

namespace Sound

/-- An accrual keeps the ledger sound. -/
lemma accrue (h : ledger.Sound) {accrual : Accrual}
    (ha : ledger.accrue asset now = .ok (accrual, ledger')) : ledger'.Sound := by
  obtain ⟨_, _, htouch, ha⟩ := accrue_eq_ok ha
  exact htouch.sound h fun hr => hr.accrue ha

/-- A deposit keeps the ledger sound. -/
lemma deposit (h : ledger.Sound) {account : Account} {scaled : Nat}
    (hd : ledger.deposit asset account amount now = .ok (scaled, ledger')) : ledger'.Sound := by
  obtain ⟨_, _, accrued, _, htouch, ha, -, hu⟩ := deposit_eq_ok hd
  refine htouch.sound h fun hr => ?_
  have hr : accrued.Sound := hr.accrue ha
  refine Reserve.Sound.refreshed ?_ hu
  exact ⟨hr.curve, hr.factor, hr.supplyIndex, hr.debtIndex, hr.inUse⟩

/-- A repayment keeps the ledger sound. -/
lemma repay (h : ledger.Sound) {scaled : Nat} {repayment : Repayment}
    (hp : ledger.repay asset scaled amount = .ok (repayment, ledger')) : ledger'.Sound := by
  obtain ⟨_, _, _, htouch, -, -, -, -, -, -, -, hu⟩ := repay_eq_ok hp
  exact htouch.sound h fun hr => (hr.owedLess (Nat.sub_le _ _)).refreshed hu

/-- A write-off keeps the ledger sound. -/
lemma writeOff (h : ledger.Sound) {scaled loss : Nat}
    (hw : ledger.writeOff asset scaled = .ok (loss, ledger')) : ledger'.Sound := by
  obtain ⟨_, _, htouch, -, -, hu⟩ := writeOff_eq_ok hw
  exact htouch.sound h fun hr => (hr.owedLess (Nat.sub_le _ _)).refreshed hu

variable {V : Type} [Vault V] {vault vault' : V}

/-- A withdrawal keeps the ledger sound. -/
lemma withdraw (h : ledger.Sound) {owner : Account} {paid : Nat} {movement : Movement}
    (hw : ledger.withdraw vault asset owner amount now = .ok (paid, movement, ledger', vault')) :
    ledger'.Sound := by
  obtain ⟨_, _, _, pulled, _, _, htouch, ha, hp, -, -, -, hu⟩ := withdraw_eq_ok hw
  refine htouch.sound h fun hr => ?_
  have hr : pulled.Sound := (hr.accrue ha).pull hp
  refine Reserve.Sound.refreshed ?_ hu
  exact ⟨hr.curve, hr.factor, hr.supplyIndex, hr.debtIndex, hr.inUse⟩

/-- Lending keeps the ledger sound: only an active reserve lends. -/
lemma lend (h : ledger.Sound) {scaled : Nat}
    (hl : ledger.lend vault asset amount now = .ok (scaled, ledger', vault')) :
    ledger'.Sound := by
  have hactive : ∃ reserve, ledger.reserves.get? asset = some reserve ∧ reserve.active = true := by
    simp only [Ledger.lend, Ledger.reserve, Reserve.requireBorrowable, Reserve.requireActive,
      bind_eq_ok, require_eq_ok, exists_const, orRefuse_eq_ok] at hl
    obtain ⟨-, reserve, hr, ⟨hactive, -⟩, -⟩ := hl
    exact ⟨reserve, hr, hactive⟩
  obtain ⟨_, reserve, accrued, _, pulled, _, htouch, -, ha, hp, -, -, hu⟩ := lend_eq_ok hl
  obtain ⟨_, hfound, hactive⟩ := hactive
  obtain rfl := Option.some.inj (htouch.old.symm.trans hfound)
  refine htouch.sound h fun hr => ?_
  have hr : pulled.Sound := (hr.accrue ha).pull hp
  have hlends : pulled.active = true := by
    rw [Reserve.pull_active hp, Reserve.accrue_active ha]
    exact hactive
  refine Reserve.Sound.refreshed ?_ hu
  exact ⟨hr.curve, hr.factor, hr.supplyIndex, hr.debtIndex, fun _ => hlends⟩

/-- Administering the ledger keeps it sound: what is laid down is checked before, and a reserve in
use stays active. -/
lemma administered (h : ledger.Sound) (ha : ledger.Administered V ledger') : ledger'.Sound := by
  cases ha with
  | same => exact h
  | @opened _ asset terms _ ho =>
    obtain ⟨reserve, -, hv, hr, rfl⟩ := openReserve_eq_ok ho
    simp only [ReserveTerms.validate, bind_eq_ok, require_eq_ok, exists_const] at hv
    obtain ⟨-, hfactor, -, hcurve⟩ := hv
    have hnew : reserve.Sound := by
      refine Reserve.Sound.refreshed ?_ hr
      exact ⟨hcurve, hfactor, Nat.le_refl ray, Nat.le_refl ray, fun _ => rfl⟩
    exact forall_setReserve h hnew
  | switched hs =>
    simp only [setFlags, Ledger.reserve, bind_eq_ok, require_eq_ok, exists_const, orRefuse_eq_ok,
      pure_eq_ok] at hs
    obtain ⟨reserve, hr, hguard, rfl⟩ := hs
    refine (touches_setReserve hr _).sound h fun hsound => ?_
    refine ⟨hsound.curve, hsound.factor, hsound.supplyIndex, hsound.debtIndex, fun hne => ?_⟩
    exact hguard.resolve_right fun hidle => hne hidle.2
  | factored hf =>
    obtain ⟨_, _, accrued, _, htouch, hle, ha, hu⟩ := setFactor_eq_ok hf
    refine htouch.sound h fun hr => ?_
    have hr : accrued.Sound := hr.accrue ha
    refine Reserve.Sound.refreshed ?_ hu
    exact ⟨hr.curve, hle, hr.supplyIndex, hr.debtIndex, hr.inUse⟩
  | remodelled hm =>
    obtain ⟨_, _, accrued, _, htouch, hv, ha, hu⟩ := setModel_eq_ok hm
    refine htouch.sound h fun hr => ?_
    have hr : accrued.Sound := hr.accrue ha
    refine Reserve.Sound.refreshed ?_ hu
    exact ⟨hv, hr.factor, hr.supplyIndex, hr.debtIndex, hr.inUse⟩
  | shared hs =>
    obtain ⟨_, htouch, -⟩ := setVaultShare_eq_ok hs
    exact htouch.sound h fun hr =>
      ⟨hr.curve, hr.factor, hr.supplyIndex, hr.debtIndex, hr.inUse⟩
  | rebalanced ha hb =>
    obtain ⟨_, _, htouch, hb⟩ := rebalance_eq_ok hb
    exact htouch.sound (h.accrue ha) fun hr => hr.rebalance hb

end Sound

end Ledger

/-! ## Stores -/

namespace Store

variable {store store' : Store}

/-- A settlement keeps the ledger sound. -/
lemma settle_sound (h : store.ledger.Sound) {loan : Loan} {proceeds now : Nat}
    {winner : Option Account} {settlement : Settlement} {transfers : List Transfer}
    (hs : store.settle loan proceeds winner now = .ok (settlement, store', transfers)) :
    store'.ledger.Sound := by
  obtain ⟨s, -, rfl, -⟩ := settle_eq_ok hs
  have hrepaid : s.repaid.Sound := by
    rcases s.repays with ⟨-, -, hledger⟩ | ⟨_, -, hp, -⟩
    · rw [hledger]
      exact h
    · exact h.repay hp
  rcases s.writesOff with ⟨-, -, hledger⟩ | ⟨-, hw⟩
  · show s.settled.Sound
    rw [hledger]
    exact hrepaid
  · exact hrepaid.writeOff hw

end Store

/-- Every user's action keeps the ledger sound. -/
lemma UserAction.Serves.sound {O V N : Type} [PriceSource O] [Vault V] [Venue N]
    {action : UserAction} {prices : O} {store : Store} {vault : V} {venue : N}
    {facility : Facility V N} {caller : Account} {now : Nat} {transfers : List Transfer}
    (hs : action.Serves prices store vault venue caller now facility transfers)
    (h : store.ledger.Sound) : facility.store.ledger.Sound := by
  cases hs with
  | deposit hd => exact h.deposit hd
  | withdraw hw => exact h.withdraw hw
  | borrow s => exact (h.accrue s.accrues).lend s.lends
  | repay s => exact (h.accrue s.accrues).repay s.repays
  | redeem s => exact (h.accrue s.accrues).repay s.repays
  | bid s => exact h.accrue s.accrues
  | liquidate s | sell s => exact Store.settle_sound (h.accrue s.accrues) s.settles
  | buyDebt s | claimDebt s =>
    show s.store'.ledger.Sound
    rw [Store.passDebt_ledger s.passes]
    exact h
  | setMandate | list | bidDebt | cancelListing => exact h

namespace Store

variable {store store' : Store}

/-- Every step keeps the ledger sound. -/
lemma Step.sound (hs : Step store store') (h : store.ledger.Sound) : store'.ledger.Sound := by
  cases hs with
  | user hrun => exact (UserAction.run_serves hrun).sound h
  | operator hrun => exact h.administered (OperatorAction.run_eq_ok hrun).2.2.2.2
  | accrual ha =>
    obtain ⟨_, _, hledger, rfl⟩ := accrue_eq_ok ha
    exact h.accrue hledger

/-- All reserves of a reachable store are sound. -/
theorem Reachable.sound (h : store.Reachable) : store.ledger.Sound := by
  refine h.invariant ?_ fun _ _ _ hi hs => hs.sound hi
  intro settings store hc
  obtain rfl := create_eq_ok hc
  exact Ledger.forall_no_reserves settings.treasury

end Store

/-! ## What can fail

`p` is any set of failures that contains the overflow. -/

section Failures

variable {p : Failure → Prop} (ho : p (.refused .overflow))
include ho

/-- A product with a ray fails only with an overflow. -/
lemma failsOnly_rayMul (round : Rounding) (a b : Nat) : FailsOnly p (rayMul round a b) :=
  failsOnly_mulDiv ho nofun

/-- A quotient by at least one ray fails only with an overflow. -/
lemma failsOnly_rayDiv (round : Rounding) (a : Nat) {b : Nat} (hb : ray ≤ b) :
    FailsOnly p (rayDiv round a b) := by
  refine failsOnly_mulDiv ho fun hz => ?_
  rw [hz] at hb
  exact absurd hb (by decide)

/-- Taking a share fails only with an overflow. -/
lemma failsOnly_shareOf (round : Rounding) (value bps : Nat) :
    FailsOnly p (shareOf round value bps) := failsOnly_mulDiv ho nofun

/-- The growth of an index over a time that has passed fails only with an overflow. -/
lemma failsOnly_linearGrowth {rate last now : Nat} (hle : last ≤ now) :
    FailsOnly p (linearGrowth rate last now) := by
  refine FailsOnly.bind (failsOnly_require fun hc => absurd hle hc) fun _ _ => ?_
  refine (failsOnly_bareSub hle).bind fun _ _ => ?_
  exact FailsOnly.bind (failsOnly_mulDiv ho nofun) fun _ _ => failsOnly_addAmount ho _ _

/-- The share of the funds that is lent out fails only with an overflow. -/
lemma failsOnly_utilization (liquidity debt : Nat) : FailsOnly p (utilization liquidity debt) := by
  refine failsOnly_ite (fun _ => failsOnly_ok _) fun hdebt => ?_
  refine (failsOnly_addAmount ho _ _).bind fun total htotal => failsOnly_mulDiv ho fun hz => ?_
  obtain ⟨-, rfl⟩ := addAmount_eq_ok.mp htotal
  omega

namespace RateModel

/-- The borrow rate of a curve fails only with an overflow: no more than all funds are lent out,
so above the optimal utilization there is room left. -/
lemma failsOnly_borrowRate {model : RateModel} (hoptimal : model.optimal ≠ 0) {used : Nat}
    (hused : used ≤ ray) : FailsOnly p (model.borrowRate used) := by
  refine failsOnly_ite (fun _ => ?_) fun hsteep => ?_
  · refine FailsOnly.bind (failsOnly_mulDiv ho fun hz => absurd hz hoptimal) fun _ _ => ?_
    exact failsOnly_addAmount ho _ _
  · have hbelow : model.optimal < ray := Nat.lt_of_lt_of_le (Nat.lt_of_not_le hsteep) hused
    have hroom : bareSub ray model.optimal = .ok (ray - model.optimal) := if_pos hbelow.le
    refine (failsOnly_bareSub (Nat.le_of_not_le hsteep)).bind fun _ _ => ?_
    refine FailsOnly.bind_of_ok hroom ?_
    refine FailsOnly.bind (failsOnly_mulDiv ho fun hz => ?_) fun _ _ => ?_
    · exact absurd hz (Nat.sub_ne_zero_of_lt hbelow)
    refine (failsOnly_rayMul ho _ _ _).bind fun _ _ => ?_
    exact (failsOnly_addAmount ho _ _).bind fun _ _ => failsOnly_addAmount ho _ _

/-- The rates of an accepted curve fail only with an overflow. -/
lemma failsOnly_rates {model : RateModel} {factor : Nat} (hv : model.validate = .ok ())
    (hf : factor ≤ fullShare) (liquidity debt : Nat) :
    FailsOnly p (model.rates liquidity debt factor) := by
  simp only [validate, bind_eq_ok, require_eq_ok, exists_const] at hv
  obtain ⟨⟨hoptimal, -⟩, -⟩ := hv
  have hkept : bareSub fullShare factor = .ok (fullShare - factor) := if_pos hf
  unfold rates
  refine (failsOnly_utilization ho _ _).bind fun used hused => ?_
  refine (failsOnly_borrowRate ho hoptimal (utilization_le_ray hused)).bind fun _ _ => ?_
  refine (failsOnly_rayMul ho _ _ _).bind fun _ _ => ?_
  refine FailsOnly.bind_of_ok hkept ?_
  exact (failsOnly_shareOf ho _ _ _).bind fun _ _ => failsOnly_pure _

end RateModel

namespace Reserve

variable {reserve : Reserve}

/-- Sizing a scaled debt fails only with an overflow. -/
lemma failsOnly_debtOf (reserve : Reserve) (scaled : Nat) :
    FailsOnly p (reserve.debtOf scaled) := failsOnly_rayMul ho _ _ _

/-- With an accepted curve and treasury share, refreshing the rates fails only with an overflow. -/
lemma failsOnly_refreshRates (hcurve : reserve.model.validate = .ok ())
    (hfactor : reserve.factor ≤ fullShare) : FailsOnly p reserve.refreshRates := by
  refine (failsOnly_addAmount ho _ _).bind fun _ _ => ?_
  refine (failsOnly_debtOf ho _ _).bind fun _ _ => ?_
  exact (RateModel.failsOnly_rates ho hcurve hfactor _ _).bind fun _ _ => failsOnly_pure _

namespace Sound

/-- An accrual of a sound reserve fails only with an overflow, or because its time is past. -/
lemma failsOnly_accrue (h : reserve.Sound) {now : Nat}
    (hpast : now < reserve.updatedAt → p (.refused (.timeBackwards reserve.updatedAt now))) :
    FailsOnly p (reserve.accrue now) := by
  refine FailsOnly.bind (failsOnly_require fun hc => hpast (Nat.lt_of_not_le hc)) fun _ hle => ?_
  have hle := require_eq_ok.mp hle
  refine failsOnly_ite (fun _ => failsOnly_pure _) fun _ => ?_
  refine FailsOnly.bind ?_ fun supplyIndex hsupply => ?_
  · exact failsOnly_ite (fun _ => failsOnly_ok _) fun _ =>
      (failsOnly_linearGrowth ho hle).bind fun _ _ => failsOnly_rayMul ho _ _ _
  refine FailsOnly.bind ?_ fun debtIndex hdebt => ?_
  · exact failsOnly_ite (fun _ => failsOnly_ok _) fun _ =>
      (failsOnly_linearGrowth ho hle).bind fun _ _ => failsOnly_rayMul ho _ _ _
  obtain ⟨_, -, -, hrisen⟩ := supplyIndexAt_eq_ok hsupply
  have hsupply : ray ≤ supplyIndex := h.supplyIndex.trans hrisen
  refine (failsOnly_debtOf ho _ _).bind fun before hbefore => ?_
  refine (failsOnly_rayMul ho _ _ _).bind fun after hafter => ?_
  -- the debt does not shrink when its index grows
  have howed : mulDiv .up reserve.scaledDebt reserve.debtIndex ray = .ok before := hbefore
  have hgrown : before ≤ after := mulDiv_up_mono (Nat.le_refl _) (debtIndexAt_ge hdebt) howed hafter
  refine (failsOnly_subAmount hgrown).bind fun _ _ => ?_
  refine (failsOnly_shareOf ho _ _ _).bind fun _ _ => ?_
  refine (failsOnly_rayDiv ho _ _ hsupply).bind fun _ _ => ?_
  refine (failsOnly_addAmount ho _ _).bind fun _ _ => ?_
  exact FailsOnly.bind (failsOnly_refreshRates ho h.curve h.factor) fun _ _ => failsOnly_pure _

end Sound

end Reserve

namespace Ledger.Sound

variable {ledger : Ledger} {asset : Asset} {reserve : Reserve}

/-- An accrual in a sound ledger fails only with an overflow, or because its time is past. -/
lemma failsOnly_accrue (h : ledger.Sound) (hr : ledger.reserves.get? asset = some reserve)
    {now : Nat}
    (hpast : now < reserve.updatedAt → p (.refused (.timeBackwards reserve.updatedAt now))) :
    FailsOnly p (ledger.accrue asset now) := by
  refine FailsOnly.bind_of_ok (orRefuse_eq_ok.mpr hr) ?_
  refine ((h asset reserve hr).failsOnly_accrue ho hpast).bind fun _ _ => ?_
  refine failsOnly_ite (fun _ => failsOnly_pure _) fun _ => ?_
  refine FailsOnly.bind ?_ fun _ _ => failsOnly_pure _
  exact (failsOnly_addAmount ho _ _).bind fun _ _ => failsOnly_pure _

/-- Paying a debt that a sound ledger is owed fails only with an overflow. -/
lemma failsOnly_repay (h : ledger.Sound) (hr : ledger.reserves.get? asset = some reserve)
    {scaled amount : Nat} (hle : scaled ≤ reserve.scaledDebt) (hne : amount ≠ 0) :
    FailsOnly p (ledger.repay asset scaled amount) := by
  have hsound := h asset reserve hr
  refine FailsOnly.bind_of_holds hne ?_
  refine FailsOnly.bind_of_ok (orRefuse_eq_ok.mpr hr) ?_
  refine (Reserve.failsOnly_debtOf ho _ _).bind fun debt hdebt => ?_
  simp only [ite_bind]
  refine FailsOnly.bind ?_ fun burned hburned => ?_
  · refine failsOnly_ite (fun _ => failsOnly_pure _) fun _ => ?_
    exact failsOnly_rayDiv ho _ _ hsound.debtIndex
  have hpart : burned ≤ scaled := burned_le hdebt (Nat.min_le_right _ _) hburned
  refine (failsOnly_addAmount ho _ _).bind fun _ _ => ?_
  refine (failsOnly_subAmount (hpart.trans hle)).bind fun _ _ => ?_
  refine FailsOnly.bind (Reserve.failsOnly_refreshRates ho hsound.curve hsound.factor)
    fun _ _ => ?_
  have hremaining : bareSub scaled burned = .ok (scaled - burned) := if_pos hpart
  exact FailsOnly.bind_of_ok hremaining (failsOnly_pure _)

/-- Writing off a debt that a sound ledger is owed fails only with an overflow. -/
lemma failsOnly_writeOff (h : ledger.Sound) (hr : ledger.reserves.get? asset = some reserve)
    {scaled : Nat} (hle : scaled ≤ reserve.scaledDebt) :
    FailsOnly p (ledger.writeOff asset scaled) := by
  have hsound := h asset reserve hr
  refine FailsOnly.bind_of_ok (orRefuse_eq_ok.mpr hr) ?_
  refine (Reserve.failsOnly_debtOf ho _ _).bind fun _ _ => ?_
  refine (failsOnly_subAmount hle).bind fun _ _ => ?_
  refine (failsOnly_addAmount ho _ _).bind fun _ _ => ?_
  refine FailsOnly.bind (Reserve.failsOnly_refreshRates ho hsound.curve hsound.factor)
    fun _ _ => ?_
  exact failsOnly_pure _

end Ledger.Sound

end Failures

end PooledCredit
