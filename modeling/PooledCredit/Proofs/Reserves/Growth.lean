import PooledCredit.Proofs.Reserves.Solvency

/-!
# What never goes back in a reserve

No operation of the ledger removes a reserve, lowers one of its indices, turns back its clock or
forgets a loss. So whatever happens to a store, a scaled debt that stays the same amounts to at
least what it amounted to before. The two indices start level and stay in order: while the rates
are those of the present balances, suppliers earn at most the borrow rate, and nothing where
there is no debt, and the supply index is rounded down where the debt index is rounded up.
-/

namespace PooledCredit

namespace Reserve

/-- The indices are in order, and the rates that they grow by are those of the present balances. -/
structure Ordered (reserve : Reserve) : Prop where
  grown : ray ≤ reserve.supplyIndex
  order : reserve.supplyIndex ≤ reserve.debtIndex
  current : reserve.Current

/-- A change that leaves the indices and the clock alone and forgets no loss. -/
structure Steady (before after : Reserve) : Prop where
  supplyIndex : after.supplyIndex = before.supplyIndex
  debtIndex : after.debtIndex = before.debtIndex
  updatedAt : after.updatedAt = before.updatedAt
  losses : before.losses ≤ after.losses

/-- A change after which no index is lower, the clock is not earlier, no loss is forgotten and the
indices are in order if they were before. -/
structure Ages (before after : Reserve) : Prop where
  supplyIndex : before.supplyIndex ≤ after.supplyIndex
  debtIndex : before.debtIndex ≤ after.debtIndex
  updatedAt : before.updatedAt ≤ after.updatedAt
  losses : before.losses ≤ after.losses
  ordered : before.Ordered → after.Ordered

variable {reserve reserve' before middle changed after : Reserve} {now : Nat}

/-! ## Changes without an accrual -/

/-- No change is steady. -/
lemma Steady.refl (reserve : Reserve) : reserve.Steady reserve :=
  ⟨rfl, rfl, rfl, Nat.le_refl _⟩

/-- Two steady changes are one. -/
lemma Steady.trans (h : before.Steady middle) (h' : middle.Steady after) : before.Steady after where
  supplyIndex := h'.supplyIndex.trans h.supplyIndex
  debtIndex := h'.debtIndex.trans h.debtIndex
  updatedAt := h'.updatedAt.trans h.updatedAt
  losses := h.losses.trans h'.losses

/-- A steady change ages a reserve if it keeps the rates current. -/
lemma Steady.ages (h : before.Steady after) (hcurrent : before.Current → after.Current) :
    before.Ages after where
  supplyIndex := h.supplyIndex.ge
  debtIndex := h.debtIndex.ge
  updatedAt := h.updatedAt.ge
  losses := h.losses
  ordered hordered := {
    grown := h.supplyIndex.symm ▸ hordered.grown
    order := by
      rw [h.supplyIndex, h.debtIndex]
      exact hordered.order
    current := hcurrent hordered.current }

/-- No change ages a reserve. -/
lemma Ages.refl (reserve : Reserve) : reserve.Ages reserve := (Steady.refl reserve).ages id

/-- Two changes that age a reserve are one. -/
lemma Ages.trans (h : before.Ages middle) (h' : middle.Ages after) : before.Ages after where
  supplyIndex := h.supplyIndex.trans h'.supplyIndex
  debtIndex := h.debtIndex.trans h'.debtIndex
  updatedAt := h.updatedAt.trans h'.updatedAt
  losses := h.losses.trans h'.losses
  ordered := h'.ordered ∘ h.ordered

/-- Refreshing the rates is steady. -/
lemma refreshRates_steady (hu : reserve.refreshRates = .ok reserve') : reserve.Steady reserve' := by
  obtain ⟨_, _, _, -, -, -, rfl⟩ := refreshRates_eq_ok hu
  exact ⟨rfl, rfl, rfl, Nat.le_refl _⟩

/-- A steady change ages a reserve once the rates are refreshed. -/
lemma refreshRates_ages (hu : middle.refreshRates = .ok after) (h : before.Steady middle) :
    before.Ages after :=
  (h.trans (refreshRates_steady hu)).ages fun _ => refreshRates_current hu

/-- Booking a withdrawal records its loss. -/
lemma receive_steady {withdrawal : Withdrawal} {movement : Movement}
    (h : reserve.receive withdrawal = .ok (movement, reserve')) : reserve.Steady reserve' := by
  obtain ⟨-, rfl⟩ := receive_eq_ok h
  exact ⟨rfl, rfl, rfl, Nat.le_add_right _ _⟩

/-- Recognizing a report records the loss in it. -/
lemma recognize_steady {report : VaultReport} {loss : Nat}
    (h : reserve.recognize report = .ok (loss, reserve')) : reserve.Steady reserve' := by
  obtain ⟨-, rfl⟩ := recognize_eq_ok h
  exact ⟨rfl, rfl, rfl, Nat.le_add_right _ _⟩

variable {V : Type} [Vault V] {vault vault' : V} {movement : Movement}

/-- A pull accrues nothing. -/
lemma pull_ages {needed : Nat} (h : reserve.pull vault needed = .ok (movement, reserve', vault')) :
    reserve.Ages reserve' := by
  rcases pull_eq_ok h with ⟨-, rfl, -⟩ | ⟨_, _, received, -, -, hreceive, hu⟩
  · exact .refl _
  · exact refreshRates_ages hu (receive_steady hreceive)

/-- A rebalance accrues nothing. -/
lemma rebalance_ages (h : reserve.rebalance vault = .ok (movement, reserve', vault')) :
    reserve.Ages reserve' := by
  obtain ⟨loss, known, last, hk, hu, hmove⟩ := rebalance_eq_ok h
  refine refreshRates_ages hu ((recognize_steady hk).trans ?_)
  rcases hmove with ⟨-, rfl, -⟩ | ⟨amount, -, -, -, rfl⟩ | ⟨_, _, _, -, -, hreceive, -⟩
  · exact .refl _
  · exact ⟨rfl, rfl, rfl, Nat.le_refl _⟩
  · exact receive_steady hreceive

/-! ## Accruals -/

/-- At a later time the supply index is still at most the debt index: where there is debt its rate
is at most the rate of the debt, and where there is none it does not move. -/
lemma Ordered.supplyIndexAt_le (h : reserve.Ordered) {index debtIndex : Nat}
    (hs : reserve.supplyIndexAt now = .ok index) (hd : reserve.debtIndexAt now = .ok debtIndex) :
    index ≤ debtIndex := by
  obtain ⟨debt, hdebt, hrates⟩ := h.current
  obtain ⟨hrate, hidle⟩ := RateModel.supply_rate_le hrates
  have hrisen := debtIndexAt_ge hd
  unfold supplyIndexAt at hs
  split at hs
  · cases hs
    exact h.order.trans hrisen
  · next hearns =>
    have howed : reserve.scaledDebt ≠ 0 := by
      intro hzero
      refine hearns (.inr (hidle ?_))
      rw [debt_eq_owed hdebt, owed, hzero, Nat.zero_mul]
      rfl
    rw [debtIndexAt, if_neg (by omega)] at hd
    simp only [bind_eq_ok] at hs hd
    obtain ⟨growth, hg, hs⟩ := hs
    obtain ⟨growth', hg', hd⟩ := hd
    obtain rfl := linearGrowth_eq_ok hg
    obtain rfl := linearGrowth_eq_ok hg'
    refine Nat.le_of_mul_le_mul_right ?_ (show 0 < ray by decide)
    calc index * ray
        ≤ (ray + reserve.supplyRate * (now - reserve.updatedAt) / year) * reserve.supplyIndex :=
          mulDiv_down_le hs
      _ ≤ (ray + reserve.borrowRate * (now - reserve.updatedAt) / year) * reserve.debtIndex := by
          gcongr
          exact h.order
      _ ≤ debtIndex * ray := le_mulDiv_up hd

/-- An accrual ages a reserve. -/
lemma accrue_ages {accrual : Accrual} (h : reserve.accrue now = .ok (accrual, reserve')) :
    reserve.Ages reserve' := by
  rcases accrue_eq_ok h with ⟨-, -, rfl⟩ |
    ⟨hlater, index, debtIndex, _, _, _, hindex, hdebtIndex, -, -, -, -, -, -, hu⟩
  · exact .refl _
  · have hsteady := refreshRates_steady hu
    obtain ⟨_, -, -, hrisen⟩ := supplyIndexAt_eq_ok hindex
    have hsupply : reserve.supplyIndex ≤ reserve'.supplyIndex := hrisen.trans hsteady.supplyIndex.ge
    exact {
      supplyIndex := hsupply
      debtIndex := (debtIndexAt_ge hdebtIndex).trans hsteady.debtIndex.ge
      updatedAt := hlater.le.trans hsteady.updatedAt.ge
      losses := hsteady.losses
      ordered := fun hordered => {
        grown := hordered.grown.trans hsupply
        order := by
          rw [hsteady.supplyIndex, hsteady.debtIndex]
          exact hordered.supplyIndexAt_le hindex hdebtIndex
        current := refreshRates_current hu } }

/-- The indices of a new reserve are level. -/
lemma ofTerms_ordered {asset : Asset} {terms : ReserveTerms}
    (h : Reserve.ofTerms asset terms now = .ok reserve) : reserve.Ordered := by
  have hcurrent := refreshRates_current h
  obtain ⟨_, _, _, -, -, -, rfl⟩ := refreshRates_eq_ok h
  exact ⟨Nat.le_refl ray, Nat.le_refl ray, hcurrent⟩

end Reserve

/-! ## The ledger -/

namespace Ledger

/-- Every reserve of a ledger is there after a change and has aged, and the indices of a reserve
that is new are in order. -/
structure Ages (ledger ledger' : Ledger) : Prop where
  kept : ∀ asset before, ledger.reserves.get? asset = some before →
    ∃ after, ledger'.reserves.get? asset = some after ∧ before.Ages after
  fresh : ∀ asset after, ledger.reserves.get? asset = none →
    ledger'.reserves.get? asset = some after → after.Ordered

/-- Every reserve of a ledger is there after a change, with a debt index that is not lower. -/
def Rises (ledger ledger' : Ledger) : Prop :=
  ∀ asset before, ledger.reserves.get? asset = some before →
    ∃ after, ledger'.reserves.get? asset = some after ∧ before.debtIndex ≤ after.debtIndex

/-- The indices of all reserves are in order. -/
def Ordered (ledger : Ledger) : Prop :=
  ∀ asset reserve, ledger.reserves.get? asset = some reserve → reserve.Ordered

variable {ledger middle ledger' : Ledger} {asset : Asset} {now amount : Nat}

/-- What has aged has not fallen. -/
lemma Ages.rises (h : ledger.Ages ledger') : ledger.Rises ledger' := by
  intro asset before hbefore
  obtain ⟨after, hafter, hages⟩ := h.kept asset before hbefore
  exact ⟨after, hafter, hages.debtIndex⟩

/-- Without a change nothing falls. -/
lemma Ages.refl (ledger : Ledger) : ledger.Ages ledger where
  kept _ before h := ⟨before, h, .refl before⟩
  fresh asset after hnone hsome := by
    rw [hnone] at hsome
    cases hsome

/-- Two changes are one. -/
lemma Ages.trans (h : ledger.Ages middle) (h' : middle.Ages ledger') : ledger.Ages ledger' where
  kept asset before hbefore := by
    obtain ⟨between, hbetween, hages⟩ := h.kept asset before hbefore
    obtain ⟨after, hafter, hages'⟩ := h'.kept asset between hbetween
    exact ⟨after, hafter, hages.trans hages'⟩
  fresh asset after hnone hsome := by
    cases hbetween : middle.reserves.get? asset with
    | none => exact h'.fresh asset after hbetween hsome
    | some between =>
      obtain ⟨found, hfound, hages⟩ := h'.kept asset between hbetween
      obtain rfl := Option.some.inj (hfound.symm.trans hsome)
      exact hages.ordered (h.fresh asset between hnone hbetween)

/-- Aging leaves all indices in order. -/
lemma Ages.ordered (h : ledger.Ages ledger') (hordered : ledger.Ordered) : ledger'.Ordered := by
  intro asset reserve hr
  cases hbefore : ledger.reserves.get? asset with
  | none => exact h.fresh asset reserve hbefore hr
  | some before =>
    obtain ⟨found, hfound, hages⟩ := h.kept asset before hbefore
    obtain rfl := Option.some.inj (hfound.symm.trans hr)
    exact hages.ordered (hordered asset before hbefore)

/-- A ledger ages when the one reserve that is touched does. -/
lemma Touches.ages {before after : Reserve} (h : Touches asset before after ledger ledger')
    (hages : before.Ages after) : ledger.Ages ledger' where
  kept other found hfound := by
    by_cases hother : other = asset
    · subst hother
      obtain rfl := Option.some.inj (h.old.symm.trans hfound)
      exact ⟨after, h.new, hages⟩
    · exact ⟨found, (h.others other hother).trans hfound, .refl found⟩
  fresh other found hnone hsome := by
    have hother : other ≠ asset := by
      rintro rfl
      rw [h.old] at hnone
      cases hnone
    rw [h.others other hother, hnone] at hsome
    cases hsome

/-- A ledger ages when the one reserve that is touched is accrued and then changes steadily. -/
lemma Touches.ages_accrued {before accrued changed after : Reserve} {accrual : Accrual}
    (h : Touches asset before after ledger ledger')
    (ha : before.accrue now = .ok (accrual, accrued)) (hu : changed.refreshRates = .ok after)
    (hs : accrued.Steady changed) : ledger.Ages ledger' :=
  h.ages ((Reserve.accrue_ages ha).trans (Reserve.refreshRates_ages hu hs))

/-- An accrual ages its reserve. -/
lemma accrue_ages {accrual : Accrual} (h : ledger.accrue asset now = .ok (accrual, ledger')) :
    ledger.Ages ledger' := by
  obtain ⟨_, _, htouch, ha⟩ := accrue_eq_ok h
  exact htouch.ages (Reserve.accrue_ages ha)

/-- An accrual lowers no debt index. -/
lemma accrue_rises {accrual : Accrual} (h : ledger.accrue asset now = .ok (accrual, ledger')) :
    ledger.Rises ledger' :=
  (accrue_ages h).rises

/-- A deposit accrues the reserve. -/
lemma deposit_ages {account : Account} {scaled : Nat}
    (h : ledger.deposit asset account amount now = .ok (scaled, ledger')) :
    ledger.Ages ledger' := by
  obtain ⟨_, _, accrued, _, htouch, ha, -, hu⟩ := deposit_eq_ok h
  exact htouch.ages_accrued ha hu ⟨rfl, rfl, rfl, Nat.le_refl _⟩

variable {V : Type} [Vault V] {vault vault' : V}

/-- A withdrawal accrues the reserve and pulls from the vault. -/
lemma withdraw_ages {owner : Account} {paid : Nat} {movement : Movement}
    (h : ledger.withdraw vault asset owner amount now = .ok (paid, movement, ledger', vault')) :
    ledger.Ages ledger' := by
  obtain ⟨_, _, accrued, pulled, _, _, htouch, ha, hp, -, -, -, hu⟩ := withdraw_eq_ok h
  have hpulled := (Reserve.accrue_ages ha).trans (Reserve.pull_ages hp)
  exact htouch.ages (hpulled.trans (Reserve.refreshRates_ages hu ⟨rfl, rfl, rfl, Nat.le_refl _⟩))

/-- Lending accrues the reserve and pulls from the vault. -/
lemma lend_ages {scaled : Nat}
    (h : ledger.lend vault asset amount now = .ok (scaled, ledger', vault')) :
    ledger.Ages ledger' := by
  obtain ⟨_, _, accrued, _, pulled, _, htouch, -, ha, hp, -, -, hu⟩ := lend_eq_ok h
  have hpulled := (Reserve.accrue_ages ha).trans (Reserve.pull_ages hp)
  exact htouch.ages (hpulled.trans (Reserve.refreshRates_ages hu ⟨rfl, rfl, rfl, Nat.le_refl _⟩))

/-- A repayment accrues nothing. -/
lemma repay_ages {scaled : Nat} {repayment : Repayment}
    (h : ledger.repay asset scaled amount = .ok (repayment, ledger')) : ledger.Ages ledger' := by
  obtain ⟨_, _, _, htouch, -, -, -, -, -, -, -, hu⟩ := repay_eq_ok h
  exact htouch.ages (Reserve.refreshRates_ages hu ⟨rfl, rfl, rfl, Nat.le_refl _⟩)

/-- A write-off records a loss. -/
lemma writeOff_ages {scaled loss : Nat}
    (h : ledger.writeOff asset scaled = .ok (loss, ledger')) : ledger.Ages ledger' := by
  obtain ⟨_, _, htouch, -, -, hu⟩ := writeOff_eq_ok h
  exact htouch.ages (Reserve.refreshRates_ages hu ⟨rfl, rfl, rfl, Nat.le_add_right _ _⟩)

/-- Opening a reserve leaves the others alone. -/
lemma openReserve_ages {terms : ReserveTerms}
    (h : ledger.openReserve asset terms now = .ok ledger') : ledger.Ages ledger' := by
  obtain ⟨reserve, hnone, -, hreserve, rfl⟩ := openReserve_eq_ok h
  constructor
  · intro other before hbefore
    have hother : other ≠ asset := by
      rintro rfl
      rw [hnone] at hbefore
      cases hbefore
    exact ⟨before, (SortedMap.get?_insert_of_ne _ hother _).trans hbefore, .refl before⟩
  · intro other after hother hafter
    simp only [setReserve, SortedMap.get?_insert, hother] at hafter
    split at hafter
    · obtain rfl := Option.some.inj hafter
      exact Reserve.ofTerms_ordered hreserve
    · cases hafter

/-- Administering the ledger ages it. -/
lemma Administered.ages (h : ledger.Administered V ledger') : ledger.Ages ledger' := by
  cases h with
  | same => exact .refl _
  | opened h => exact openReserve_ages h
  | switched h =>
    obtain ⟨_, htouch⟩ := setFlags_eq_ok h
    exact htouch.ages (Reserve.Steady.ages ⟨rfl, rfl, rfl, Nat.le_refl _⟩ id)
  | factored h =>
    obtain ⟨_, _, _, _, htouch, -, ha, hu⟩ := setFactor_eq_ok h
    exact htouch.ages_accrued ha hu ⟨rfl, rfl, rfl, Nat.le_refl _⟩
  | remodelled h =>
    obtain ⟨_, _, _, _, htouch, -, ha, hu⟩ := setModel_eq_ok h
    exact htouch.ages_accrued ha hu ⟨rfl, rfl, rfl, Nat.le_refl _⟩
  | shared h =>
    obtain ⟨_, htouch, -⟩ := setVaultShare_eq_ok h
    exact htouch.ages (Reserve.Steady.ages ⟨rfl, rfl, rfl, Nat.le_refl _⟩ id)
  | rebalanced ha h =>
    obtain ⟨_, _, htouch, hb⟩ := rebalance_eq_ok h
    exact (accrue_ages ha).trans (htouch.ages (Reserve.rebalance_ages hb))

end Ledger

/-! ## Requests and runs -/

variable {O V N : Type} [PriceSource O] [Vault V] [Venue N]

/-- A settlement accrues nothing. -/
lemma Store.settle_ages {store store' : Store} {loan : Loan} {proceeds now : Nat}
    {winner : Option Account} {settlement : Settlement} {transfers : List Transfer}
    (h : store.settle loan proceeds winner now = .ok (settlement, store', transfers)) :
    store.ledger.Ages store'.ledger := by
  obtain ⟨s, -, rfl, -⟩ := settle_eq_ok h
  have hrepaid : store.ledger.Ages s.repaid := by
    rcases s.repays with ⟨-, -, hledger⟩ | ⟨_, -, hp, -⟩
    · rw [hledger]
      exact .refl _
    · exact Ledger.repay_ages hp
  refine hrepaid.trans ?_
  rcases s.writesOff with ⟨-, -, hledger⟩ | ⟨-, hw⟩
  · rw [hledger]
    exact .refl _
  · exact Ledger.writeOff_ages hw

/-- A user's action ages the ledger. -/
lemma UserAction.Serves.ages {action : UserAction} {prices : O} {store : Store} {vault : V}
    {venue : N} {facility : Facility V N} {caller : Account} {now : Nat}
    {transfers : List Transfer}
    (h : action.Serves prices store vault venue caller now facility transfers) :
    store.ledger.Ages facility.store.ledger := by
  cases h with
  | deposit hd => exact Ledger.deposit_ages hd
  | withdraw hw => exact Ledger.withdraw_ages hw
  | borrow s => exact (Ledger.accrue_ages s.accrues).trans (Ledger.lend_ages s.lends)
  | repay s => exact (Ledger.accrue_ages s.accrues).trans (Ledger.repay_ages s.repays)
  | redeem s => exact (Ledger.accrue_ages s.accrues).trans (Ledger.repay_ages s.repays)
  | bid s => exact Ledger.accrue_ages s.accrues
  | liquidate s | sell s =>
    exact (Ledger.accrue_ages s.accrues).trans (Store.settle_ages s.settles)
  | buyDebt s | claimDebt s =>
    show store.ledger.Ages s.store'.ledger
    rw [Store.passDebt_ledger s.passes]
    exact .refl _
  | setMandate | list | bidDebt | cancelListing => exact .refl _

/-- No user's action lowers a debt index. -/
lemma UserAction.Serves.rises {action : UserAction} {prices : O} {store : Store} {vault : V}
    {venue : N} {facility : Facility V N} {caller : Account} {now : Nat}
    {transfers : List Transfer}
    (h : action.Serves prices store vault venue caller now facility transfers) :
    store.ledger.Rises facility.store.ledger :=
  h.ages.rises

namespace Store

/-- Every step of a store ages its ledger. -/
lemma Step.ages {store store' : Store} (h : Step store store') :
    store.ledger.Ages store'.ledger := by
  cases h with
  | user hrun => exact (UserAction.run_serves hrun).ages
  | operator hrun => exact (OperatorAction.run_eq_ok hrun).2.2.2.2.ages
  | accrual ha =>
    obtain ⟨_, _, hledger, rfl⟩ := Store.accrue_eq_ok ha
    exact Ledger.accrue_ages hledger

/-- The ledger of a run has aged since every earlier store of the run. -/
lemma Trail.ages {store : Store} {past : List Store} (h : Trail (store :: past)) :
    ∀ earlier ∈ past, earlier.ledger.Ages store.ledger := by
  generalize htrail : store :: past = trail at h
  induction h generalizing store past with
  | created =>
    cases htrail
    intro earlier hmem
    cases hmem
  | stepped h hs ih =>
    cases htrail
    intro earlier hmem
    rcases List.mem_cons.mp hmem with rfl | hmem
    · exact hs.ages
    · exact (ih rfl earlier hmem).trans hs.ages

/-- In every reachable store the indices of each reserve are in order. -/
lemma Reachable.ordered {store : Store} (h : store.Reachable) : store.ledger.Ordered := by
  refine h.invariant ?_ fun _ _ _ hi hs => hs.ages.ordered hi
  intro settings store hc asset reserve hr
  obtain rfl := create_eq_ok hc
  cases hr

/-- In every store of a run the supply index of each reserve is at least one ray and at most the
debt index; and since every earlier store of the run no reserve has disappeared, neither index has
fallen, the clock has not gone back and no recorded loss has been forgotten. -/
theorem Trail.indices_ordered_and_growing {store : Store} {past : List Store}
    (h : Trail (store :: past)) :
    (∀ asset reserve, store.ledger.reserves.get? asset = some reserve →
      ray ≤ reserve.supplyIndex ∧ reserve.supplyIndex ≤ reserve.debtIndex) ∧
    ∀ earlier ∈ past, ∀ asset before, earlier.ledger.reserves.get? asset = some before →
      ∃ after, store.ledger.reserves.get? asset = some after ∧
        before.supplyIndex ≤ after.supplyIndex ∧ before.debtIndex ≤ after.debtIndex ∧
        before.updatedAt ≤ after.updatedAt ∧ before.losses ≤ after.losses := by
  constructor
  · intro asset reserve hr
    have hordered := Reachable.ordered ⟨past, h⟩ asset reserve hr
    exact ⟨hordered.grown, hordered.order⟩
  · intro earlier hmem asset before hbefore
    obtain ⟨after, hafter, hages⟩ := (h.ages earlier hmem).kept asset before hbefore
    exact ⟨after, hafter, hages.supplyIndex, hages.debtIndex, hages.updatedAt, hages.losses⟩

end Store

namespace SmallMarket

/-- After the default and ten years of interest both indices stand above those of the first loan,
the debt index above the supply index. -/
theorem defaulting_indices :
    ∃ before after, lent.state.store.ledger.reserves.get? coin = some before ∧
      (founded.follow (setUp ++ lending ++ defaulting)).state.store.ledger.reserves.get? coin =
        some after ∧
      (ray ≤ after.supplyIndex ∧ after.supplyIndex ≤ after.debtIndex) ∧
      before.supplyIndex ≤ after.supplyIndex ∧ before.debtIndex ≤ after.debtIndex ∧
      before.updatedAt ≤ after.updatedAt ∧ before.losses ≤ after.losses := by
  obtain ⟨past, hstores, htrail⟩ := founded_trail (setUp ++ lending ++ defaulting)
  have hpast : lent.state.store ∈ (founded.stores [] (setUp ++ lending ++ defaulting)).tail := by
    decide +kernel
  rw [hstores, List.tail_cons] at hpast
  obtain ⟨before, hbefore⟩ := Option.isSome_iff_exists.mp (show
    (lent.state.store.ledger.reserves.get? coin).isSome = true by decide +kernel)
  obtain ⟨hordered, hgrowing⟩ := Store.Trail.indices_ordered_and_growing htrail
  obtain ⟨after, hafter, hages⟩ := hgrowing _ hpast coin before hbefore
  exact ⟨before, after, hbefore, hafter, hordered coin after hafter, hages⟩

end SmallMarket

end PooledCredit
