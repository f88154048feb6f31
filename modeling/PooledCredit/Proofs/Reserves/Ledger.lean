import PooledCredit.Proofs.Rounding
import PooledCredit.Reserve.Ledger

/-!
# What the operations of the ledger do to a reserve

Every operation of the ledger touches the reserve of one asset. For each operation one lemma
says which reserve a successful call finds, which it leaves, and what was computed on the way;
later files read the operations only through these lemmas.
-/

namespace PooledCredit

/-! ## Single reserves -/

namespace Reserve

/-- Refreshing the rates changes nothing but the rates. -/
lemma refreshRates_eq_ok {reserve reserve' : Reserve} (h : reserve.refreshRates = .ok reserve') :
    ∃ liquidity debt rates, reserve.liquidity = .ok liquidity ∧ reserve.debt = .ok debt ∧
      reserve.model.rates liquidity debt reserve.factor = .ok rates ∧
      reserve' = { reserve with supplyRate := rates.supply, borrowRate := rates.borrow } := by
  simp only [refreshRates, bind_eq_ok, pure_eq_ok] at h
  obtain ⟨liquidity, hl, debt, hd, rates, hr, rfl⟩ := h
  exact ⟨liquidity, debt, rates, hl, hd, hr, rfl⟩

/-- A successful accrual at the time of the last update changes nothing; at a later time it
brings both indices up to date and mints the treasury's share of the interest. -/
lemma accrue_eq_ok {reserve reserve' : Reserve} {now : Nat} {accrual : Accrual}
    (h : reserve.accrue now = .ok (accrual, reserve')) :
    (now = reserve.updatedAt ∧ accrual = ⟨0, 0⟩ ∧ reserve' = reserve) ∨
    (reserve.updatedAt < now ∧ ∃ supplyIndex debtIndex before after toTreasury,
      reserve.supplyIndexAt now = .ok supplyIndex ∧ reserve.debtIndexAt now = .ok debtIndex ∧
      reserve.debt = .ok before ∧ rayMul .up reserve.scaledDebt debtIndex = .ok after ∧
      before ≤ after ∧ accrual.interest = after - before ∧
      shareOf .down accrual.interest reserve.factor = .ok toTreasury ∧
      rayDiv .down toTreasury supplyIndex = .ok accrual.treasuryScaled ∧
      { reserve with
        supplyIndex
        debtIndex
        scaledSupply := reserve.scaledSupply + accrual.treasuryScaled
        updatedAt := now }.refreshRates = .ok reserve') := by
  simp only [accrue, bind_eq_ok, require_eq_ok, exists_const] at h
  obtain ⟨hle, h⟩ := h
  split at h
  · next heq =>
    obtain ⟨rfl, rfl⟩ := Prod.mk.inj (pure_eq_ok.mp h)
    exact .inl ⟨heq, rfl, rfl⟩
  · next hne =>
    simp only [bind_eq_ok, pure_eq_ok, subAmount_eq_ok, addAmount_eq_ok, Prod.mk.injEq] at h
    obtain ⟨supplyIndex, hs, debtIndex, hd, before, hb, after, ha, _, ⟨hle', rfl⟩, toTreasury, ht,
      scaled, hscaled, _, ⟨-, rfl⟩, updated, hu, rfl, rfl⟩ := h
    exact .inr ⟨by omega, supplyIndex, debtIndex, before, after, toTreasury, hs, hd, hb, ha, hle',
      rfl, ht, hscaled, hu⟩

/-- The debt index at a later time is not smaller. -/
lemma debtIndexAt_ge {reserve : Reserve} {now index : Nat}
    (h : reserve.debtIndexAt now = .ok index) : reserve.debtIndex ≤ index := by
  unfold debtIndexAt at h
  split at h
  · exact (Except.ok.inj h).le
  · simp only [linearGrowth, bind_eq_ok, addAmount_eq_ok, rayMul] at h
    obtain ⟨_, ⟨_, -, _, -, growth, -, -, rfl⟩, h⟩ := h
    refine Nat.le_of_mul_le_mul_right ?_ (show 0 < ray by decide)
    calc reserve.debtIndex * ray
        ≤ (ray + growth) * reserve.debtIndex := by
          rw [Nat.mul_comm, Nat.add_mul]
          exact Nat.le_add_right _ _
      _ ≤ index * ray := le_mulDiv_up h

/-- An accrual at the moment of the last one does not fail and accrues nothing. -/
lemma accrue_again (reserve : Reserve) :
    reserve.accrue reserve.updatedAt = .ok (⟨0, 0⟩, reserve) :=
  bind_eq_ok.mpr ⟨(), require_eq_ok.mpr (Nat.le_refl _), if_pos rfl⟩

/-- An accrual brings the stored debt index to where it stood at that moment anyway, and it keeps
the asset and its decimals. -/
lemma accrue_debtIndexAt {reserve reserve' : Reserve} {now : Nat} {accrual : Accrual}
    (h : reserve.accrue now = .ok (accrual, reserve')) :
    reserve.debtIndexAt now = .ok reserve'.debtIndex ∧
      reserve'.debtIndexAt now = .ok reserve'.debtIndex ∧ reserve'.asset = reserve.asset ∧
      reserve'.decimals = reserve.decimals := by
  rcases accrue_eq_ok h with ⟨hnow, -, rfl⟩ |
    ⟨-, _, debtIndex, _, _, _, -, hindex, -, -, -, -, -, -, hu⟩
  · have hstored : reserve'.debtIndexAt now = .ok reserve'.debtIndex := if_pos (.inl hnow.le)
    exact ⟨hstored, hstored, rfl, rfl⟩
  · obtain ⟨_, _, _, -, -, -, rfl⟩ := refreshRates_eq_ok hu
    exact ⟨hindex, if_pos (.inl (Nat.le_refl now)), rfl, rfl⟩

/-- A part of a debt that is less than all of it burns less than the whole scaled debt: less than
the rounded debt is less than the exact one. -/
lemma burned_lt {reserve : Reserve} {scaled debt paid burned : Nat}
    (hd : reserve.debtOf scaled = .ok debt) (hpaid : paid < debt)
    (hb : rayDiv .down paid reserve.debtIndex = .ok burned) : burned < scaled := by
  have hdown : burned * reserve.debtIndex ≤ paid * ray := mulDiv_down_le hb
  have hup : debt * ray < scaled * reserve.debtIndex + ray := mulDiv_up_lt hd
  have hstep : (paid + 1) * ray ≤ debt * ray := Nat.mul_le_mul_right ray hpaid
  have hexact : burned * reserve.debtIndex < scaled * reserve.debtIndex := by
    rw [Nat.add_mul, Nat.one_mul] at hstep
    omega
  exact Nat.lt_of_mul_lt_mul_right hexact

/-- What is left of a scaled debt after a payment is, in ray, less than one scaled unit above what
the payment leaves of the debt. -/
lemma remaining_lt {reserve : Reserve} {scaled debt paid burned : Nat}
    (hd : reserve.debtOf scaled = .ok debt)
    (hb : rayDiv .down paid reserve.debtIndex = .ok burned) (hle : burned ≤ scaled) :
    (scaled - burned) * reserve.debtIndex + paid * ray < debt * ray + reserve.debtIndex := by
  have hup : scaled * reserve.debtIndex ≤ debt * ray := le_mulDiv_up hd
  have hdown : paid * ray < (burned + 1) * reserve.debtIndex := lt_mulDiv_down hb
  have hpart : burned * reserve.debtIndex ≤ scaled * reserve.debtIndex :=
    Nat.mul_le_mul_right reserve.debtIndex hle
  rw [Nat.add_mul, Nat.one_mul] at hdown
  rw [Nat.sub_mul]
  omega

/-- No scaled debt amounts to nothing. -/
lemma debtOf_zero (reserve : Reserve) : reserve.debtOf 0 = .ok 0 := by
  have hquotient : Rounding.up.divide (0 * reserve.debtIndex) ray = 0 := by
    rw [Nat.zero_mul]
    rfl
  exact mulDiv_eq_ok.mpr ⟨by decide, hquotient.symm ▸ by decide, hquotient⟩

/-- What a payment leaves of a debt: nothing when the whole debt is paid, else at least what was not
paid and at most one scaled unit, rounded up, more than that. It is never more than the debt. -/
structure Leaves (reserve : Reserve) (debt paid remaining left : Nat) : Prop where
  amounts : reserve.debtOf remaining = .ok left
  full : paid = debt → left = 0
  covers : debt ≤ paid + left
  tight : paid + left ≤ debt + Rounding.up.divide reserve.debtIndex ray
  shrinks : left ≤ debt

/-- A payment of nothing leaves the whole debt. -/
lemma leaves_unpaid {reserve : Reserve} {scaled debt : Nat}
    (hd : reserve.debtOf scaled = .ok debt) : reserve.Leaves debt 0 scaled debt where
  amounts := hd
  full h := h.symm
  covers := by omega
  tight := by omega
  shrinks := Nat.le_refl debt

/-- A payment of the whole debt leaves nothing. -/
lemma leaves_full (reserve : Reserve) (debt : Nat) : reserve.Leaves debt debt 0 0 where
  amounts := reserve.debtOf_zero
  full _ := rfl
  covers := Nat.le_refl debt
  tight := Nat.le_add_right _ _
  shrinks := Nat.zero_le debt

/-- A payment of a part of a debt, burned rounded down, leaves at least what was not paid and at
most one scaled unit more. -/
lemma leaves_of_part {reserve : Reserve} {scaled debt paid burned : Nat}
    (hd : reserve.debtOf scaled = .ok debt) (hpaid : paid < debt)
    (hb : rayDiv .down paid reserve.debtIndex = .ok burned) :
    ∃ left, reserve.Leaves debt paid (scaled - burned) left := by
  have hburned : burned ≤ scaled := (burned_lt hd hpaid hb).le
  have howed : mulDiv .up scaled reserve.debtIndex ray = .ok debt := hd
  obtain ⟨left, hleft, hle⟩ :=
    mulDiv_up_of_le (Nat.sub_le scaled burned) (Nat.le_refl reserve.debtIndex) howed
  refine ⟨left, hleft, fun hall => absurd hall hpaid.ne, ?covers, ?tight, hle⟩
  case covers =>
    -- what is burned amounts to no more than what is paid
    have hdown : burned * reserve.debtIndex ≤ paid * ray := mulDiv_down_le hb
    have hup : debt * ray < scaled * reserve.debtIndex + ray := mulDiv_up_lt hd
    have hrest : (scaled - burned) * reserve.debtIndex ≤ left * ray := le_mulDiv_up hleft
    have hscaled : scaled * reserve.debtIndex =
        burned * reserve.debtIndex + (scaled - burned) * reserve.debtIndex := by
      rw [← Nat.add_mul, Nat.add_sub_cancel' hburned]
    have hsum : debt * ray < (paid + left + 1) * ray := by
      rw [Nat.add_mul, Nat.add_mul, Nat.one_mul]
      omega
    exact Nat.le_of_lt_succ (Nat.lt_of_mul_lt_mul_right hsum)
  case tight =>
    have hrounded := remaining_lt hd hb hburned
    have hrest : left * ray < (scaled - burned) * reserve.debtIndex + ray := mulDiv_up_lt hleft
    have hunit := le_divide_up reserve.debtIndex (show 0 < ray by decide)
    have hsum : (paid + left) * ray <
        (debt + Rounding.up.divide reserve.debtIndex ray + 1) * ray := by
      simp only [Nat.add_mul, Nat.one_mul]
      omega
    exact Nat.le_of_lt_succ (Nat.lt_of_mul_lt_mul_right hsum)

/-- A booked withdrawal moves what came back to the idle liquidity and records the loss. -/
lemma receive_eq_ok {reserve reserve' : Reserve} {withdrawal : Withdrawal} {movement : Movement}
    (h : reserve.receive withdrawal = .ok (movement, reserve')) :
    movement = { divested := withdrawal.actual, loss := withdrawal.loss } ∧
    reserve' = { reserve with
      invested := reserve.invested - min (withdrawal.actual + withdrawal.loss) reserve.invested
      idle := reserve.idle + withdrawal.actual
      losses := reserve.losses + withdrawal.loss } := by
  simp only [receive, bind_eq_ok, pure_eq_ok, addAmount_eq_ok, bareSub_eq_ok, Prod.mk.injEq] at h
  obtain ⟨_, ⟨-, rfl⟩, _, ⟨-, rfl⟩, _, ⟨-, rfl⟩, _, ⟨-, rfl⟩, rfl, rfl⟩ := h
  exact ⟨rfl, rfl⟩

variable {V : Type} [Vault V]

/-- A pull changes nothing, or it books one withdrawal of at most the placement. -/
lemma pull_eq_ok {reserve reserve' : Reserve} {vault vault' : V} {needed : Nat}
    {movement : Movement} (h : reserve.pull vault needed = .ok (movement, reserve', vault')) :
    (movement = {} ∧ reserve' = reserve ∧ vault' = vault) ∨
    ∃ request withdrawal received, request ≤ reserve.invested ∧
      Vault.release vault reserve.asset request = .ok (withdrawal, vault') ∧
      reserve.receive withdrawal = .ok (movement, received) ∧
      received.refreshRates = .ok reserve' := by
  unfold pull at h
  split at h
  · cases h
    exact .inl ⟨rfl, rfl, rfl⟩
  · simp only [bind_eq_ok, pure_eq_ok, Prod.exists, Prod.mk.injEq] at h
    obtain ⟨_, -, withdrawal, _, hw, _, received, hr, updated, hu, rfl, rfl, rfl⟩ := h
    exact .inr ⟨_, withdrawal, received, Nat.min_le_right _ _, hw, hr, hu⟩

/-- Recognizing a report moves what the vault no longer holds to the losses. -/
lemma recognize_eq_ok {reserve reserve' : Reserve} {report : VaultReport} {loss : Nat}
    (h : reserve.recognize report = .ok (loss, reserve')) :
    loss = reserve.invested - report.held ∧
    reserve' = { reserve with
      invested := reserve.invested - loss
      losses := reserve.losses + loss } := by
  unfold recognize at h
  split at h
  · next hlt =>
    simp only [bind_eq_ok, pure_eq_ok, addAmount_eq_ok, bareSub_eq_ok, Prod.mk.injEq] at h
    obtain ⟨_, ⟨-, rfl⟩, _, ⟨-, rfl⟩, rfl, rfl⟩ := h
    refine ⟨rfl, ?_⟩
    rw [show reserve.invested - (reserve.invested - report.held) = report.held by omega]
  · next hge =>
    cases h
    refine ⟨by omega, ?_⟩
    simp

/-- A rebalance recognizes the reported loss and compares the placement with its target. Below it,
idle liquidity is placed as far as there is any; above it, one withdrawal of the excess is booked;
at the target nothing moves. At the end the rates are refreshed. -/
lemma rebalance_cases {reserve reserve' : Reserve} {vault vault' : V} {movement : Movement}
    (h : reserve.rebalance vault = .ok (movement, reserve', vault')) :
    ∃ loss known target last,
      reserve.recognize (Vault.report vault reserve.asset) = .ok (loss, known) ∧
      shareOf .down (known.idle + known.invested) known.vaultShare = .ok target ∧
      last.refreshRates = .ok reserve' ∧
      ((target ≤ known.invested ∨ known.idle = 0) ∧ known.invested ≤ target ∧
        movement = { loss } ∧ last = known ∧ vault' = vault ∨
      (∃ amount, 0 < amount ∧ amount = min (target - known.invested) known.idle ∧
        movement = { invested := amount, loss } ∧
        Vault.place vault known.asset amount = .ok vault' ∧
        last = { known with idle := known.idle - amount, invested := known.invested + amount }) ∨
      (target < known.invested ∧ ∃ withdrawal moved,
        Vault.release vault known.asset (known.invested - target) = .ok (withdrawal, vault') ∧
        known.receive withdrawal = .ok (moved, last) ∧
        movement = { divested := moved.divested, loss := loss + moved.loss })) := by
  simp only [rebalance, liquidity, bind_eq_ok, addAmount_eq_ok, Prod.exists] at h
  obtain ⟨loss, known, hk, _, ⟨-, rfl⟩, target, ht, h⟩ := h
  split at h
  · next hbelow =>
    simp only [bind_eq_ok, bareSub_eq_ok] at h
    obtain ⟨_, ⟨-, rfl⟩, h⟩ := h
    split at h
    · next hnone =>
      simp only [bind_eq_ok, pure_eq_ok, Prod.mk.injEq] at h
      obtain ⟨updated, hu, rfl, rfl, rfl⟩ := h
      exact ⟨loss, known, target, known, hk, ht, hu,
        .inl ⟨.inr (by omega), hbelow.le, rfl, rfl, rfl⟩⟩
    · next hsome =>
      simp only [bind_eq_ok, pure_eq_ok, addAmount_eq_ok, bareSub_eq_ok, Prod.mk.injEq] at h
      obtain ⟨_, hp, _, ⟨-, rfl⟩, _, ⟨-, rfl⟩, updated, hu, rfl, rfl, rfl⟩ := h
      exact ⟨loss, known, target, _, hk, ht, hu,
        .inr (.inl ⟨_, Nat.pos_of_ne_zero hsome, rfl, rfl, hp, rfl⟩)⟩
  · next hnotBelow =>
    split at h
    · next habove =>
      simp only [bind_eq_ok, pure_eq_ok, addAmount_eq_ok, bareSub_eq_ok, Prod.exists,
        Prod.mk.injEq] at h
      obtain ⟨_, ⟨-, rfl⟩, withdrawal, _, hw, moved, last, hr, _, ⟨-, rfl⟩, updated, hu, rfl, rfl,
        rfl⟩ := h
      exact ⟨loss, known, target, last, hk, ht, hu,
        .inr (.inr ⟨habove, withdrawal, moved, hw, hr, rfl⟩)⟩
    · next hnotAbove =>
      simp only [bind_eq_ok, pure_eq_ok, Prod.mk.injEq] at h
      obtain ⟨updated, hu, rfl, rfl, rfl⟩ := h
      exact ⟨loss, known, target, known, hk, ht, hu,
        .inl ⟨.inl (Nat.le_of_not_lt hnotBelow), Nat.le_of_not_lt hnotAbove, rfl, rfl, rfl⟩⟩

/-- A rebalance recognizes the reported loss and then places idle liquidity, books one
withdrawal of at most the placement, or moves nothing; at the end the rates are refreshed. -/
lemma rebalance_eq_ok {reserve reserve' : Reserve} {vault vault' : V} {movement : Movement}
    (h : reserve.rebalance vault = .ok (movement, reserve', vault')) :
    ∃ loss known last,
      reserve.recognize (Vault.report vault reserve.asset) = .ok (loss, known) ∧
      last.refreshRates = .ok reserve' ∧
      ((movement = { loss } ∧ last = known ∧ vault' = vault) ∨
      (∃ amount, movement = { invested := amount, loss } ∧ amount ≤ known.idle ∧
        Vault.place vault known.asset amount = .ok vault' ∧
        last = { known with idle := known.idle - amount, invested := known.invested + amount }) ∨
      ∃ request withdrawal moved, request ≤ known.invested ∧
        Vault.release vault known.asset request = .ok (withdrawal, vault') ∧
        known.receive withdrawal = .ok (moved, last) ∧
        movement = { divested := moved.divested, loss := loss + moved.loss }) := by
  obtain ⟨loss, known, target, last, hk, -, hu, hmove⟩ := rebalance_cases h
  refine ⟨loss, known, last, hk, hu, ?_⟩
  rcases hmove with ⟨-, -, hnothing⟩ | ⟨amount, -, hamount, hm, hp, hlast⟩ |
    ⟨-, withdrawal, moved, hw, hr, hm⟩
  · exact .inl hnothing
  · exact .inr (.inl ⟨amount, hm, hamount.le.trans (Nat.min_le_right _ _), hp, hlast⟩)
  · exact .inr (.inr ⟨_, withdrawal, moved, Nat.sub_le _ _, hw, hr, hm⟩)

end Reserve

/-! ## The ledger -/

namespace Ledger

/-- Two ledgers differ at most in the reserve of one asset, which went from `before` to `after`,
and in what the accounts hold. -/
structure Touches (asset : Asset) (before after : Reserve) (ledger ledger' : Ledger) : Prop where
  old : ledger.reserves.get? asset = some before
  new : ledger'.reserves.get? asset = some after
  others : ∀ other, other ≠ asset → ledger'.reserves.get? other = ledger.reserves.get? other
  treasury : ledger'.treasury = ledger.treasury

/-- Touching one reserve twice touches it once. -/
lemma Touches.trans {asset : Asset} {r₁ r₂ r₂' r₃ : Reserve} {l₁ l₂ l₃ : Ledger}
    (h : Touches asset r₁ r₂ l₁ l₂) (h' : Touches asset r₂' r₃ l₂ l₃) :
    Touches asset r₁ r₃ l₁ l₃ where
  old := h.old
  new := h'.new
  others other hne := (h'.others other hne).trans (h.others other hne)
  treasury := h'.treasury.trans h.treasury

/-- What is found after touching a reserve is what was left there. -/
lemma Touches.found {asset : Asset} {before after found : Reserve} {ledger ledger' : Ledger}
    (h : Touches asset before after ledger ledger')
    (hf : ledger'.reserves.get? asset = some found) : found = after := by
  rw [h.new] at hf
  exact (Option.some.inj hf).symm

/-- Storing a reserve touches it. -/
lemma touches_setReserve {ledger : Ledger} {asset : Asset} {before : Reserve}
    (h : ledger.reserves.get? asset = some before) (after : Reserve) :
    Touches asset before after ledger (ledger.setReserve asset after) where
  old := h
  new := SortedMap.get?_insert_self ledger.reserves asset after
  others _ hne := SortedMap.get?_insert_of_ne ledger.reserves hne after
  treasury := rfl

/-- Without reserves anything holds of every reserve. -/
lemma forall_no_reserves {P : Asset → Reserve → Prop} (treasury : Account) :
    ∀ asset reserve, ({ treasury } : Ledger).reserves.get? asset = some reserve →
      P asset reserve := by
  intro _ _ hnone
  cases hnone

/-- What holds of every reserve still does when it does of the one that is touched. -/
lemma Touches.forall_reserves {P : Asset → Reserve → Prop} {asset : Asset} {before after : Reserve}
    {ledger ledger' : Ledger} (h : Touches asset before after ledger ledger')
    (hall : ∀ other reserve, ledger.reserves.get? other = some reserve → P other reserve)
    (hkeeps : P asset before → P asset after) :
    ∀ other reserve, ledger'.reserves.get? other = some reserve → P other reserve := by
  intro other reserve hr
  by_cases hother : other = asset
  · subst hother
    obtain rfl := h.found hr
    exact hkeeps (hall other before h.old)
  · exact hall other reserve ((h.others other hother).symm.trans hr)

/-- What holds of every reserve still does when it does of the one that is stored. -/
lemma forall_setReserve {P : Asset → Reserve → Prop} {asset : Asset} {stored : Reserve}
    {ledger : Ledger}
    (hall : ∀ other reserve, ledger.reserves.get? other = some reserve → P other reserve)
    (hstored : P asset stored) :
    ∀ other reserve, (ledger.setReserve asset stored).reserves.get? other = some reserve →
      P other reserve := by
  intro other reserve hr
  simp only [setReserve, SortedMap.get?_insert] at hr
  split at hr
  · next hother =>
    obtain rfl := Option.some.inj hr
    exact hother ▸ hstored
  · exact hall other reserve hr

/-- A ledger with the same reserves is touched in the same way. -/
lemma Touches.congr {asset : Asset} {before after : Reserve} {ledger ledger' ledger'' : Ledger}
    (h : Touches asset before after ledger ledger') (hr : ledger''.reserves = ledger'.reserves)
    (ht : ledger''.treasury = ledger'.treasury) : Touches asset before after ledger ledger'' where
  old := h.old
  new := by rw [hr, h.new]
  others other hne := by rw [hr, h.others other hne]
  treasury := ht.trans h.treasury

/-- Crediting an account leaves the reserves alone. -/
lemma credit_eq_ok {ledger ledger' : Ledger} {asset : Asset} {account : Account} {scaled : Nat}
    (h : ledger.credit asset account scaled = .ok ledger') :
    ∃ holdings, ledger' = { ledger with holdings } := by
  simp only [credit, bind_eq_ok, pure_eq_ok] at h
  obtain ⟨held, -, rfl⟩ := h
  exact ⟨_, rfl⟩

/-- Debiting an account leaves the reserves alone. -/
lemma debit_eq_ok {ledger ledger' : Ledger} {asset : Asset} {account : Account} {scaled : Nat}
    (h : ledger.debit asset account scaled = .ok ledger') :
    ∃ holdings, ledger' = { ledger with holdings } := by
  simp only [debit, bind_eq_ok, pure_eq_ok] at h
  obtain ⟨held, -, rfl⟩ := h
  exact ⟨_, rfl⟩

/-- An accrual of the ledger accrues one reserve. -/
lemma accrue_eq_ok {ledger ledger' : Ledger} {asset : Asset} {now : Nat} {accrual : Accrual}
    (h : ledger.accrue asset now = .ok (accrual, ledger')) :
    ∃ reserve reserve', Touches asset reserve reserve' ledger ledger' ∧
      reserve.accrue now = .ok (accrual, reserve') := by
  simp only [accrue, Ledger.reserve, bind_eq_ok, orRefuse_eq_ok, Prod.exists] at h
  obtain ⟨reserve, hr, _, reserve', ha, h⟩ := h
  have htouch := touches_setReserve hr reserve'
  split at h
  · simp only [pure_eq_ok, Prod.mk.injEq] at h
    obtain ⟨rfl, rfl⟩ := h
    exact ⟨reserve, reserve', htouch, ha⟩
  · simp only [bind_eq_ok, pure_eq_ok, Prod.mk.injEq] at h
    obtain ⟨credited, hc, rfl, rfl⟩ := h
    obtain ⟨holdings, rfl⟩ := credit_eq_ok hc
    exact ⟨reserve, reserve', htouch.congr rfl rfl, ha⟩

/-- A ledger can accrue a reserve again at the moment of the last accrual. -/
lemma accrue_again {ledger : Ledger} {asset : Asset} {reserve : Reserve}
    (hr : ledger.reserves.get? asset = some reserve) :
    ledger.accrue asset reserve.updatedAt = .ok (⟨0, 0⟩, ledger.setReserve asset reserve) :=
  bind_eq_ok.mpr ⟨_, orRefuse_eq_ok.mpr hr, bind_eq_ok.mpr ⟨_, reserve.accrue_again, if_pos rfl⟩⟩

/-- Opening a reserve adds a fresh one where there was none. -/
lemma openReserve_eq_ok {ledger ledger' : Ledger} {asset : Asset} {terms : ReserveTerms}
    {now : Nat} (h : ledger.openReserve asset terms now = .ok ledger') :
    ∃ reserve, ledger.reserves.get? asset = none ∧ terms.validate = .ok () ∧
      Reserve.ofTerms asset terms now = .ok reserve ∧
      ledger' = ledger.setReserve asset reserve := by
  simp only [openReserve, bind_eq_ok, require_eq_ok, exists_const, pure_eq_ok] at h
  obtain ⟨hc, _, hv, reserve, hr, rfl⟩ := h
  refine ⟨reserve, ?_, hv, hr, rfl⟩
  simpa [SortedMap.contains] using hc

/-- A deposit accrues the reserve, mints supply rounded down and adds the amount to the idle
liquidity. -/
lemma deposit_eq_ok {ledger ledger' : Ledger} {asset : Asset} {account : Account}
    {amount now scaled : Nat}
    (h : ledger.deposit asset account amount now = .ok (scaled, ledger')) :
    ∃ accrual reserve accrued reserve', Touches asset reserve reserve' ledger ledger' ∧
      reserve.accrue now = .ok (accrual, accrued) ∧
      rayDiv .down amount accrued.supplyIndex = .ok scaled ∧
      { accrued with
        idle := accrued.idle + amount
        scaledSupply := accrued.scaledSupply + scaled }.refreshRates = .ok reserve' := by
  simp only [deposit, Ledger.reserve, bind_eq_ok, require_eq_ok, exists_const, orRefuse_eq_ok,
    pure_eq_ok, addAmount_eq_ok, Prod.exists, Prod.mk.injEq] at h
  obtain ⟨-, _, -, _, -, _, -, accrual, middle, ha, accrued, hr, _, hs, -, _, ⟨-, rfl⟩, _, ⟨-, rfl⟩,
    reserve', hu, credited, hc, rfl, rfl⟩ := h
  obtain ⟨reserve, accrued', htouch, ha⟩ := accrue_eq_ok ha
  obtain rfl := htouch.found hr
  obtain ⟨holdings, rfl⟩ := credit_eq_ok hc
  exact ⟨accrual, reserve, accrued, reserve',
    htouch.trans ((touches_setReserve hr reserve').congr rfl rfl), ha, hs, hu⟩

variable {V : Type} [Vault V]

/-- What a withdrawal burns is worth what it pays: all that is held covers the whole balance, and for
a part of it the supply is rounded up. -/
lemma burned_covers {held index balance paid burned : Nat}
    (hb : rayMul .down held index = .ok balance) (hle : paid ≤ balance)
    (hburn : (if paid = balance then pure held
      else (fun up => min up held) <$> rayDiv .up paid index : Result Nat) = .ok burned) :
    paid * ray ≤ burned * index := by
  have hheld := mulDiv_down_le hb
  split at hburn
  · next heq =>
    obtain rfl := pure_eq_ok.mp hburn
    rw [heq]
    exact hheld
  · obtain ⟨up, hup, rfl⟩ := map_eq_ok.mp hburn
    have hup := le_mulDiv_up hup
    rcases Nat.le_total up held with hmin | hmin
    · rwa [Nat.min_eq_left hmin]
    · rw [Nat.min_eq_right hmin]
      exact (Nat.mul_le_mul_right ray hle).trans hheld

/-- A withdrawal accrues the reserve, pulls what is missing from the vault, pays out of the idle
liquidity and burns at least the supply that the amount is worth. -/
lemma withdraw_eq_ok {ledger ledger' : Ledger} {vault vault' : V} {asset : Asset}
    {owner : Account} {amount now paid : Nat} {movement : Movement}
    (h : ledger.withdraw vault asset owner amount now = .ok (paid, movement, ledger', vault')) :
    ∃ accrual reserve accrued pulled reserve' burned,
      Touches asset reserve reserve' ledger ledger' ∧
      reserve.accrue now = .ok (accrual, accrued) ∧
      accrued.pull vault paid = .ok (movement, pulled, vault') ∧
      paid ≤ pulled.idle ∧ burned ≤ pulled.scaledSupply ∧
      paid * ray ≤ burned * accrued.supplyIndex ∧
      { pulled with
        idle := pulled.idle - paid
        scaledSupply := pulled.scaledSupply - burned }.refreshRates = .ok reserve' := by
  simp only [withdraw, Ledger.reserve, bind_pure_bind, ite_bind, bind_eq_ok, require_eq_ok,
    exists_const, orRefuse_eq_ok, pure_eq_ok, subAmount_eq_ok, bareSub_eq_ok, Prod.exists,
    Prod.mk.injEq] at h
  obtain ⟨-, _, -, _, -, accrual, middle, ha, accrued, hr, balance, hb, ⟨-, hle⟩, burned, hburn,
    _, pulled, _, hp, hidle, _, ⟨-, rfl⟩, _, ⟨hsupply, rfl⟩, reserve', hu, debited, hd, rfl, rfl,
    rfl, rfl⟩ := h
  obtain ⟨reserve, accrued', htouch, ha⟩ := accrue_eq_ok ha
  obtain rfl := htouch.found hr
  obtain ⟨holdings, rfl⟩ := debit_eq_ok hd
  refine ⟨accrual, reserve, accrued, pulled, reserve', burned,
    htouch.trans ((touches_setReserve hr reserve').congr rfl rfl), ha, hp, hidle, hsupply, ?_, hu⟩
  generalize (if amount = maxAmount then balance else amount) = paid at *
  exact burned_covers hb hle hburn

/-- Lending accrues the reserve, pulls what is missing from the vault, pays out of the idle
liquidity and adds debt rounded up. -/
lemma lend_eq_ok {ledger ledger' : Ledger} {vault vault' : V} {asset : Asset}
    {amount now scaled : Nat}
    (h : ledger.lend vault asset amount now = .ok (scaled, ledger', vault')) :
    ∃ accrual reserve accrued movement pulled reserve',
      Touches asset reserve reserve' ledger ledger' ∧ amount ≠ 0 ∧
      reserve.accrue now = .ok (accrual, accrued) ∧
      accrued.pull vault amount = .ok (movement, pulled, vault') ∧
      amount ≤ pulled.idle ∧ rayDiv .up amount pulled.debtIndex = .ok scaled ∧
      { pulled with
        idle := pulled.idle - amount
        scaledDebt := pulled.scaledDebt + scaled }.refreshRates = .ok reserve' := by
  simp only [lend, Ledger.reserve, bind_eq_ok, require_eq_ok, exists_const, orRefuse_eq_ok,
    pure_eq_ok, addAmount_eq_ok, bareSub_eq_ok, Prod.exists, Prod.mk.injEq] at h
  obtain ⟨hne, _, -, _, -, accrual, middle, ha, accrued, hr, movement, pulled, _, hp, hidle, _, hs,
    _, ⟨-, rfl⟩, _, ⟨-, rfl⟩, reserve', hu, rfl, rfl, rfl⟩ := h
  obtain ⟨reserve, accrued', htouch, ha⟩ := accrue_eq_ok ha
  obtain rfl := htouch.found hr
  exact ⟨accrual, reserve, accrued, movement, pulled, reserve',
    htouch.trans (touches_setReserve hr reserve'), hne, ha, hp, hidle, hs, hu⟩

/-- A repayment takes at most the debt and burns the whole scaled debt exactly when it covers it;
a part is burned rounded down. -/
lemma repay_eq_ok {ledger ledger' : Ledger} {asset : Asset} {scaled amount : Nat}
    {repayment : Repayment} (h : ledger.repay asset scaled amount = .ok (repayment, ledger')) :
    ∃ reserve debt reserve', Touches asset reserve reserve' ledger ledger' ∧ amount ≠ 0 ∧
      reserve.debtOf scaled = .ok debt ∧ repayment.paid = min amount debt ∧
      (repayment.paid = debt ∧ repayment.burned = scaled ∨
        repayment.paid < debt ∧
          rayDiv .down repayment.paid reserve.debtIndex = .ok repayment.burned) ∧
      repayment.burned ≤ reserve.scaledDebt ∧ repayment.burned ≤ scaled ∧
      repayment.remaining = scaled - repayment.burned ∧
      { reserve with
        idle := reserve.idle + repayment.paid
        scaledDebt := reserve.scaledDebt - repayment.burned }.refreshRates = .ok reserve' := by
  simp only [repay, Ledger.reserve, ite_bind, bind_eq_ok, require_eq_ok, exists_const,
    orRefuse_eq_ok, pure_eq_ok, addAmount_eq_ok, subAmount_eq_ok, bareSub_eq_ok, Prod.mk.injEq] at h
  obtain ⟨hne, reserve, hr, debt, hd, burned, hb, _, ⟨-, rfl⟩, _, ⟨hle, rfl⟩, reserve', hu, _,
    ⟨hle', rfl⟩, rfl, rfl⟩ := h
  refine ⟨reserve, debt, reserve', touches_setReserve hr reserve', hne, hd, rfl, ?_, hle, hle', rfl,
    hu⟩
  split at hb
  · next heq =>
    exact .inl ⟨heq, (pure_eq_ok.mp hb).symm⟩
  · next hne =>
    exact .inr ⟨Nat.lt_of_le_of_ne (Nat.min_le_right amount debt) hne, hb⟩

/-- Nothing is left of a debt exactly when all of it is paid. -/
lemma repay_remaining {ledger ledger' : Ledger} {asset : Asset} {scaled amount debt : Nat}
    {reserve : Reserve} {repayment : Repayment} (hr : ledger.reserves.get? asset = some reserve)
    (hd : reserve.debtOf scaled = .ok debt)
    (h : ledger.repay asset scaled amount = .ok (repayment, ledger')) :
    (repayment.paid = debt ∧ repayment.remaining = 0) ∨
      (repayment.paid < debt ∧ repayment.remaining ≠ 0) := by
  obtain ⟨found, debt', _, htouch, -, hdebt, -, hburned, -, -, hremaining, -⟩ := repay_eq_ok h
  obtain rfl := Option.some.inj (htouch.old.symm.trans hr)
  obtain rfl := Except.ok.inj (hdebt.symm.trans hd)
  rcases hburned with ⟨hpaid, hall⟩ | ⟨hpart, hb⟩
  · exact .inl ⟨hpaid, by omega⟩
  · have hlt := Reserve.burned_lt hd hpart hb
    exact .inr ⟨hpart, by omega⟩

/-- A repayment takes what is offered but no more than the debt. Of the reserve it changes only the
idle liquidity, the scaled debt and the rates. -/
lemma repay_leaves {ledger ledger' : Ledger} {asset : Asset} {scaled amount debt : Nat}
    {reserve : Reserve} {repayment : Repayment} (hr : ledger.reserves.get? asset = some reserve)
    (hd : reserve.debtOf scaled = .ok debt)
    (h : ledger.repay asset scaled amount = .ok (repayment, ledger')) :
    repayment.paid = min amount debt ∧
      (∃ left, reserve.Leaves debt repayment.paid repayment.remaining left) ∧
      ∃ idle scaledDebt supplyRate borrowRate, ledger'.reserves.get? asset =
        some { reserve with idle, scaledDebt, supplyRate, borrowRate } := by
  obtain ⟨found, debt', reserve', htouch, -, hdebt, hpaid, hburned, -, -, hremaining, hu⟩ :=
    repay_eq_ok h
  obtain rfl := Option.some.inj (htouch.old.symm.trans hr)
  obtain rfl := Except.ok.inj (hdebt.symm.trans hd)
  obtain ⟨_, _, _, -, -, -, rfl⟩ := Reserve.refreshRates_eq_ok hu
  refine ⟨hpaid, ?_, _, _, _, _, htouch.new⟩
  rcases hburned with ⟨hall, hwhole⟩ | ⟨hpart, hb⟩
  · have hnothing : repayment.remaining = 0 := by omega
    rw [hall, hnothing]
    exact ⟨0, found.leaves_full debt'⟩
  · rw [hremaining]
    exact Reserve.leaves_of_part hd hpart hb

/-- A write-off gives up a scaled debt and records what it amounts to. -/
lemma writeOff_eq_ok {ledger ledger' : Ledger} {asset : Asset} {scaled loss : Nat}
    (h : ledger.writeOff asset scaled = .ok (loss, ledger')) :
    ∃ reserve reserve', Touches asset reserve reserve' ledger ledger' ∧
      reserve.debtOf scaled = .ok loss ∧ scaled ≤ reserve.scaledDebt ∧
      { reserve with
        scaledDebt := reserve.scaledDebt - scaled
        losses := reserve.losses + loss }.refreshRates = .ok reserve' := by
  simp only [writeOff, Ledger.reserve, bind_eq_ok, orRefuse_eq_ok, pure_eq_ok, addAmount_eq_ok,
    subAmount_eq_ok, Prod.mk.injEq] at h
  obtain ⟨reserve, hr, _, hd, _, ⟨hle, rfl⟩, _, ⟨-, rfl⟩, reserve', hu, rfl, rfl⟩ := h
  exact ⟨reserve, reserve', touches_setReserve hr reserve', hd, hle, hu⟩

/-- The switches of a reserve change nothing else. -/
lemma setFlags_eq_ok {ledger ledger' : Ledger} {asset : Asset} {active frozen borrowing : Bool}
    (h : ledger.setFlags asset active frozen borrowing = .ok ledger') :
    ∃ reserve,
      Touches asset reserve { reserve with active, frozen, borrowing } ledger ledger' := by
  simp only [setFlags, Ledger.reserve, bind_eq_ok, require_eq_ok, exists_const, orRefuse_eq_ok,
    pure_eq_ok] at h
  obtain ⟨reserve, hr, -, rfl⟩ := h
  exact ⟨reserve, touches_setReserve hr _⟩

/-- A new treasury share is set after an accrual. -/
lemma setFactor_eq_ok {ledger ledger' : Ledger} {asset : Asset} {bps now : Nat}
    (h : ledger.setFactor asset bps now = .ok ledger') :
    ∃ accrual reserve accrued reserve', Touches asset reserve reserve' ledger ledger' ∧
      bps ≤ fullShare ∧ reserve.accrue now = .ok (accrual, accrued) ∧
      { accrued with factor := bps }.refreshRates = .ok reserve' := by
  simp only [setFactor, Ledger.reserve, bind_eq_ok, require_eq_ok, exists_const, orRefuse_eq_ok,
    pure_eq_ok, Prod.exists] at h
  obtain ⟨hle, accrual, middle, ha, accrued, hr, reserve', hu, rfl⟩ := h
  obtain ⟨reserve, accrued', htouch, ha⟩ := accrue_eq_ok ha
  obtain rfl := htouch.found hr
  exact ⟨accrual, reserve, accrued, reserve', htouch.trans (touches_setReserve hr reserve'), hle,
    ha, hu⟩

/-- A new rate curve is set after an accrual. -/
lemma setModel_eq_ok {ledger ledger' : Ledger} {asset : Asset} {model : RateModel} {now : Nat}
    (h : ledger.setModel asset model now = .ok ledger') :
    ∃ accrual reserve accrued reserve', Touches asset reserve reserve' ledger ledger' ∧
      model.validate = .ok () ∧ reserve.accrue now = .ok (accrual, accrued) ∧
      { accrued with model }.refreshRates = .ok reserve' := by
  simp only [setModel, Ledger.reserve, bind_eq_ok, orRefuse_eq_ok, pure_eq_ok, Prod.exists] at h
  obtain ⟨_, hv, accrual, middle, ha, accrued, hr, reserve', hu, rfl⟩ := h
  obtain ⟨reserve, accrued', htouch, ha⟩ := accrue_eq_ok ha
  obtain rfl := htouch.found hr
  exact ⟨accrual, reserve, accrued, reserve', htouch.trans (touches_setReserve hr reserve'), hv,
    ha, hu⟩

/-- A new vault share changes nothing else. -/
lemma setVaultShare_eq_ok {ledger ledger' : Ledger} {asset : Asset} {bps : Nat}
    (h : ledger.setVaultShare asset bps = .ok ledger') :
    ∃ reserve, Touches asset reserve { reserve with vaultShare := bps } ledger ledger' ∧
      bps ≤ fullShare := by
  simp only [setVaultShare, Ledger.reserve, bind_eq_ok, require_eq_ok, exists_const, orRefuse_eq_ok,
    pure_eq_ok] at h
  obtain ⟨hle, reserve, hr, rfl⟩ := h
  exact ⟨reserve, touches_setReserve hr _, hle⟩

/-- A rebalance of the ledger rebalances one reserve. -/
lemma rebalance_eq_ok {ledger ledger' : Ledger} {vault vault' : V} {asset : Asset}
    {movement : Movement} (h : ledger.rebalance vault asset = .ok (movement, ledger', vault')) :
    ∃ reserve reserve', Touches asset reserve reserve' ledger ledger' ∧
      reserve.rebalance vault = .ok (movement, reserve', vault') := by
  simp only [rebalance, Ledger.reserve, bind_eq_ok, orRefuse_eq_ok, pure_eq_ok, Prod.exists,
    Prod.mk.injEq] at h
  obtain ⟨reserve, hr, _, reserve', _, hb, rfl, rfl, rfl⟩ := h
  exact ⟨reserve, reserve', touches_setReserve hr reserve', hb⟩

end Ledger

end PooledCredit
