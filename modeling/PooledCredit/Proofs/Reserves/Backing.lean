import PooledCredit.Proofs.Reserves.Balances
import PooledCredit.Proofs.Reserves.Interest

/-!
# What stands behind the claims of suppliers

Behind the claims of the suppliers of a reserve stand its funds, the debt owed to it and the
losses it has recorded. A recorded loss goes on earning interest with the claims on it, so it
counts at the supply index. Every operation that does not accrue keeps the claims covered. An
accrual credits at most what it charges, but for a *slack* that makes up for its roundings: debt
is rounded up to whole units before its rate is applied.
-/

namespace PooledCredit

namespace Reserve

/-- The whole debt in whole units. -/
def owed (reserve : Reserve) : Nat :=
  Rounding.up.divide (reserve.scaledDebt * reserve.debtIndex) ray

/-- What the suppliers may claim, in ray. -/
def claims (reserve : Reserve) : Nat := reserve.scaledSupply * reserve.supplyIndex

/-- What stands behind the claims, in ray: the funds, the debt and the losses at the supply
index. -/
def backing (reserve : Reserve) : Nat :=
  reserve.funds * ray + reserve.scaledDebt * reserve.debtIndex +
    reserve.supplyIndex * reserve.losses

/-- By how much a change of a reserve may let the claims outrun the backing, in scaled supply:
nothing unless it accrued, and else one unit and the whole rays in what is owed and in the growth
of the debt index. -/
def slack (before after : Reserve) : Nat :=
  if after.updatedAt = before.updatedAt then 0
  else
    (before.owed + before.borrowRate * (after.updatedAt - before.updatedAt) / year) / ray + 1

/-- The rates are those of the present balances. -/
def Current (reserve : Reserve) : Prop :=
  ∃ debt, reserve.debt = .ok debt ∧ reserve.model.rates reserve.funds debt reserve.factor =
    .ok ⟨reserve.supplyRate, reserve.borrowRate⟩

/-- The claims are covered by the backing and a drift of scaled supply, and the rates are those of
the present balances. -/
structure Backed (reserve : Reserve) (drift : Nat) : Prop where
  grown : ray ≤ reserve.supplyIndex
  covers : reserve.claims ≤ reserve.backing + reserve.supplyIndex * drift
  current : reserve.Current

/-- A change that leaves the indices and the clock alone and, as losses count at a supply index of
at least one ray, adds at least as much to the backing as to the claims. -/
structure Calm (before after : Reserve) : Prop where
  supplyIndex : after.supplyIndex = before.supplyIndex
  debtIndex : after.debtIndex = before.debtIndex
  updatedAt : after.updatedAt = before.updatedAt
  covers : ray ≤ before.supplyIndex → after.claims + before.backing ≤ before.claims + after.backing

/-- A calm change after which the rates are current if they were before. -/
structure Quiet (before after : Reserve) : Prop extends Calm before after where
  current : before.Current → after.Current

/-- A change that keeps a reserve backed when its slack is added to the drift. -/
def Turns (before after : Reserve) : Prop :=
  ∀ drift, before.Backed drift → after.Backed (drift + before.slack after)

variable {reserve reserve' before middle after : Reserve} {now amount : Nat}

/-! ## Changes without an accrual -/

/-- The debt is what is owed. -/
lemma debt_eq_owed {debt : Nat} (h : reserve.debt = .ok debt) : debt = reserve.owed := by
  simp only [Reserve.debt, debtOf, rayMul, mulDiv_eq_ok] at h
  exact h.2.2.symm

/-- A larger drift backs a reserve as well. -/
lemma Backed.mono {drift drift' : Nat} (h : reserve.Backed drift) (hle : drift ≤ drift') :
    reserve.Backed drift' where
  grown := h.grown
  covers := h.covers.trans (Nat.add_le_add_left (Nat.mul_le_mul_left _ hle) _)
  current := h.current

/-- No change is calm. -/
lemma Calm.refl (reserve : Reserve) : reserve.Calm reserve :=
  ⟨rfl, rfl, rfl, fun _ => Nat.le_refl _⟩

/-- Two calm changes are one. -/
lemma Calm.trans (h : before.Calm middle) (h' : middle.Calm after) : before.Calm after where
  supplyIndex := h'.supplyIndex.trans h.supplyIndex
  debtIndex := h'.debtIndex.trans h.debtIndex
  updatedAt := h'.updatedAt.trans h.updatedAt
  covers hgrown := by
    have hle := h.covers hgrown
    have hle' := h'.covers (h.supplyIndex ▸ hgrown)
    omega

/-- Refreshed rates are those of the present balances. -/
lemma refreshRates_current (hu : reserve.refreshRates = .ok reserve') : reserve'.Current := by
  obtain ⟨liquidity, debt, rates, hl, hd, hr, rfl⟩ := refreshRates_eq_ok hu
  obtain ⟨-, rfl⟩ := addAmount_eq_ok.mp hl
  exact ⟨debt, hd, hr⟩

/-- Refreshing the rates is calm, and the rates are current afterwards. -/
lemma Calm.refreshed (h : before.Calm middle) (hu : middle.refreshRates = .ok after) :
    before.Quiet after := by
  have hcurrent := refreshRates_current hu
  obtain ⟨_, _, _, -, -, -, rfl⟩ := refreshRates_eq_ok hu
  exact {
    supplyIndex := h.supplyIndex
    debtIndex := h.debtIndex
    updatedAt := h.updatedAt
    covers := h.covers
    current := fun _ => hcurrent }

/-- No change is quiet. -/
lemma Quiet.refl (reserve : Reserve) : reserve.Quiet reserve := ⟨.refl reserve, id⟩

/-- Two quiet changes are one. -/
lemma Quiet.trans (h : before.Quiet middle) (h' : middle.Quiet after) : before.Quiet after :=
  ⟨h.toCalm.trans h'.toCalm, h'.current ∘ h.current⟩

/-- A quiet change keeps a reserve backed. -/
lemma Quiet.backed (h : before.Quiet after) {drift : Nat} (hb : before.Backed drift) :
    after.Backed drift where
  grown := by
    rw [h.supplyIndex]
    exact hb.grown
  covers := by
    have hle := h.covers hb.grown
    have hcovers := hb.covers
    rw [h.supplyIndex]
    omega
  current := h.current hb.current

/-- A change and a quiet change after it. -/
lemma Turns.quiet (h : before.Turns middle) (h' : middle.Quiet after) : before.Turns after := by
  intro drift hb
  have hslack : before.slack after = before.slack middle := by
    simp only [slack, h'.updatedAt]
  rw [hslack]
  exact h'.backed (h drift hb)

/-- A quiet change has no slack. -/
lemma Quiet.turns (h : before.Quiet after) : before.Turns after := by
  intro drift hb
  rw [slack, if_pos h.updatedAt]
  exact h.backed hb

/-! ## Accruals -/

/-- The growth of an index is its rate over the time, rounded down. -/
lemma linearGrowth_eq_ok {rate last growth : Nat} (h : linearGrowth rate last now = .ok growth) :
    growth = ray + rate * (now - last) / year := by
  simp only [linearGrowth, bind_eq_ok, require_eq_ok, exists_const, addAmount_eq_ok,
    bareSub_eq_ok, mulDiv_eq_ok] at h
  obtain ⟨-, _, ⟨-, rfl⟩, _, ⟨-, -, rfl⟩, -, rfl⟩ := h
  rfl

/-- The supply index does not fall, and it grows by at most its rate over the time. -/
lemma supplyIndexAt_eq_ok {index : Nat} (h : reserve.supplyIndexAt now = .ok index) :
    ∃ earned, earned * year ≤ reserve.supplyRate * (now - reserve.updatedAt) ∧
      index * ray ≤ (ray + earned) * reserve.supplyIndex ∧ reserve.supplyIndex ≤ index := by
  unfold supplyIndexAt at h
  split at h
  · cases h
    refine ⟨0, ?_, ?_, Nat.le_refl _⟩
    · rw [Nat.zero_mul]
      exact Nat.zero_le _
    · rw [Nat.add_zero, Nat.mul_comm]
  · simp only [bind_eq_ok] at h
    obtain ⟨growth, hg, hm⟩ := h
    obtain rfl := linearGrowth_eq_ok hg
    refine ⟨_, Nat.div_mul_le_self _ _, mulDiv_down_le hm, ?_⟩
    have hlt := lt_mulDiv_down hm
    rw [Nat.add_mul, Nat.mul_comm ray] at hlt
    have hray : 0 < ray := by decide
    have hmul := Nat.lt_of_le_of_lt (Nat.le_add_right _ _) hlt
    exact Nat.le_of_lt_succ (Nat.lt_of_mul_lt_mul_right hmul)

/-- The debt grows by at least the borrow rate over the time, rounded down. -/
lemma debtIndexAt_eq_ok {index : Nat} (h : reserve.debtIndexAt now = .ok index)
    (hlater : reserve.updatedAt < now) :
    reserve.scaledDebt *
        ((ray + reserve.borrowRate * (now - reserve.updatedAt) / year) * reserve.debtIndex) ≤
      reserve.scaledDebt * index * ray := by
  unfold debtIndexAt at h
  split at h
  · next hor =>
    have hzero : reserve.scaledDebt = 0 := by omega
    rw [hzero]
    simp
  · simp only [bind_eq_ok] at h
    obtain ⟨growth, hg, hm⟩ := h
    obtain rfl := linearGrowth_eq_ok hg
    rw [Nat.mul_assoc]
    exact Nat.mul_le_mul_left _ (le_mulDiv_up hm)

/-- After an accrual the clock of a reserve stands at the time of the accrual. -/
lemma accrue_updatedAt {accrual : Accrual} (h : reserve.accrue now = .ok (accrual, reserve')) :
    reserve'.updatedAt = now := by
  rcases accrue_eq_ok h with ⟨rfl, -, rfl⟩ | ⟨-, _, _, _, _, _, -, -, -, -, -, -, -, -, hu⟩
  · rfl
  · obtain ⟨_, _, _, -, -, -, rfl⟩ := refreshRates_eq_ok hu
    rfl

/-- A reserve whose claims are covered is backed once its rates are refreshed. -/
lemma backed_of_refreshed {drift : Nat} (hgrown : ray ≤ middle.supplyIndex)
    (hcovers : middle.claims ≤ middle.backing + middle.supplyIndex * drift)
    (hu : middle.refreshRates = .ok after) : after.Backed drift := by
  have hcurrent := refreshRates_current hu
  obtain ⟨_, _, _, -, -, -, rfl⟩ := refreshRates_eq_ok hu
  exact ⟨hgrown, hcovers, hcurrent⟩

/-- An accrual keeps a reserve backed when its slack is added to the drift. -/
theorem accrue_turns {accrual : Accrual} (h : reserve.accrue now = .ok (accrual, reserve')) :
    reserve.Turns reserve' := by
  rcases accrue_eq_ok h with ⟨-, -, rfl⟩ |
    ⟨hlater, index', debtIndex', owed, owed', toTreasury, hindex, hdebtIndex, howed, howed', hle,
      hinterest, htreasury, hminted, hu⟩
  · exact (Quiet.refl _).turns
  intro drift hb
  -- what is charged: the debt before the accrual, at the rate that is current for it
  obtain ⟨debt, hdebt, hrates⟩ := hb.current
  obtain rfl := Except.ok.inj (howed.symm.trans hdebt)
  have hround : rayMul .up reserve.scaledDebt reserve.debtIndex = .ok owed := howed
  have hcharged := Nat.lt_mul_div_succ (reserve.borrowRate * (now - reserve.updatedAt))
    (show 0 < year by decide)
  rw [Nat.mul_comm year] at hcharged
  have hcharge := debtIndexAt_eq_ok hdebtIndex hlater
  -- what is credited: the growth of the supply and the treasury's share of the interest
  obtain ⟨earned, hearned, hgrown, hrisen⟩ := supplyIndexAt_eq_ok hindex
  obtain ⟨hfactor, hsupply⟩ := RateModel.supply_le_borrow hrates
  have hgrowth := growth_le hsupply hearned hcharged
  have hgained : accrual.interest * ray + reserve.scaledDebt * reserve.debtIndex ≤
      reserve.scaledDebt * debtIndex' + ray := by
    have hbefore := le_mulDiv_up hround
    have hafter := mulDiv_up_lt howed'
    have hmono := Nat.mul_le_mul_right ray hle
    rw [hinterest, Nat.sub_mul]
    omega
  -- the slack makes up for the roundings
  have hslack : owed + reserve.borrowRate * (now - reserve.updatedAt) / year ≤
      ray * reserve.slack reserve' := by
    rw [slack, accrue_updatedAt h, if_neg (Nat.ne_of_gt hlater), ← debt_eq_owed howed]
    exact (Nat.lt_mul_div_succ _ (by decide)).le
  have hpositive : 0 < reserve.slack reserve' := by
    rw [slack, accrue_updatedAt h, if_neg (Nat.ne_of_gt hlater)]
    exact Nat.succ_pos _
  have hcovers : reserve.scaledSupply * reserve.supplyIndex ≤ reserve.funds * ray +
      reserve.scaledDebt * reserve.debtIndex + reserve.supplyIndex * (reserve.losses + drift) := by
    rw [Nat.mul_add, ← Nat.add_assoc]
    exact hb.covers
  have hcovered := accrual_covers hfactor hb.grown (hb.grown.trans hrisen) hcovers
    (le_mulDiv_up hround) (mulDiv_up_lt hround) hgrown hcharge hgrowth hgained
    (mulDiv_down_le htreasury) (mulDiv_down_le hminted) hslack hpositive
  refine backed_of_refreshed (hb.grown.trans hrisen) ?_ hu
  show (reserve.scaledSupply + accrual.treasuryScaled) * index' ≤ reserve.funds * ray +
    reserve.scaledDebt * debtIndex' + index' * reserve.losses +
      index' * (drift + reserve.slack reserve')
  rw [Nat.add_assoc _ (index' * _), ← Nat.mul_add, ← Nat.add_assoc reserve.losses]
  exact hcovered

/-! ## The vault -/

/-- Funds that become a loss weigh no less at a supply index of at least one ray. -/
lemma funds_le_losses {funds funds' loss index : Nat} (h : funds ≤ funds' + loss)
    (hindex : ray ≤ index) : funds * ray ≤ funds' * ray + index * loss :=
  calc funds * ray ≤ (funds' + loss) * ray := Nat.mul_le_mul_right ray h
    _ = funds' * ray + ray * loss := by ring
    _ ≤ funds' * ray + index * loss := by gcongr

/-- Booking a withdrawal is calm: what leaves the placement comes back or is a loss. -/
lemma receive_calm {withdrawal : Withdrawal} {movement : Movement}
    (h : reserve.receive withdrawal = .ok (movement, reserve')) : reserve.Calm reserve' := by
  obtain ⟨-, rfl⟩ := receive_eq_ok h
  refine ⟨rfl, rfl, rfl, fun hgrown => ?_⟩
  have hfunds : reserve.idle + reserve.invested ≤ reserve.idle + withdrawal.actual +
      (reserve.invested - min (withdrawal.actual + withdrawal.loss) reserve.invested) +
        withdrawal.loss := by
    omega
  have hle := funds_le_losses hfunds hgrown
  simp only [claims, backing, funds, Nat.mul_add]
  omega

/-- Recognizing a report is calm: what the vault no longer holds is a loss. -/
lemma recognize_calm {report : VaultReport} {loss : Nat}
    (h : reserve.recognize report = .ok (loss, reserve')) : reserve.Calm reserve' := by
  obtain ⟨hloss, rfl⟩ := recognize_eq_ok h
  refine ⟨rfl, rfl, rfl, fun hgrown => ?_⟩
  have hfunds : reserve.idle + reserve.invested ≤
      reserve.idle + (reserve.invested - loss) + loss := by
    omega
  have hle := funds_le_losses hfunds hgrown
  simp only [claims, backing, funds, Nat.mul_add]
  omega

variable {V : Type} [Vault V] {vault vault' : V} {movement : Movement}

/-- A pull is quiet. -/
lemma pull_quiet {needed : Nat} (h : reserve.pull vault needed = .ok (movement, reserve', vault')) :
    reserve.Quiet reserve' := by
  rcases pull_eq_ok h with ⟨-, rfl, -⟩ | ⟨_, _, received, -, -, hreceive, hu⟩
  · exact .refl _
  · exact (receive_calm hreceive).refreshed hu

/-- A rebalance is quiet. -/
lemma rebalance_quiet (h : reserve.rebalance vault = .ok (movement, reserve', vault')) :
    reserve.Quiet reserve' := by
  obtain ⟨loss, known, last, hk, hu, hmove⟩ := rebalance_eq_ok h
  refine Calm.refreshed ((recognize_calm hk).trans ?_) hu
  rcases hmove with ⟨-, rfl, -⟩ | ⟨amount, -, hle, -, rfl⟩ | ⟨_, _, _, -, -, hreceive, -⟩
  · exact .refl _
  · refine ⟨rfl, rfl, rfl, fun _ => ?_⟩
    simp only [claims, backing, funds]
    rw [show known.idle - amount + (known.invested + amount) = known.idle + known.invested by omega]
  · exact receive_calm hreceive

end Reserve

/-! ## The ledger -/

namespace Ledger

/-- Every reserve that a ledger has after a change was there before and changed quietly. -/
def Quiet (ledger ledger' : Ledger) : Prop :=
  ∀ asset after, ledger'.reserves.get? asset = some after →
    ∃ before, ledger.reserves.get? asset = some before ∧ before.Quiet after

/-- Every reserve that a ledger has after a change is new and backed, or it was there before and
accrued at most once. -/
def Turns (ledger ledger' : Ledger) : Prop :=
  ∀ asset after, ledger'.reserves.get? asset = some after →
    (ledger.reserves.get? asset = none ∧ after.Backed 0) ∨
      ∃ before, ledger.reserves.get? asset = some before ∧ before.Turns after

variable {ledger middle ledger' : Ledger} {asset : Asset} {now amount : Nat}

/-- No change is quiet. -/
lemma Quiet.refl (ledger : Ledger) : ledger.Quiet ledger :=
  fun _ after h => ⟨after, h, .refl after⟩

/-- Two quiet changes are one. -/
lemma Quiet.trans (h : ledger.Quiet middle) (h' : middle.Quiet ledger') : ledger.Quiet ledger' := by
  intro asset after hafter
  obtain ⟨between, hbetween, hq'⟩ := h' asset after hafter
  obtain ⟨before, hbefore, hq⟩ := h asset between hbetween
  exact ⟨before, hbefore, hq.trans hq'⟩

/-- A quiet change accrues nothing. -/
lemma Quiet.turns (h : ledger.Quiet ledger') : ledger.Turns ledger' := by
  intro asset after hafter
  obtain ⟨before, hbefore, hq⟩ := h asset after hafter
  exact .inr ⟨before, hbefore, hq.turns⟩

/-- A change and a quiet change after it. -/
lemma Turns.quiet (h : ledger.Turns middle) (h' : middle.Quiet ledger') : ledger.Turns ledger' := by
  intro asset after hafter
  obtain ⟨between, hbetween, hq⟩ := h' asset after hafter
  rcases h asset between hbetween with ⟨hnone, hb⟩ | ⟨before, hbefore, ht⟩
  · exact .inl ⟨hnone, hq.backed hb⟩
  · exact .inr ⟨before, hbefore, ht.quiet hq⟩

/-- A ledger changes quietly when the one reserve that is touched does. -/
lemma Touches.quiet {before after : Reserve} (h : Touches asset before after ledger ledger')
    (hq : before.Quiet after) : ledger.Quiet ledger' := by
  intro other found hfound
  by_cases hother : other = asset
  · subst hother
    obtain rfl := h.found hfound
    exact ⟨before, h.old, hq⟩
  · rw [h.others other hother] at hfound
    exact ⟨found, hfound, .refl found⟩

/-- A ledger turns when the one reserve that is touched does. -/
lemma Touches.turns {before after : Reserve} (h : Touches asset before after ledger ledger')
    (ht : before.Turns after) : ledger.Turns ledger' := by
  intro other found hfound
  by_cases hother : other = asset
  · subst hother
    obtain rfl := h.found hfound
    exact .inr ⟨before, h.old, ht⟩
  · rw [h.others other hother] at hfound
    exact .inr ⟨found, hfound, (Reserve.Quiet.refl found).turns⟩

/-- An accrual turns the ledger. -/
lemma accrue_turns {accrual : Accrual} (h : ledger.accrue asset now = .ok (accrual, ledger')) :
    ledger.Turns ledger' := by
  obtain ⟨_, _, htouch, ha⟩ := accrue_eq_ok h
  exact htouch.turns (Reserve.accrue_turns ha)

/-- A deposit is worth the supply that is minted for it. -/
lemma deposit_turns {account : Account} {scaled : Nat}
    (h : ledger.deposit asset account amount now = .ok (scaled, ledger')) :
    ledger.Turns ledger' := by
  obtain ⟨_, reserve, accrued, reserve', htouch, ha, hscaled, hu⟩ := deposit_eq_ok h
  refine htouch.turns ((Reserve.accrue_turns ha).quiet (Reserve.Calm.refreshed ?_ hu))
  refine ⟨rfl, rfl, rfl, fun _ => ?_⟩
  have hworth : scaled * accrued.supplyIndex ≤ amount * ray := mulDiv_down_le hscaled
  simp only [Reserve.claims, Reserve.backing, Reserve.funds, Nat.add_mul]
  omega

variable {V : Type} [Vault V] {vault vault' : V}

/-- A withdrawal burns supply that is worth what it pays. -/
lemma withdraw_turns {owner : Account} {paid : Nat} {movement : Movement}
    (h : ledger.withdraw vault asset owner amount now = .ok (paid, movement, ledger', vault')) :
    ledger.Turns ledger' := by
  obtain ⟨_, reserve, accrued, pulled, reserve', burned, htouch, ha, hp, hidle, hsupply, hworth,
    hu⟩ := withdraw_eq_ok h
  have hpull := Reserve.pull_quiet hp
  refine htouch.turns ((Reserve.accrue_turns ha).quiet (hpull.trans (Reserve.Calm.refreshed ?_ hu)))
  refine ⟨rfl, rfl, rfl, fun _ => ?_⟩
  rw [← hpull.supplyIndex] at hworth
  have hclaims := Nat.mul_le_mul_right pulled.supplyIndex hsupply
  have hfunds := Nat.mul_le_mul_right ray hidle
  simp only [Reserve.claims, Reserve.backing, Reserve.funds, Nat.add_mul, Nat.sub_mul]
  omega

/-- Lending adds debt that is worth what it pays. -/
lemma lend_calm {scaled : Nat}
    (h : ledger.lend vault asset amount now = .ok (scaled, ledger', vault')) :
    ∃ accrual reserve accrued reserve', Touches asset reserve reserve' ledger ledger' ∧
      reserve.accrue now = .ok (accrual, accrued) ∧ accrued.Quiet reserve' := by
  obtain ⟨accrual, reserve, accrued, _, pulled, reserve', htouch, -, ha, hp, hidle, hscaled, hu⟩ :=
    lend_eq_ok h
  refine ⟨accrual, reserve, accrued, reserve', htouch, ha, ?_⟩
  refine (Reserve.pull_quiet hp).trans (Reserve.Calm.refreshed ?_ hu)
  refine ⟨rfl, rfl, rfl, fun _ => ?_⟩
  have hworth : amount * ray ≤ scaled * pulled.debtIndex := le_mulDiv_up hscaled
  have hfunds := Nat.mul_le_mul_right ray hidle
  simp only [Reserve.claims, Reserve.backing, Reserve.funds, Nat.add_mul, Nat.sub_mul]
  omega

/-- An accrual followed by lending at the same time turns the ledger: the second accrual does
nothing. -/
lemma accrue_lend_turns {accrual : Accrual} {scaled : Nat}
    (ha : ledger.accrue asset now = .ok (accrual, middle))
    (hl : middle.lend vault asset amount now = .ok (scaled, ledger', vault')) :
    ledger.Turns ledger' := by
  obtain ⟨_, _, htouch, haccrue⟩ := accrue_eq_ok ha
  obtain ⟨_, accrued, again, lent, htouch', hagain, hquiet⟩ := lend_calm hl
  obtain rfl := htouch.found htouch'.old
  obtain rfl := Reserve.accrue_updatedAt haccrue
  obtain ⟨-, rfl⟩ := Prod.mk.inj (Except.ok.inj (accrued.accrue_again.symm.trans hagain))
  exact (htouch.turns (Reserve.accrue_turns haccrue)).quiet (htouch'.quiet hquiet)

/-- A repayment burns debt that is worth at most what is paid. -/
lemma repay_quiet {scaled : Nat} {repayment : Repayment}
    (h : ledger.repay asset scaled amount = .ok (repayment, ledger')) : ledger.Quiet ledger' := by
  obtain ⟨reserve, debt, reserve', htouch, -, hdebt, -, hburned, hle, -, -, hu⟩ := repay_eq_ok h
  have hworth : repayment.burned * reserve.debtIndex ≤ repayment.paid * ray := by
    rcases hburned with ⟨hpaid, hall⟩ | ⟨-, hpart⟩
    · rw [hpaid, hall]
      exact le_mulDiv_up hdebt
    · exact mulDiv_down_le hpart
  refine htouch.quiet (Reserve.Calm.refreshed ?_ hu)
  refine ⟨rfl, rfl, rfl, fun _ => ?_⟩
  have hdebts := Nat.mul_le_mul_right reserve.debtIndex hle
  simp only [Reserve.claims, Reserve.backing, Reserve.funds, Nat.add_mul, Nat.sub_mul]
  omega

/-- A write-off records at least what the debt is worth. -/
lemma writeOff_quiet {scaled loss : Nat}
    (h : ledger.writeOff asset scaled = .ok (loss, ledger')) : ledger.Quiet ledger' := by
  obtain ⟨reserve, reserve', htouch, hloss, hle, hu⟩ := writeOff_eq_ok h
  refine htouch.quiet (Reserve.Calm.refreshed ?_ hu)
  refine ⟨rfl, rfl, rfl, fun hgrown => ?_⟩
  have hworth : scaled * reserve.debtIndex ≤ loss * ray := le_mulDiv_up hloss
  have hlosses : loss * ray ≤ reserve.supplyIndex * loss := by
    rw [Nat.mul_comm]
    exact Nat.mul_le_mul_right loss hgrown
  have hdebts := Nat.mul_le_mul_right reserve.debtIndex hle
  simp only [Reserve.claims, Reserve.backing, Reserve.funds, Nat.mul_add, Nat.sub_mul]
  omega

/-- Administering the ledger turns it. -/
lemma Administered.turns (h : ledger.Administered V ledger') : ledger.Turns ledger' := by
  cases h with
  | same => exact (Quiet.refl _).turns
  | @opened _ asset terms now h =>
    obtain ⟨reserve, hnone, -, hr, rfl⟩ := openReserve_eq_ok h
    intro other found hfound
    simp only [setReserve, SortedMap.get?_insert] at hfound
    split at hfound
    · next heq =>
      obtain rfl := Option.some.inj hfound
      refine .inl ⟨heq ▸ hnone, Reserve.backed_of_refreshed (Nat.le_refl ray) ?_ hr⟩
      simp [Reserve.claims]
    · exact .inr ⟨found, hfound, (Reserve.Quiet.refl found).turns⟩
  | switched h =>
    obtain ⟨_, htouch⟩ := setFlags_eq_ok h
    exact (htouch.quiet ⟨⟨rfl, rfl, rfl, fun _ => Nat.le_refl _⟩, id⟩).turns
  | factored h =>
    obtain ⟨_, _, _, _, htouch, -, ha, hu⟩ := setFactor_eq_ok h
    refine htouch.turns ((Reserve.accrue_turns ha).quiet (Reserve.Calm.refreshed ?_ hu))
    exact ⟨rfl, rfl, rfl, fun _ => Nat.le_refl _⟩
  | remodelled h =>
    obtain ⟨_, _, _, _, htouch, -, ha, hu⟩ := setModel_eq_ok h
    refine htouch.turns ((Reserve.accrue_turns ha).quiet (Reserve.Calm.refreshed ?_ hu))
    exact ⟨rfl, rfl, rfl, fun _ => Nat.le_refl _⟩
  | shared h =>
    obtain ⟨_, htouch, -⟩ := setVaultShare_eq_ok h
    exact (htouch.quiet ⟨⟨rfl, rfl, rfl, fun _ => Nat.le_refl _⟩, id⟩).turns
  | rebalanced ha h =>
    obtain ⟨_, _, htouch, hb⟩ := rebalance_eq_ok h
    exact (accrue_turns ha).quiet (htouch.quiet (Reserve.rebalance_quiet hb))

end Ledger

end PooledCredit
