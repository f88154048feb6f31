import Mathlib.Tactic.Ring
import PooledCredit.Proofs.Runs

/-!
# What a health factor says exactly

The health of a loan is a rounded quotient of rounded quotients. It is below one exactly when the
debt is worth more than the collateral at the liquidation threshold, as both are told. Since the
index, the debt and its worth are rounded up, a loan that is told to be healthy is healthy in exact
numbers as well. And health does not rise when time passes, when more is owed, when the debt's asset
becomes dearer, or when the token or the threshold falls.
-/

namespace PooledCredit

/-! ## Growth -/

/-- Growth does not shrink as time passes. -/
lemma linearGrowth_mono {rate last now now' growth growth' : Nat} (hle : now ≤ now')
    (h : linearGrowth rate last now = .ok growth)
    (h' : linearGrowth rate last now' = .ok growth') : growth ≤ growth' := by
  simp only [linearGrowth, bind_eq_ok, bareSub_eq_ok, addAmount_eq_ok] at h h'
  obtain ⟨_, -, _, ⟨-, rfl⟩, accrued, haccrued, -, rfl⟩ := h
  obtain ⟨_, -, _, ⟨-, rfl⟩, accrued', haccrued', -, rfl⟩ := h'
  have helapsed : now - last ≤ now' - last := Nat.sub_le_sub_right hle last
  exact Nat.add_le_add_left (mulDiv_down_mono (Nat.le_refl rate) helapsed haccrued haccrued') ray

/-- The debt index does not fall as time passes. -/
lemma Reserve.debtIndexAt_mono {reserve : Reserve} {now now' index index' : Nat} (hle : now ≤ now')
    (h : reserve.debtIndexAt now = .ok index) (h' : reserve.debtIndexAt now' = .ok index') :
    index ≤ index' := by
  by_cases hstill : now ≤ reserve.updatedAt ∨ reserve.scaledDebt = 0
  · rw [debtIndexAt, if_pos hstill] at h
    obtain rfl := Except.ok.inj h
    exact debtIndexAt_ge h'
  · have hstill' : ¬ (now' ≤ reserve.updatedAt ∨ reserve.scaledDebt = 0) := by omega
    rw [debtIndexAt, if_neg hstill] at h
    rw [debtIndexAt, if_neg hstill'] at h'
    obtain ⟨growth, hgrowth, h⟩ := bind_eq_ok.mp h
    obtain ⟨growth', hgrowth', h'⟩ := bind_eq_ok.mp h'
    exact mulDiv_up_mono (linearGrowth_mono hle hgrowth hgrowth') (Nat.le_refl _) h h'

/-! ## Worth -/

/-- A smaller amount is worth no more at a lower price. -/
lemma worthOf_up_mono {amount amount' price price' decimals worth worth' : Nat}
    (hamount : amount ≤ amount') (hprice : price ≤ price')
    (h : worthOf .up amount price decimals = .ok worth)
    (h' : worthOf .up amount' price' decimals = .ok worth') : worth ≤ worth' := by
  obtain ⟨scale, hscale, h⟩ := bind_eq_ok.mp h
  obtain ⟨_, hscale', h'⟩ := bind_eq_ok.mp h'
  obtain rfl := Except.ok.inj (hscale.symm.trans hscale')
  exact mulDiv_up_mono hamount hprice h h'

/-- What an amount is told to be worth is at least what it is worth exactly. -/
lemma le_worthOf_up {amount price decimals worth : Nat}
    (h : worthOf .up amount price decimals = .ok worth) :
    amount * price ≤ worth * 10 ^ decimals := by
  obtain ⟨scale, hscale, h⟩ := bind_eq_ok.mp h
  obtain ⟨-, rfl⟩ := fitAmount_eq_ok.mp hscale
  exact le_mulDiv_up h

/-! ## Health -/

/-- A loan is told to be unhealthy exactly when its debt is worth more than the collateral at the
liquidation threshold. -/
lemma unhealthy_iff {collateral worth threshold limit : Nat}
    (hlimit : shareOf .down collateral threshold = .ok limit) :
    (∃ health, healthOf collateral worth threshold = .ok health ∧ health < wad) ↔
      limit < worth := by
  have hnone : healthOf collateral 0 threshold = .ok maxHealth := rfl
  have hsome (h : worth ≠ 0) : healthOf collateral worth threshold =
      (shareOf .down collateral threshold >>= fun share => mulDiv .down share wad worth) :=
    if_neg h
  constructor
  · rintro ⟨health, h, hlt⟩
    by_cases hworth : worth = 0
    · rw [hworth, hnone] at h
      exact absurd (Except.ok.inj h ▸ hlt) (by decide)
    · rw [hsome hworth] at h
      obtain ⟨_, hshare, h⟩ := bind_eq_ok.mp h
      obtain rfl := Except.ok.inj (hlimit.symm.trans hshare)
      have hexact : limit * wad < worth * wad := by
        calc limit * wad
            < (health + 1) * worth := lt_mulDiv_down h
          _ ≤ wad * worth := Nat.mul_le_mul_right worth hlt
          _ = worth * wad := Nat.mul_comm wad worth
      exact Nat.lt_of_mul_lt_mul_right hexact
  · intro hlt
    have hworth : worth ≠ 0 := Nat.ne_zero_of_lt hlt
    have hquotient : Rounding.down.divide (limit * wad) worth < wad :=
      Nat.div_lt_of_lt_mul (Nat.mul_lt_mul_of_pos_right hlt (by decide))
    have hfits : Rounding.down.divide (limit * wad) worth < amountBound :=
      hquotient.trans (by decide)
    refine ⟨_, ?_, hquotient⟩
    rw [hsome hworth]
    exact bind_eq_ok.mpr ⟨limit, hlimit, mulDiv_eq_ok.mpr ⟨hworth, hfits, rfl⟩⟩

/-- A loan is told to be healthy exactly when its debt is worth no more than the collateral at the
liquidation threshold, rounded down. -/
lemma healthy_iff {collateral worth threshold health : Nat}
    (h : healthOf collateral worth threshold = .ok health) :
    isUnhealthy health = false ↔
      worth ≤ Rounding.down.divide (collateral * threshold) fullShare := by
  have htold : isUnhealthy health = false ↔ ¬ health < wad := decide_eq_false_iff_not
  by_cases hworth : worth = 0
  · have hmax : healthOf collateral worth threshold = .ok maxHealth := if_pos hworth
    obtain rfl := Except.ok.inj (hmax.symm.trans h)
    exact iff_of_true (htold.mpr (by decide)) (hworth ▸ Nat.zero_le _)
  · have hsome := h
    rw [healthOf, if_neg hworth] at hsome
    obtain ⟨limit, hlimit, -⟩ := bind_eq_ok.mp hsome
    obtain ⟨-, -, hfloor⟩ := mulDiv_eq_ok.mp hlimit
    rw [htold, hfloor, ← Nat.not_lt, not_iff_not, ← unhealthy_iff hlimit]
    constructor
    · exact fun hlt => ⟨health, h, hlt⟩
    · rintro ⟨told, htold, hlt⟩
      rwa [Except.ok.inj (h.symm.trans htold)]

/-- Health is an amount. -/
lemma healthOf_le_maxHealth {collateral worth threshold health : Nat}
    (h : healthOf collateral worth threshold = .ok health) : health ≤ maxHealth := by
  unfold healthOf at h
  split at h
  · exact (Except.ok.inj h).ge
  · obtain ⟨_, -, h⟩ := bind_eq_ok.mp h
    obtain ⟨-, hfits, rfl⟩ := mulDiv_eq_ok.mp h
    exact Nat.le_sub_one_of_lt hfits

/-- More debt, less collateral and a lower threshold do not make a loan healthier. A loan without
debt is at the largest health, which none exceeds. -/
lemma healthOf_anti {collateral collateral' worth worth' threshold threshold' health health' : Nat}
    (hworth : worth ≤ worth') (hcollateral : collateral' ≤ collateral)
    (hthreshold : threshold' ≤ threshold)
    (h : healthOf collateral worth threshold = .ok health)
    (h' : healthOf collateral' worth' threshold' = .ok health') : health' ≤ health := by
  by_cases hnone : worth = 0
  · have hmax : healthOf collateral worth threshold = .ok maxHealth := if_pos hnone
    obtain rfl := Except.ok.inj (hmax.symm.trans h)
    exact healthOf_le_maxHealth h'
  · have hsome : worth' ≠ 0 := by omega
    rw [healthOf, if_neg hnone] at h
    rw [healthOf, if_neg hsome] at h'
    obtain ⟨limit, hlimit, h⟩ := bind_eq_ok.mp h
    obtain ⟨limit', hlimit', h'⟩ := bind_eq_ok.mp h'
    obtain ⟨-, -, rfl⟩ := mulDiv_eq_ok.mp h
    obtain ⟨-, -, rfl⟩ := mulDiv_eq_ok.mp h'
    have hle : limit' ≤ limit := mulDiv_down_mono hcollateral hthreshold hlimit' hlimit
    exact Nat.div_le_div (Nat.mul_le_mul_right wad hle) hworth hnone

/-! ## Valuations -/

namespace Valuation

variable {O : Type} [PriceSource O] {prices : O} {reserve : Reserve} {terms : CollateralTerms}
variable {item : Item} {scaled now maxAge : Nat} {valuation : Valuation}

/-- What a valuation is computed from. -/
structure Steps (prices : O) (reserve : Reserve) (terms : CollateralTerms) (item : Item)
    (scaled now maxAge : Nat) (valuation : Valuation) where
  /-- The debt index of the moment. -/
  index : Nat
  /-- What may still be borrowed, in base units. -/
  room : Nat
  collateral : itemPrice prices item now maxAge = .ok valuation.collateralValue
  priced : assetPrice prices reserve.asset now maxAge = .ok valuation.price
  reached : reserve.debtIndexAt now = .ok index
  owes : rayMul .up scaled index = .ok valuation.debt
  weighs : worthOf .up valuation.debt valuation.price reserve.decimals = .ok valuation.debtValue
  rooms : capacityOf valuation.collateralValue valuation.debtValue terms.ltv = .ok room
  capacity : amountWorth .down room valuation.price reserve.decimals = .ok valuation.capacity
  health : healthOf valuation.collateralValue valuation.debtValue terms.threshold =
    .ok valuation.health

/-- A valuation comes from such steps. -/
lemma of_eq_ok (h : Valuation.of prices reserve terms item scaled now maxAge = .ok valuation) :
    Nonempty (Steps prices reserve terms item scaled now maxAge valuation) := by
  simp only [Valuation.of, bind_eq_ok, pure_eq_ok] at h
  obtain ⟨collateral, hcollateral, price, hprice, index, hindex, debt, hdebt, debtValue, hvalue, _,
    -, room, hroom, capacity, hcapacity, _, -, health, hhealth, rfl⟩ := h
  exact ⟨index, room, hcollateral, hprice, hindex, hdebt, hvalue, hroom, hcapacity, hhealth⟩

/-- A loan that is told to be healthy is healthy in exact numbers: its debt, in exact interest and
at the exact price, is worth no more than the collateral at the liquidation threshold. -/
lemma Steps.exact_of_healthy (s : Steps prices reserve terms item scaled now maxAge valuation)
    (hhealthy : isUnhealthy valuation.health = false) :
    scaled * s.index * valuation.price * fullShare ≤
      valuation.collateralValue * terms.threshold * ray * 10 ^ reserve.decimals := by
  have howed : scaled * s.index ≤ valuation.debt * ray := le_mulDiv_up s.owes
  have hworth := le_worthOf_up s.weighs
  have hlimit := (healthy_iff s.health).mp hhealthy
  have hshare : valuation.debtValue * fullShare ≤ valuation.collateralValue * terms.threshold :=
    (Nat.mul_le_mul_right fullShare hlimit).trans (Nat.div_mul_le_self _ _)
  calc scaled * s.index * valuation.price * fullShare
      ≤ valuation.debt * ray * valuation.price * fullShare :=
        Nat.mul_le_mul_right _ (Nat.mul_le_mul_right _ howed)
    _ = valuation.debt * valuation.price * (ray * fullShare) := by ring
    _ ≤ valuation.debtValue * 10 ^ reserve.decimals * (ray * fullShare) :=
        Nat.mul_le_mul_right _ hworth
    _ = valuation.debtValue * fullShare * (ray * 10 ^ reserve.decimals) := by ring
    _ ≤ valuation.collateralValue * terms.threshold * (ray * 10 ^ reserve.decimals) :=
        Nat.mul_le_mul_right _ hshare
    _ = valuation.collateralValue * terms.threshold * ray * 10 ^ reserve.decimals := by ring

/-- For any two valuations in one reserve, the later one, with no less scaled debt, no lower price
of the asset, no higher price of the token and no higher threshold, tells no better health. -/
lemma Steps.health_anti {P : Type} [PriceSource P] {prices' : P} {terms' : CollateralTerms}
    {item' : Item} {scaled' now' maxAge' : Nat} {valuation' : Valuation}
    (s : Steps prices reserve terms item scaled now maxAge valuation)
    (s' : Steps prices' reserve terms' item' scaled' now' maxAge' valuation') (hnow : now ≤ now')
    (hscaled : scaled ≤ scaled') (hprice : valuation.price ≤ valuation'.price)
    (hcollateral : valuation'.collateralValue ≤ valuation.collateralValue)
    (hthreshold : terms'.threshold ≤ terms.threshold) : valuation'.health ≤ valuation.health := by
  have hindex := Reserve.debtIndexAt_mono hnow s.reached s'.reached
  have hdebt : valuation.debt ≤ valuation'.debt := mulDiv_up_mono hscaled hindex s.owes s'.owes
  have hworth := worthOf_up_mono hdebt hprice s.weighs s'.weighs
  exact healthOf_anti hworth hcollateral hthreshold s.health s'.health

/-- A loan is told to be healthy exactly when its debt is worth no more than the collateral at the
liquidation threshold, rounded down. The prices that are told are the fresh prices of the token and
of the asset, and a loan that is told to be healthy is so in exact numbers. And of any two
valuations in one reserve, at whatever prices and on whatever terms, the one that is not earlier,
with no less scaled debt, no lower price of the asset, no higher price of the token and no higher
threshold tells a health that is not higher. -/
theorem health_never_overstated
    (h : Valuation.of prices reserve terms item scaled now maxAge = .ok valuation) :
    (isUnhealthy valuation.health = false ↔ valuation.debtValue ≤
      Rounding.down.divide (valuation.collateralValue * terms.threshold) fullShare) ∧
    (∃ index, itemPrice prices item now maxAge = .ok valuation.collateralValue ∧
      assetPrice prices reserve.asset now maxAge = .ok valuation.price ∧
      reserve.debtIndexAt now = .ok index ∧
      (isUnhealthy valuation.health = false →
        scaled * index * valuation.price * fullShare ≤
          valuation.collateralValue * terms.threshold * ray * 10 ^ reserve.decimals)) ∧
    ∀ (P : Type) [PriceSource P] (prices' : P) (terms' : CollateralTerms) (item' : Item)
      (scaled' now' maxAge' : Nat) (valuation' : Valuation),
      Valuation.of prices' reserve terms' item' scaled' now' maxAge' = .ok valuation' →
      now ≤ now' → scaled ≤ scaled' → valuation.price ≤ valuation'.price →
      valuation'.collateralValue ≤ valuation.collateralValue →
      terms'.threshold ≤ terms.threshold → valuation'.health ≤ valuation.health := by
  obtain ⟨s⟩ := of_eq_ok h
  refine ⟨healthy_iff s.health, ?_, ?_⟩
  · exact ⟨s.index, s.collateral, s.priced, s.reached, s.exact_of_healthy⟩
  intro P _ prices' terms' item' scaled' now' maxAge' valuation' h'
  obtain ⟨s'⟩ := of_eq_ok h'
  exact s.health_anti s'

end Valuation

namespace SmallMarket

/-- At first a scaled debt of 800 is just healthy on the token, of which 800 are the limit. A year
later it owes more and is told to be unhealthy, which is a lower health. -/
theorem lent_limit_health :
    ∃ reserve index before after,
      lent.state.store.ledger.reserves.get? coin = some reserve ∧
      Valuation.of feeds reserve {} ⟨art, 1⟩ 800 0 day = .ok before ∧
      Valuation.of feeds reserve {} ⟨art, 1⟩ 800 year year = .ok after ∧
      reserve.debtIndexAt 0 = .ok index ∧ isUnhealthy before.health = false ∧
      before.debtValue ≤ Rounding.down.divide (before.collateralValue * 8000) fullShare ∧
      800 * index * before.price * fullShare ≤
        before.collateralValue * 8000 * ray * 10 ^ reserve.decimals ∧
      isUnhealthy after.health = true ∧ after.health ≤ before.health := by
  have hruns : (do
      let reserve ← lent.state.store.ledger.reserve coin
      let before ← Valuation.of feeds reserve {} ⟨art, 1⟩ 800 0 day
      let after ← Valuation.of feeds reserve {} ⟨art, 1⟩ 800 year year
      return (isUnhealthy before.health, isUnhealthy after.health,
        decide (before.price ≤ after.price ∧ after.collateralValue ≤ before.collateralValue))) =
      .ok (false, true, true) := by decide +kernel
  simp only [Ledger.reserve, bind_eq_ok, orRefuse_eq_ok, pure_eq_ok, Prod.mk.injEq,
    decide_eq_true_eq] at hruns
  obtain ⟨reserve, hr, before, hbefore, after, hafter, hhealthy, hunhealthy, hprice,
    hcollateral⟩ := hruns
  obtain ⟨hiff, ⟨index, -, -, hindex, hexact⟩, hanti⟩ := Valuation.health_never_overstated hbefore
  exact ⟨reserve, index, before, after, hr, hbefore, hafter, hindex, hhealthy, hiff.mp hhealthy,
    hexact hhealthy, hunhealthy, hanti PriceFeeds feeds {} _ 800 year year after hafter
      (Nat.zero_le _) (Nat.le_refl _) hprice hcollateral (Nat.le_refl _)⟩

end SmallMarket

end PooledCredit
