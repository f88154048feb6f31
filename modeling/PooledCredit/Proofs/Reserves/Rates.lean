import Mathlib.Tactic.GCongr
import PooledCredit.Proofs.Reserves.Interest

/-!
# The rate curve rises and never fails

The curve is drawn in two pieces with roundings of their own. Read as one sum, of the base rate, of
what the first slope adds up to the optimal utilization and of what the second slope adds beyond it,
each term grows with the utilization; so the rate never falls, not even at the kink. The limits of
an accepted curve keep every term in range: it tells a rate at every utilization up to one, and a
reserve whose funds are in range always has rates.
-/

namespace PooledCredit

/-! ## Parts of a value -/

/-- A part of a value is at most the value. -/
lemma mul_div_le_of_le {value part whole : Nat} (hpart : part ≤ whole) :
    value * part / whole ≤ value := by
  apply Nat.div_le_of_le_mul
  rw [Nat.mul_comm whole]
  exact Nat.mul_le_mul_left value hpart

/-- A part of a value in range is in range. -/
lemma mulDiv_down_part {value part whole : Nat} (hvalue : value < amountBound) (hwhole : whole ≠ 0)
    (hpart : part ≤ whole) : mulDiv .down value part whole = .ok (value * part / whole) :=
  mulDiv_eq_ok.mpr ⟨hwhole, (mul_div_le_of_le hpart).trans_lt hvalue, rfl⟩

/-- The order of the factors of a product does not matter. -/
lemma mulDiv_comm (round : Rounding) (a b d : Nat) : mulDiv round a b d = mulDiv round b a d := by
  rw [mulDiv, mulDiv, Nat.mul_comm]

/-- Funds in range have a utilization. -/
lemma utilization_eq_ok {liquidity debt : Nat} (hfunds : liquidity + debt < amountBound) :
    ∃ used, utilization liquidity debt = .ok used := by
  by_cases hdebt : debt = 0
  · exact ⟨0, by rw [utilization, if_pos hdebt]⟩
  · have htotal : addAmount liquidity debt = .ok (liquidity + debt) :=
      addAmount_eq_ok.mpr ⟨hfunds, rfl⟩
    have hpart : mulDiv .down debt ray (liquidity + debt) =
        .ok (ray * debt / (liquidity + debt)) := by
      rw [mulDiv_comm]
      exact mulDiv_down_part (by decide) (by omega) (Nat.le_add_left debt liquidity)
    rw [utilization, if_neg hdebt]
    exact ⟨_, bind_eq_ok.mpr ⟨_, htotal, hpart⟩⟩

namespace RateModel

variable {model : RateModel} {used used' rate rate' liquidity debt factor : Nat}

/-- What the validation of a curve establishes. -/
lemma validate_eq_ok {u : Unit} :
    model.validate = .ok u ↔ (model.optimal ≠ 0 ∧ model.optimal ≤ ray) ∧
      model.base ≤ maxRate ∧ model.slope1 ≤ maxRate ∧ model.slope2 ≤ maxRate := by
  simp only [validate, bind_eq_ok, require_eq_ok, exists_const]

/-! ## The curve as one sum -/

/-- The base rate and what the two slopes add to it at a utilization. -/
def rateAt (model : RateModel) (used : Nat) : Nat :=
  model.base + model.slope1 * min used model.optimal / model.optimal +
    model.slope2 * ((used - model.optimal) * ray / (ray - model.optimal)) / ray

/-- Up to the optimal utilization only the first slope adds to the base rate. -/
lemma rateAt_of_le (h : used ≤ model.optimal) :
    model.rateAt used = model.base + model.slope1 * used / model.optimal := by
  simp [rateAt, Nat.min_eq_left h, Nat.sub_eq_zero_of_le h]

/-- Beyond the optimal utilization the first slope is added in full. -/
lemma rateAt_of_ge (hoptimal : model.optimal ≠ 0) (h : model.optimal ≤ used) :
    model.rateAt used = model.base + model.slope1 +
      model.slope2 * ((used - model.optimal) * ray / (ray - model.optimal)) / ray := by
  rw [rateAt, Nat.min_eq_right h, Nat.mul_div_cancel _ (Nat.pos_of_ne_zero hoptimal)]

/-- The sum does not fall when the utilization grows. -/
lemma rateAt_mono (h : used ≤ used') : model.rateAt used ≤ model.rateAt used' := by
  unfold rateAt
  gcongr

/-- The part of the room beyond the optimal utilization that is used is at most one. -/
lemma excess_le_ray (hused : used ≤ ray) :
    (used - model.optimal) * ray / (ray - model.optimal) ≤ ray := by
  rw [Nat.mul_comm]
  exact mul_div_le_of_le (Nat.sub_le_sub_right hused model.optimal)

/-- Up to full utilization no slope adds more than its own height. -/
lemma rateAt_le (hused : used ≤ ray) :
    model.rateAt used ≤ model.base + model.slope1 + model.slope2 := by
  have hfirst : model.slope1 * min used model.optimal / model.optimal ≤ model.slope1 :=
    mul_div_le_of_le (Nat.min_le_right used model.optimal)
  have hsecond : model.slope2 * ((used - model.optimal) * ray / (ray - model.optimal)) / ray ≤
      model.slope2 := mul_div_le_of_le (excess_le_ray hused)
  unfold rateAt
  omega

/-- Whatever rate the curve tells is the sum. -/
lemma eq_rateAt_of_borrowRate (hoptimal : model.optimal ≠ 0)
    (h : model.borrowRate used = .ok rate) : rate = model.rateAt used := by
  unfold borrowRate at h
  split at h
  · next hle =>
    simp only [bind_eq_ok, mulDiv_eq_ok, addAmount_eq_ok] at h
    obtain ⟨_, ⟨-, -, rfl⟩, -, rfl⟩ := h
    exact (rateAt_of_le hle).symm
  · next hgt =>
    simp only [bind_eq_ok, bareSub_eq_ok, rayMul, mulDiv_eq_ok, addAmount_eq_ok] at h
    obtain ⟨_, ⟨-, rfl⟩, _, ⟨-, rfl⟩, _, ⟨-, -, rfl⟩, _, ⟨-, -, rfl⟩, _, ⟨-, rfl⟩, -, rfl⟩ := h
    exact (rateAt_of_ge hoptimal (Nat.le_of_not_le hgt)).symm

/-- The limits of an accepted curve keep its greatest rate in range. -/
lemma greatest_lt (hvalid : model.validate = .ok ()) :
    model.base + model.slope1 + model.slope2 < amountBound := by
  obtain ⟨-, hbase, hslope1, hslope2⟩ := validate_eq_ok.mp hvalid
  have hfits : maxRate + maxRate + maxRate < amountBound := by decide
  omega

/-- An accepted curve tells a rate at every utilization up to one. -/
lemma borrowRate_eq_rateAt (hvalid : model.validate = .ok ()) (hused : used ≤ ray) :
    model.borrowRate used = .ok (model.rateAt used) := by
  obtain ⟨⟨hoptimal, -⟩, -⟩ := validate_eq_ok.mp hvalid
  have hgreatest := greatest_lt hvalid
  have hrate : model.rateAt used < amountBound := (rateAt_le hused).trans_lt hgreatest
  by_cases hle : used ≤ model.optimal
  · have hpart : mulDiv .down model.slope1 used model.optimal =
        .ok (model.slope1 * used / model.optimal) :=
      mulDiv_down_part (by omega) hoptimal hle
    rw [rateAt_of_le hle] at hrate ⊢
    rw [borrowRate, if_pos hle]
    exact bind_eq_ok.mpr ⟨_, hpart, addAmount_eq_ok.mpr ⟨hrate, rfl⟩⟩
  · -- there is room beyond the optimal utilization, since some of it is used
    have hbeyond : bareSub used model.optimal = .ok (used - model.optimal) :=
      bareSub_eq_ok.mpr ⟨by omega, rfl⟩
    have hroom : bareSub ray model.optimal = .ok (ray - model.optimal) :=
      bareSub_eq_ok.mpr ⟨by omega, rfl⟩
    have hexcess : mulDiv .down (used - model.optimal) ray (ray - model.optimal) =
        .ok ((used - model.optimal) * ray / (ray - model.optimal)) := by
      rw [mulDiv_comm, Nat.mul_comm (used - model.optimal)]
      exact mulDiv_down_part (by decide) (by omega) (Nat.sub_le_sub_right hused model.optimal)
    have hsteep : rayMul .down model.slope2
          ((used - model.optimal) * ray / (ray - model.optimal)) =
        .ok (model.slope2 * ((used - model.optimal) * ray / (ray - model.optimal)) / ray) :=
      mulDiv_down_part (by omega) (by decide) (excess_le_ray hused)
    have hkink : addAmount model.base model.slope1 = .ok (model.base + model.slope1) :=
      addAmount_eq_ok.mpr ⟨by omega, rfl⟩
    rw [rateAt_of_ge hoptimal (Nat.le_of_not_le hle)] at hrate ⊢
    rw [borrowRate, if_neg hle]
    refine bind_eq_ok.mpr ⟨_, hbeyond, bind_eq_ok.mpr ⟨_, hroom, bind_eq_ok.mpr ⟨_, hexcess, ?_⟩⟩⟩
    refine bind_eq_ok.mpr ⟨_, hsteep, bind_eq_ok.mpr ⟨_, hkink, ?_⟩⟩
    exact addAmount_eq_ok.mpr ⟨hrate, rfl⟩

/-! ## The rates of a reserve -/

/-- With an accepted curve, funds in range and a share of at most the whole there are rates, and the
borrow rate is read off the curve. -/
lemma rates_eq_ok (hvalid : model.validate = .ok ()) (hfunds : liquidity + debt < amountBound)
    (hfactor : factor ≤ fullShare) :
    ∃ used rates, utilization liquidity debt = .ok used ∧ used ≤ ray ∧
      model.borrowRate used = .ok rates.borrow ∧
      model.rates liquidity debt factor = .ok rates := by
  obtain ⟨used, hused⟩ := utilization_eq_ok hfunds
  have hle := utilization_le_ray hused
  have hborrow := borrowRate_eq_rateAt hvalid hle
  have hrate : model.rateAt used < amountBound := (rateAt_le hle).trans_lt (greatest_lt hvalid)
  have hgross : rayMul .down (model.rateAt used) used = .ok (model.rateAt used * used / ray) :=
    mulDiv_down_part hrate (by decide) hle
  have hkept : bareSub fullShare factor = .ok (fullShare - factor) :=
    bareSub_eq_ok.mpr ⟨hfactor, rfl⟩
  have hsupply := mulDiv_down_part ((mul_div_le_of_le hle).trans_lt hrate)
    (show fullShare ≠ 0 by decide) (Nat.sub_le fullShare factor)
  refine ⟨used, ⟨model.rateAt used * used / ray * (fullShare - factor) / fullShare,
    model.rateAt used⟩, hused, hle, hborrow, ?_⟩
  refine bind_eq_ok.mpr ⟨_, hused, bind_eq_ok.mpr ⟨_, hborrow, bind_eq_ok.mpr ⟨_, hgross, ?_⟩⟩⟩
  exact bind_eq_ok.mpr ⟨_, hkept, bind_eq_ok.mpr ⟨_, hsupply, rfl⟩⟩

/-- An accepted curve tells a rate at every utilization up to one, of at most the base rate and both
slopes. The rate does not fall when the utilization grows, and at the optimal utilization it is the
base rate and the first slope. Funds in range are used to at most the whole and have rates:
suppliers earn at most the rate that borrowers pay, and on all funds at most what borrowers pay on
the debt, less the share that is kept. -/
theorem curve_rises_within_limits (hvalid : model.validate = .ok ()) :
    (∀ used ≤ ray, ∃ rate, model.borrowRate used = .ok rate ∧
      rate ≤ model.base + model.slope1 + model.slope2) ∧
    (∀ used used' rate rate', used ≤ used' → model.borrowRate used = .ok rate →
      model.borrowRate used' = .ok rate' → rate ≤ rate') ∧
    model.borrowRate model.optimal = .ok (model.base + model.slope1) ∧
    ∀ liquidity debt factor, liquidity + debt < amountBound → factor ≤ fullShare →
      ∃ used rates, utilization liquidity debt = .ok used ∧ used ≤ ray ∧
        model.borrowRate used = .ok rates.borrow ∧
        model.rates liquidity debt factor = .ok rates ∧ rates.supply ≤ rates.borrow ∧
        rates.supply * (liquidity + debt) * fullShare ≤
          rates.borrow * debt * (fullShare - factor) := by
  obtain ⟨⟨hoptimal, hroom⟩, -⟩ := validate_eq_ok.mp hvalid
  refine ⟨?_, ?_, ?_, ?_⟩
  · intro used hused
    exact ⟨_, borrowRate_eq_rateAt hvalid hused, rateAt_le hused⟩
  · intro used used' rate rate' hle h h'
    rw [eq_rateAt_of_borrowRate hoptimal h, eq_rateAt_of_borrowRate hoptimal h']
    exact rateAt_mono hle
  · rw [borrowRate_eq_rateAt hvalid hroom, rateAt_of_le (Nat.le_refl _),
      Nat.mul_div_cancel _ (Nat.pos_of_ne_zero hoptimal)]
  · intro liquidity debt factor hfunds hfactor
    obtain ⟨used, rates, hused, hle, hborrow, hrates⟩ := rates_eq_ok hvalid hfunds hfactor
    obtain ⟨-, hcovered⟩ := supply_le_borrow hrates
    exact ⟨used, rates, hused, hle, hborrow, hrates, (supply_rate_le hrates).1, hcovered⟩

end RateModel

/-- A curve without room for a second slope, as steep as accepted. -/
def SmallMarket.lateKink : RateModel where
  optimal := ray
  base := maxRate
  slope1 := maxRate
  slope2 := maxRate

/-- At full utilization such a curve still charges the base rate and the first slope only, and with
seven parts of ten lent out suppliers earn no more than what borrowers pay. -/
theorem SmallMarket.lateKink_rises :
    lateKink.validate = .ok () ∧ lateKink.borrowRate ray = .ok (20 * ray) ∧
      ∃ rates, lateKink.rates 300 700 1000 = .ok rates ∧ rates.supply ≤ rates.borrow ∧
        rates.supply * 1000 * fullShare ≤ rates.borrow * 700 * 9000 := by
  have hvalid : lateKink.validate = .ok () := by decide +kernel
  have hrises := RateModel.curve_rises_within_limits hvalid
  have hheight : lateKink.base + lateKink.slope1 = 20 * ray := by decide
  refine ⟨hvalid, hheight ▸ hrises.2.2.1, ?_⟩
  obtain ⟨_, rates, -, -, -, hrates, hle, hcovered⟩ :=
    hrises.2.2.2 300 700 1000 (by decide) (by decide)
  exact ⟨rates, hrates, hle, hcovered⟩

end PooledCredit
