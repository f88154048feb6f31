import Mathlib.Tactic.Linarith
import Mathlib.Tactic.Ring
import PooledCredit.Proofs.Rounding
import PooledCredit.Reserve.RateModel

/-!
# Interest credited and interest charged

Suppliers earn the borrow rate on the part of the funds that is lent out, less the treasury's
share. The lemmas here compare what one accrual credits to suppliers and treasury with what it
charges to borrowers, both with their roundings. The names in the arithmetic part are those of
one accrual: a `supply` of scaled units at an `index`, `funds`, a scaled `debt` that stands at
`owed` before and grows by `interest`, and growths of both indices.
-/

namespace PooledCredit

/-! ## Rates -/

/-- The utilization is at most the part of the funds that is lent out. -/
lemma utilization_le {liquidity debt used : Nat} (h : utilization liquidity debt = .ok used) :
    used * (liquidity + debt) ≤ debt * ray := by
  unfold utilization at h
  split at h
  · cases h
    simp
  · simp only [bind_eq_ok, addAmount_eq_ok] at h
    obtain ⟨_, ⟨-, rfl⟩, h⟩ := h
    exact mulDiv_down_le h

/-- No more than all of the funds is lent out. -/
lemma utilization_le_ray {liquidity debt used : Nat}
    (h : utilization liquidity debt = .ok used) : used ≤ ray := by
  rcases Nat.eq_zero_or_pos debt with hz | hdebt
  · rw [utilization, if_pos hz] at h
    cases h
    exact Nat.zero_le ray
  · refine Nat.le_of_mul_le_mul_right ?_ (show 0 < liquidity + debt by omega)
    calc used * (liquidity + debt) ≤ debt * ray := utilization_le h
      _ ≤ (liquidity + debt) * ray := Nat.mul_le_mul_right ray (Nat.le_add_left debt liquidity)
      _ = ray * (liquidity + debt) := Nat.mul_comm _ _

/-- What suppliers earn on all funds is at most what borrowers pay on their debt, less the share
that is kept. -/
theorem RateModel.supply_le_borrow {model : RateModel} {liquidity debt factor : Nat}
    {rates : Rates} (h : model.rates liquidity debt factor = .ok rates) :
    factor ≤ fullShare ∧ rates.supply * (liquidity + debt) * fullShare ≤
      rates.borrow * debt * (fullShare - factor) := by
  simp only [RateModel.rates, bind_eq_ok, bareSub_eq_ok, pure_eq_ok] at h
  obtain ⟨used, hused, borrow, -, gross, hgross, _, ⟨hfactor, rfl⟩, supply, hsupply, rfl⟩ := h
  refine ⟨hfactor, ?_⟩
  have hutil := utilization_le hused
  have hgross : gross * ray ≤ borrow * used := mulDiv_down_le hgross
  have hsupply : supply * fullShare ≤ gross * (fullShare - factor) := mulDiv_down_le hsupply
  have hray : 0 < ray := by decide
  refine Nat.le_of_mul_le_mul_right ?_ hray
  calc supply * (liquidity + debt) * fullShare * ray
      = supply * fullShare * (liquidity + debt) * ray := by ring
    _ ≤ gross * (fullShare - factor) * (liquidity + debt) * ray := by gcongr
    _ = gross * ray * (liquidity + debt) * (fullShare - factor) := by ring
    _ ≤ borrow * used * (liquidity + debt) * (fullShare - factor) := by gcongr
    _ = borrow * (used * (liquidity + debt)) * (fullShare - factor) := by ring
    _ ≤ borrow * (debt * ray) * (fullShare - factor) := by gcongr
    _ = borrow * debt * (fullShare - factor) * ray := by ring

/-- The supply rate is at most the borrow rate, and without debt it is zero. -/
lemma RateModel.supply_rate_le {model : RateModel} {liquidity debt factor : Nat} {rates : Rates}
    (h : model.rates liquidity debt factor = .ok rates) :
    rates.supply ≤ rates.borrow ∧ (debt = 0 → rates.supply = 0) := by
  simp only [RateModel.rates, bind_eq_ok, bareSub_eq_ok, pure_eq_ok] at h
  obtain ⟨used, hused, borrow, -, gross, hgross, _, ⟨hfactor, rfl⟩, supply, hsupply, rfl⟩ := h
  have hgross : gross * ray ≤ borrow * used := mulDiv_down_le hgross
  have hsupply : supply * fullShare ≤ gross * (fullShare - factor) := mulDiv_down_le hsupply
  have hle : supply ≤ gross := by
    refine Nat.le_of_mul_le_mul_right ?_ (show 0 < fullShare by decide)
    exact hsupply.trans (Nat.mul_le_mul_left gross (Nat.sub_le _ _))
  refine ⟨hle.trans ?_, ?_⟩
  · refine Nat.le_of_mul_le_mul_right ?_ (show 0 < ray by decide)
    exact hgross.trans (Nat.mul_le_mul_left borrow (utilization_le_ray hused))
  · rintro rfl
    have hidle : used = 0 := (Except.ok.inj hused).symm
    rw [hidle, Nat.mul_zero] at hgross
    have hzero : gross = 0 := by
      refine (Nat.mul_eq_zero.mp (Nat.le_zero.mp hgross)).resolve_right ?_
      decide
    exact Nat.le_zero.mp (hzero ▸ hle)

/-! ## One accrual -/

section Accrual

variable {supply index index' funds credit debt debtIndex debtIndex' owed earned charged : Nat}
variable {interest toTreasury minted factor slack : Nat}

/-- The growth of the supply over a time is covered by the growth of the debt and one more unit
of it on the debt. -/
lemma growth_le {supplyRate borrowRate liquidity elapsed : Nat}
    (hrates : supplyRate * (liquidity + owed) * fullShare ≤
      borrowRate * owed * (fullShare - factor))
    (hearned : earned * year ≤ supplyRate * elapsed)
    (hcharged : borrowRate * elapsed < (charged + 1) * year) :
    earned * (liquidity + owed) * fullShare ≤ owed * (fullShare - factor) * (charged + 1) := by
  have hyear : 0 < year := by decide
  refine Nat.le_of_mul_le_mul_right ?_ hyear
  calc earned * (liquidity + owed) * fullShare * year
      = earned * year * (liquidity + owed) * fullShare := by ring
    _ ≤ supplyRate * elapsed * (liquidity + owed) * fullShare := by gcongr
    _ = supplyRate * (liquidity + owed) * fullShare * elapsed := by ring
    _ ≤ borrowRate * owed * (fullShare - factor) * elapsed := by gcongr
    _ = owed * (fullShare - factor) * (borrowRate * elapsed) := by ring
    _ ≤ owed * (fullShare - factor) * ((charged + 1) * year) := by gcongr
    _ = owed * (fullShare - factor) * (charged + 1) * year := by ring

/-- What the supply is worth after the accrual exceeds what stood behind it before by at most the
growth of the supply on all funds. -/
lemma supply_growth_le (hindex : 0 < index)
    (hcovers : supply * index ≤ funds * ray + debt * debtIndex + index * credit)
    (howed : debt * debtIndex ≤ owed * ray)
    (hgrown : index' * ray ≤ (ray + earned) * index) :
    supply * index' ≤
      funds * ray + debt * debtIndex + earned * (funds + owed) + index' * credit := by
  have hray : 0 < ray := by decide
  refine Nat.le_of_mul_le_mul_right ?_ (Nat.mul_pos hray hindex)
  calc supply * index' * (ray * index)
      = supply * index * (index' * ray) := by ring
    _ ≤ (funds * ray + debt * debtIndex + index * credit) * (index' * ray) := by gcongr
    _ = (funds * ray + debt * debtIndex) * (index' * ray) + index' * credit * (ray * index) := by
        ring
    _ ≤ (funds * ray + debt * debtIndex) * ((ray + earned) * index) +
          index' * credit * (ray * index) := by gcongr
    _ = (funds * ray + debt * debtIndex) * (ray * index) +
          earned * index * (funds * ray + debt * debtIndex) +
            index' * credit * (ray * index) := by ring
    _ ≤ (funds * ray + debt * debtIndex) * (ray * index) +
          earned * index * (funds * ray + owed * ray) +
            index' * credit * (ray * index) := by gcongr
    _ = (funds * ray + debt * debtIndex + earned * (funds + owed) + index' * credit) *
          (ray * index) := by ring

/-- What is charged on the whole owed amount is in the growth of the debt, but for the part of one
unit that the owed amount is rounded up by. -/
lemma charge_le (howed : owed * ray < debt * debtIndex + ray)
    (hgrown : debt * ((ray + charged) * debtIndex) ≤ debt * debtIndex' * ray) :
    owed * charged + debt * debtIndex ≤ debt * debtIndex' + charged := by
  have hray : 0 < ray := by decide
  refine Nat.le_of_mul_le_mul_right ?_ hray
  calc (owed * charged + debt * debtIndex) * ray
      = owed * ray * charged + debt * debtIndex * ray := by ring
    _ ≤ (debt * debtIndex + ray) * charged + debt * debtIndex * ray := by gcongr
    _ = debt * ((ray + charged) * debtIndex) + charged * ray := by ring
    _ ≤ debt * debtIndex' * ray + charged * ray := by gcongr
    _ = (debt * debtIndex' + charged) * ray := by ring

/-- What an accrual credits, to suppliers as growth and to the treasury as its share of the
interest, is covered by the growth of the debt and a slack that makes up for the roundings. -/
lemma credited_le (hfactor : factor ≤ fullShare)
    (hgrowth : earned * (funds + owed) * fullShare ≤ owed * (fullShare - factor) * (charged + 1))
    (hcharge : owed * charged + debt * debtIndex ≤ debt * debtIndex' + charged)
    (hinterest : interest * ray + debt * debtIndex ≤ debt * debtIndex' + ray)
    (htreasury : toTreasury * fullShare ≤ interest * factor)
    (hslack : owed + charged ≤ ray * slack) (hpositive : 0 < slack) :
    earned * (funds + owed) + toTreasury * ray + debt * debtIndex ≤
      debt * debtIndex' + ray * slack := by
  obtain ⟨kept, hkept⟩ := Nat.exists_eq_add_of_le hfactor
  rw [hkept, Nat.add_sub_cancel_left, ← hkept] at hgrowth
  have hfull : 0 < fullShare := by decide
  refine Nat.le_of_mul_le_mul_right ?_ hfull
  have hone : ray ≤ ray * slack := Nat.le_mul_of_pos_right ray hpositive
  calc (earned * (funds + owed) + toTreasury * ray + debt * debtIndex) * fullShare
      = earned * (funds + owed) * fullShare + toTreasury * fullShare * ray +
          debt * debtIndex * fullShare := by ring
    _ ≤ owed * kept * (charged + 1) + interest * factor * ray +
          debt * debtIndex * fullShare := by gcongr
    _ = kept * (owed * charged + debt * debtIndex) + kept * owed +
          factor * (interest * ray + debt * debtIndex) := by rw [hkept]; ring
    _ ≤ kept * (debt * debtIndex' + charged) + kept * owed +
          factor * (debt * debtIndex' + ray) := by gcongr
    _ = (debt * debtIndex') * (factor + kept) + kept * (owed + charged) + factor * ray := by ring
    _ ≤ (debt * debtIndex') * (factor + kept) + kept * (ray * slack) +
          factor * (ray * slack) := by gcongr
    _ = (debt * debtIndex' + ray * slack) * fullShare := by rw [hkept]; ring

/-- One accrual: the supply with the units minted for the treasury stays covered when the credit is
raised by the slack. -/
theorem accrual_covers (hfactor : factor ≤ fullShare) (hindex : ray ≤ index)
    (hindex' : ray ≤ index')
    (hcovers : supply * index ≤ funds * ray + debt * debtIndex + index * credit)
    (howed : debt * debtIndex ≤ owed * ray) (howed' : owed * ray < debt * debtIndex + ray)
    (hgrown : index' * ray ≤ (ray + earned) * index)
    (hgrown' : debt * ((ray + charged) * debtIndex) ≤ debt * debtIndex' * ray)
    (hgrowth : earned * (funds + owed) * fullShare ≤ owed * (fullShare - factor) * (charged + 1))
    (hinterest : interest * ray + debt * debtIndex ≤ debt * debtIndex' + ray)
    (htreasury : toTreasury * fullShare ≤ interest * factor)
    (hminted : minted * index' ≤ toTreasury * ray)
    (hslack : owed + charged ≤ ray * slack) (hpositive : 0 < slack) :
    (supply + minted) * index' ≤
      funds * ray + debt * debtIndex' + index' * (credit + slack) := by
  have hsupply := supply_growth_le (Nat.lt_of_lt_of_le (by decide) hindex) hcovers howed hgrown
  have hcharge := charge_le howed' hgrown'
  have hcredited := credited_le hfactor hgrowth hcharge hinterest htreasury hslack hpositive
  have hslack' : ray * slack ≤ index' * slack := Nat.mul_le_mul_right slack hindex'
  rw [Nat.add_mul, Nat.mul_add]
  omega

end Accrual

end PooledCredit
