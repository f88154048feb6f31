import PooledCredit.Foreclosure.Pricing
import PooledCredit.Proofs.Collateral.Health

/-!
# Terms that are no worse for a loan

Terms ease others if the liquidation threshold, the two windows and the redeem threshold are not
lower, and the bonus and the two fines are not higher. Whatever a loan is measured by follows, since
every rounded share grows with its factors: its health, its deadlines, and the amounts that a first
bid, a sale, a redeem and the fine for it depend on.
-/

namespace PooledCredit

/-! ## Shares and deadlines -/

/-- A share of at most the whole is in range. -/
lemma shareOf_of_le {value bps : Nat} (hvalue : value < amountBound) (hbps : bps ≤ fullShare) :
    ∃ part, shareOf .down value bps = .ok part ∧ part ≤ value := by
  have hquotient : Rounding.down.divide (value * fullShare) fullShare = value :=
    Nat.mul_div_cancel value (by decide)
  have hwhole : mulDiv .down value fullShare fullShare = .ok value :=
    mulDiv_eq_ok.mpr ⟨by decide, hquotient.symm ▸ hvalue, hquotient⟩
  exact mulDiv_down_of_le (Nat.le_refl value) hbps hwhole

/-- A longer window does not close earlier. -/
lemma Bid.deadline_le {bid : Bid} {window window' deadline deadline' : Nat} (h : window ≤ window')
    (hd : bid.deadline window = .ok deadline) (hd' : bid.deadline window' = .ok deadline') :
    deadline ≤ deadline' := by
  obtain ⟨-, rfl⟩ := fitClock_eq_ok.mp hd
  obtain ⟨-, rfl⟩ := fitClock_eq_ok.mp hd'
  exact Nat.add_le_add_left h _

/-! ## Terms -/

namespace CollateralTerms

/-- The terms `next` are no worse for a loan that was opened on the terms `now`. -/
structure Eases (now next : CollateralTerms) : Prop where
  threshold : now.threshold ≤ next.threshold
  redeemWindow : now.redeemWindow ≤ next.redeemWindow
  bidWindow : now.bidWindow ≤ next.bidWindow
  redeemThreshold : now.redeemThreshold ≤ next.redeemThreshold
  fine : next.fine ≤ now.fine
  minFine : next.minFine ≤ now.minFine
  bonus : next.bonus ≤ now.bonus

/-- What the validation of terms establishes. -/
lemma validate_eq_ok {terms : CollateralTerms} {u : Unit} :
    terms.validate = .ok u ↔
      terms.threshold < fullShare ∧ terms.ltv ≤ terms.threshold ∧ terms.bonus ≤ maxBonus ∧
      terms.fine ≤ maxFine ∧
      (terms.redeemThreshold ≠ 0 ∧ terms.redeemThreshold ≤ terms.threshold) ∧
      (terms.redeemWindow ≠ 0 ∧ terms.bidWindow ≠ 0) ∧ terms.bidWindow ≤ maxWindow ∧
      terms.redeemWindow ≤ terms.bidWindow := by
  simp only [validate, bind_eq_ok, require_eq_ok, exists_const]

variable {now next : CollateralTerms}

/-- Terms that do not worsen others ease them. -/
lemma eases_of_not_worsens (h : ¬ now.Worsens next) : now.Eases next := by
  simp only [Worsens, not_or, Nat.not_lt] at h
  obtain ⟨hthreshold, hredeem, hbid, hredeemThreshold, hfine, hminFine, hbonus⟩ := h
  exact ⟨hthreshold, hredeem, hbid, hredeemThreshold, hfine, hminFine, hbonus⟩

/-- Terms ease themselves. -/
lemma Eases.refl (terms : CollateralTerms) : terms.Eases terms := by
  constructor <;> exact Nat.le_refl _

/-- On eased terms the share that a sale leaves of the collateral is no smaller. -/
lemma Eases.rest_le (h : now.Eases next) {rest : Nat} (hr : bareSub fullShare now.bonus = .ok rest) :
    ∃ rest', bareSub fullShare next.bonus = .ok rest' ∧ rest ≤ rest' ∧ rest' ≤ fullShare := by
  obtain ⟨hle, rfl⟩ := bareSub_eq_ok.mp hr
  exact ⟨_, bareSub_eq_ok.mpr ⟨h.bonus.trans hle, rfl⟩, Nat.sub_le_sub_left h.bonus _,
    Nat.sub_le _ _⟩

/-- On eased terms the least first bid is no smaller. -/
lemma Eases.firstBid_le (h : now.Eases next) (hvalid : next.validate = .ok ())
    {collateral debt least : Nat} (hcollateral : collateral < amountBound)
    (hf : now.firstBid collateral debt = .ok least) :
    ∃ least', next.firstBid collateral debt = .ok least' ∧ least ≤ least' := by
  simp only [firstBid, bind_eq_ok, pure_eq_ok] at hf
  obtain ⟨weighted, hw, rest, hr, discounted, hd, rfl⟩ := hf
  obtain ⟨hthreshold, -⟩ := validate_eq_ok.mp hvalid
  obtain ⟨rest', hr', hrest, hwhole⟩ := h.rest_le hr
  obtain ⟨weighted', hw', hsmall⟩ := shareOf_of_le hcollateral hthreshold.le
  obtain ⟨discounted', hd', -⟩ := shareOf_of_le (hsmall.trans_lt hcollateral) hwhole
  have hweighted := mulDiv_down_mono (Nat.le_refl collateral) h.threshold hw hw'
  have hdiscounted := mulDiv_down_mono hweighted hrest hd hd'
  refine ⟨max discounted' debt, ?_, max_le_max hdiscounted (Nat.le_refl debt)⟩
  simp only [firstBid, bind_eq_ok, pure_eq_ok]
  exact ⟨weighted', hw', rest', hr', discounted', hd', rfl⟩

/-- On eased terms the least price of a sale is no smaller. -/
lemma Eases.saleFloor_le (h : now.Eases next) {collateral least : Nat}
    (hcollateral : collateral < amountBound) (hf : now.saleFloor collateral = .ok least) :
    ∃ least', next.saleFloor collateral = .ok least' ∧ least ≤ least' := by
  simp only [saleFloor, bind_eq_ok] at hf
  obtain ⟨rest, hr, hs⟩ := hf
  obtain ⟨rest', hr', hrest, hwhole⟩ := h.rest_le hr
  obtain ⟨least', hs', -⟩ := shareOf_of_le hcollateral hwhole
  refine ⟨least', ?_, mulDiv_down_mono (Nat.le_refl collateral) hrest hs hs'⟩
  simp only [saleFloor, bind_eq_ok]
  exact ⟨rest', hr', hs'⟩

/-- On eased terms the fine for redeeming is no larger. -/
lemma Eases.redeemFine_le (h : now.Eases next) {debt price decimals fine : Nat}
    (hf : now.redeemFine debt price decimals = .ok fine) :
    ∃ fine', next.redeemFine debt price decimals = .ok fine' ∧ fine' ≤ fine := by
  simp only [redeemFine, amountWorth, bind_eq_ok, pure_eq_ok] at hf
  obtain ⟨share, hs, least, ⟨_, hpriced, scale, hscale, hl⟩, rfl⟩ := hf
  obtain ⟨share', hs', hshare⟩ := mulDiv_down_of_le (Nat.le_refl debt) h.fine hs
  obtain ⟨least', hl', hleast⟩ := mulDiv_down_of_le h.minFine (Nat.le_refl scale) hl
  refine ⟨max share' least', ?_, max_le_max hshare hleast⟩
  simp only [redeemFine, amountWorth, bind_eq_ok, pure_eq_ok]
  exact ⟨share', hs', least', ⟨_, hpriced, scale, hscale, hl'⟩, rfl⟩

/-- A loan that is valued as `before` on the terms `now` is spared by the terms `next`, on which it
is valued as `after`: its health, its deadlines and the limit below which a redeem must bring its
debt are not lower, nor are the least first bid and the least price of a sale, and the fine for
redeeming is not higher. -/
structure Spares (now next : CollateralTerms) (before after : Valuation) : Prop where
  health : before.health ≤ after.health
  redeemDeadline : ∀ (bid : Bid) (deadline deadline' : Nat),
    bid.deadline now.redeemWindow = .ok deadline →
    bid.deadline next.redeemWindow = .ok deadline' → deadline ≤ deadline'
  bidDeadline : ∀ (bid : Bid) (deadline deadline' : Nat),
    bid.deadline now.bidWindow = .ok deadline →
    bid.deadline next.bidWindow = .ok deadline' → deadline ≤ deadline'
  redeemLimit : ∀ limit limit',
    shareOf .down before.collateralValue now.redeemThreshold = .ok limit →
    shareOf .down after.collateralValue next.redeemThreshold = .ok limit' → limit ≤ limit'
  firstBid : ∀ least, now.firstBid before.collateralAmount before.debt = .ok least →
    ∃ least', next.firstBid after.collateralAmount after.debt = .ok least' ∧ least ≤ least'
  saleFloor : ∀ least, now.saleFloor before.collateralAmount = .ok least →
    ∃ least', next.saleFloor after.collateralAmount = .ok least' ∧ least ≤ least'
  redeemFine : ∀ decimals fine, now.redeemFine before.debt before.price decimals = .ok fine →
    ∃ fine', next.redeemFine after.debt after.price decimals = .ok fine' ∧ fine' ≤ fine

/-- Eased terms spare every loan, whatever the prices and the time. -/
theorem Eases.spares {O : Type} [PriceSource O] (h : now.Eases next) (hvalid : next.validate = .ok ())
    {prices : O} {reserve : Reserve} {item : Item} {scaled time maxAge : Nat}
    {before after : Valuation}
    (hb : Valuation.of prices reserve now item scaled time maxAge = .ok before)
    (ha : Valuation.of prices reserve next item scaled time maxAge = .ok after) :
    now.Spares next before after := by
  simp only [Valuation.of, bind_eq_ok, pure_eq_ok] at hb ha
  obtain ⟨value, hvalue, price, hprice, index, hindex, debt, hdebt, debtValue, hdebtValue, amount,
    hamount, _, -, _, -, _, -, health, hhealth, rfl⟩ := hb
  obtain ⟨value', hvalue', price', hprice', index', hindex', debt', hdebt', debtValue', hdebtValue',
    amount', hamount', _, -, _, -, _, -, health', hhealth', rfl⟩ := ha
  -- only the health depends on terms
  obtain rfl := Except.ok.inj (hvalue.symm.trans hvalue')
  obtain rfl := Except.ok.inj (hprice.symm.trans hprice')
  obtain rfl := Except.ok.inj (hindex.symm.trans hindex')
  obtain rfl := Except.ok.inj (hdebt.symm.trans hdebt')
  obtain rfl := Except.ok.inj (hdebtValue.symm.trans hdebtValue')
  obtain rfl := Except.ok.inj (hamount.symm.trans hamount')
  have hfits : amount < amountBound := by
    simp only [amountWorth, bind_eq_ok] at hamount
    obtain ⟨_, -, _, -, hm⟩ := hamount
    obtain ⟨-, hfits, rfl⟩ := mulDiv_eq_ok.mp hm
    exact hfits
  exact {
    health := healthOf_anti (Nat.le_refl _) (Nat.le_refl _) h.threshold hhealth' hhealth
    redeemDeadline := fun _ _ _ => Bid.deadline_le h.redeemWindow
    bidDeadline := fun _ _ _ => Bid.deadline_le h.bidWindow
    redeemLimit := fun _ _ => mulDiv_down_mono (Nat.le_refl value) h.redeemThreshold
    firstBid := fun _ => h.firstBid_le hvalid hfits
    saleFloor := fun _ => h.saleFloor_le hfits
    redeemFine := fun _ _ => h.redeemFine_le }

end CollateralTerms

end PooledCredit
