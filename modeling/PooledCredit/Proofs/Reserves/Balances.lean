import PooledCredit.Proofs.Requests.Actions

/-!
# Funds and debts of the reserves

The *funds* of a reserve are its idle and its invested liquidity. Each operation of the ledger
changes the funds and the scaled debt of one reserve by what it moves; accruals change neither.
Only a vault that releases more than it is asked for could add to the funds of a reserve.
-/

namespace PooledCredit

/-- A vault that never gives back more than it is asked for. -/
def Vault.Honest (V : Type) [Vault V] : Prop :=
  ∀ (vault vault' : V) (asset : Asset) (request : Nat) (withdrawal : Withdrawal),
    Vault.release vault asset request = .ok (withdrawal, vault') → withdrawal.actual ≤ request

namespace Reserve

/-- Idle and invested liquidity. -/
def funds (reserve : Reserve) : Nat := reserve.idle + reserve.invested

/-- Refreshing the rates leaves the funds and the scaled debt alone. -/
lemma refreshRates_balances {reserve reserve' : Reserve}
    (h : reserve.refreshRates = .ok reserve') :
    reserve'.funds = reserve.funds ∧ reserve'.scaledDebt = reserve.scaledDebt := by
  obtain ⟨_, _, _, -, -, -, rfl⟩ := refreshRates_eq_ok h
  exact ⟨rfl, rfl⟩

/-- An accrual leaves the funds and the scaled debt alone. -/
lemma accrue_balances {reserve reserve' : Reserve} {now : Nat} {accrual : Accrual}
    (h : reserve.accrue now = .ok (accrual, reserve')) :
    reserve'.funds = reserve.funds ∧ reserve'.scaledDebt = reserve.scaledDebt := by
  rcases accrue_eq_ok h with ⟨-, -, rfl⟩ | ⟨-, _, _, _, _, _, -, -, -, -, -, -, -, -, hu⟩
  · exact ⟨rfl, rfl⟩
  · have hrest := refreshRates_balances hu
    exact hrest

/-- Booking a withdrawal of at most the placement does not add to the funds. -/
lemma receive_funds_le {reserve reserve' : Reserve} {withdrawal : Withdrawal} {movement : Movement}
    (h : reserve.receive withdrawal = .ok (movement, reserve'))
    (hle : withdrawal.actual ≤ reserve.invested) : reserve'.funds ≤ reserve.funds := by
  obtain ⟨-, rfl⟩ := receive_eq_ok h
  simp only [funds]
  omega

/-- Booking a withdrawal leaves the scaled debt alone. -/
lemma receive_scaledDebt {reserve reserve' : Reserve} {withdrawal : Withdrawal}
    {movement : Movement} (h : reserve.receive withdrawal = .ok (movement, reserve')) :
    reserve'.scaledDebt = reserve.scaledDebt := by
  obtain ⟨-, rfl⟩ := receive_eq_ok h
  rfl

variable {V : Type} [Vault V] {vault vault' : V} {movement : Movement}

/-- A pull leaves the scaled debt alone. -/
lemma pull_scaledDebt {reserve reserve' : Reserve} {needed : Nat}
    (h : reserve.pull vault needed = .ok (movement, reserve', vault')) :
    reserve'.scaledDebt = reserve.scaledDebt := by
  rcases pull_eq_ok h with ⟨-, rfl, -⟩ | ⟨_, _, received, -, -, hreceive, hu⟩
  · rfl
  · rw [(refreshRates_balances hu).2, receive_scaledDebt hreceive]

/-- A pull from an honest vault does not add to the funds. -/
lemma pull_funds_le (honest : Vault.Honest V) {reserve reserve' : Reserve} {needed : Nat}
    (h : reserve.pull vault needed = .ok (movement, reserve', vault')) :
    reserve'.funds ≤ reserve.funds := by
  rcases pull_eq_ok h with ⟨-, rfl, -⟩ | ⟨request, _, received, hle, hrelease, hreceive, hu⟩
  · exact Nat.le_refl _
  · rw [(refreshRates_balances hu).1]
    exact receive_funds_le hreceive ((honest _ _ _ _ _ hrelease).trans hle)

/-- A rebalance leaves the scaled debt alone. -/
lemma rebalance_scaledDebt {reserve reserve' : Reserve}
    (h : reserve.rebalance vault = .ok (movement, reserve', vault')) :
    reserve'.scaledDebt = reserve.scaledDebt := by
  obtain ⟨loss, known, last, hk, hu, hmove⟩ := rebalance_eq_ok h
  rw [(refreshRates_balances hu).2]
  have hknown : known.scaledDebt = reserve.scaledDebt := by
    obtain ⟨-, rfl⟩ := recognize_eq_ok hk
    rfl
  rw [← hknown]
  rcases hmove with ⟨-, rfl, -⟩ | ⟨_, -, -, -, rfl⟩ | ⟨_, _, _, -, -, hreceive, -⟩
  · rfl
  · rfl
  · exact receive_scaledDebt hreceive

/-- A rebalance with an honest vault does not add to the funds. -/
lemma rebalance_funds_le (honest : Vault.Honest V) {reserve reserve' : Reserve}
    (h : reserve.rebalance vault = .ok (movement, reserve', vault')) :
    reserve'.funds ≤ reserve.funds := by
  obtain ⟨loss, known, last, hk, hu, hmove⟩ := rebalance_eq_ok h
  rw [(refreshRates_balances hu).1]
  have hknown : known.funds ≤ reserve.funds := by
    obtain ⟨-, rfl⟩ := recognize_eq_ok hk
    simp only [funds]
    omega
  refine le_trans ?_ hknown
  rcases hmove with ⟨-, rfl, -⟩ | ⟨amount, -, hle, -, rfl⟩ |
    ⟨request, _, _, hle, hrelease, hreceive, -⟩
  · exact Nat.le_refl _
  · simp only [funds]
    omega
  · exact receive_funds_le hreceive ((honest _ _ _ _ _ hrelease).trans hle)

end Reserve

namespace Ledger

/-- The funds of the reserve of an asset; none without a reserve. -/
def fundsOf (ledger : Ledger) (asset : Asset) : Nat :=
  (ledger.reserves.get? asset).elim 0 Reserve.funds

/-- The scaled debt of the reserve of an asset; none without a reserve. -/
def scaledDebtOf (ledger : Ledger) (asset : Asset) : Nat :=
  (ledger.reserves.get? asset).elim 0 Reserve.scaledDebt

/-- The scaled debt of a present reserve. -/
lemma scaledDebtOf_eq {ledger : Ledger} {asset : Asset} {reserve : Reserve}
    (h : ledger.reserves.get? asset = some reserve) :
    ledger.scaledDebtOf asset = reserve.scaledDebt := by
  simp [scaledDebtOf, h]

/-- The funds of a present reserve. -/
lemma fundsOf_eq {ledger : Ledger} {asset : Asset} {reserve : Reserve}
    (h : ledger.reserves.get? asset = some reserve) : ledger.fundsOf asset = reserve.funds := by
  simp [fundsOf, h]

namespace Touches

variable {asset : Asset} {before after : Reserve} {ledger ledger' : Ledger}

/-- Other reserves keep their scaled debt. -/
lemma scaledDebtOf_ne (h : Touches asset before after ledger ledger') {other : Asset}
    (hne : other ≠ asset) : ledger'.scaledDebtOf other = ledger.scaledDebtOf other := by
  rw [scaledDebtOf, scaledDebtOf, h.others other hne]

/-- Other reserves keep their funds. -/
lemma fundsOf_ne (h : Touches asset before after ledger ledger') {other : Asset}
    (hne : other ≠ asset) : ledger'.fundsOf other = ledger.fundsOf other := by
  rw [fundsOf, fundsOf, h.others other hne]

/-- A touch that keeps the scaled debt of its reserve keeps that of all. -/
lemma scaledDebtOf_eq (h : Touches asset before after ledger ledger')
    (heq : after.scaledDebt = before.scaledDebt) (other : Asset) :
    ledger'.scaledDebtOf other = ledger.scaledDebtOf other := by
  by_cases hother : other = asset
  · rw [hother, Ledger.scaledDebtOf_eq h.new, Ledger.scaledDebtOf_eq h.old, heq]
  · exact h.scaledDebtOf_ne hother

/-- A touch that keeps the funds of its reserve keeps those of all. -/
lemma fundsOf_eq (h : Touches asset before after ledger ledger')
    (heq : after.funds = before.funds) (other : Asset) :
    ledger'.fundsOf other = ledger.fundsOf other := by
  by_cases hother : other = asset
  · rw [hother, Ledger.fundsOf_eq h.new, Ledger.fundsOf_eq h.old, heq]
  · exact h.fundsOf_ne hother

/-- A touch that does not add to the funds of its reserve does not add to those of any. -/
lemma fundsOf_le (h : Touches asset before after ledger ledger')
    (hle : after.funds ≤ before.funds) (other : Asset) :
    ledger'.fundsOf other ≤ ledger.fundsOf other := by
  by_cases hother : other = asset
  · rw [hother, Ledger.fundsOf_eq h.new, Ledger.fundsOf_eq h.old]
    exact hle
  · exact (h.fundsOf_ne hother).le

end Touches

variable {ledger ledger' : Ledger} {asset : Asset}

/-! ## Scaled debt -/

/-- An accrual keeps every scaled debt. -/
lemma accrue_scaledDebtOf {now : Nat} {accrual : Accrual}
    (h : ledger.accrue asset now = .ok (accrual, ledger')) (other : Asset) :
    ledger'.scaledDebtOf other = ledger.scaledDebtOf other := by
  obtain ⟨reserve, reserve', htouch, ha⟩ := accrue_eq_ok h
  exact htouch.scaledDebtOf_eq (Reserve.accrue_balances ha).2 other

/-- A deposit keeps every scaled debt. -/
lemma deposit_scaledDebtOf {account : Account} {amount now scaled : Nat}
    (h : ledger.deposit asset account amount now = .ok (scaled, ledger')) (other : Asset) :
    ledger'.scaledDebtOf other = ledger.scaledDebtOf other := by
  obtain ⟨_, reserve, accrued, reserve', htouch, ha, -, hu⟩ := deposit_eq_ok h
  refine htouch.scaledDebtOf_eq ?_ other
  rw [(Reserve.refreshRates_balances hu).2, ← (Reserve.accrue_balances ha).2]

/-- A repayment takes what it burns off the scaled debt of its reserve. -/
lemma repay_scaledDebtOf {scaled amount : Nat} {repayment : Repayment}
    (h : ledger.repay asset scaled amount = .ok (repayment, ledger')) (other : Asset) :
    ledger'.scaledDebtOf other + (if other = asset then repayment.burned else 0) =
      ledger.scaledDebtOf other := by
  obtain ⟨reserve, debt, reserve', htouch, -, -, -, -, hburned, -, -, hu⟩ := repay_eq_ok h
  split
  · next heq =>
    rw [heq, scaledDebtOf_eq htouch.new, scaledDebtOf_eq htouch.old,
      (Reserve.refreshRates_balances hu).2]
    exact Nat.sub_add_cancel hburned
  · next hne => exact htouch.scaledDebtOf_ne hne

/-- A write-off takes what is given up off the scaled debt of its reserve. -/
lemma writeOff_scaledDebtOf {scaled loss : Nat}
    (h : ledger.writeOff asset scaled = .ok (loss, ledger')) (other : Asset) :
    ledger'.scaledDebtOf other + (if other = asset then scaled else 0) =
      ledger.scaledDebtOf other := by
  obtain ⟨reserve, reserve', htouch, -, hle, hu⟩ := writeOff_eq_ok h
  split
  · next heq =>
    rw [heq, scaledDebtOf_eq htouch.new, scaledDebtOf_eq htouch.old,
      (Reserve.refreshRates_balances hu).2]
    exact Nat.sub_add_cancel hle
  · next hne => exact htouch.scaledDebtOf_ne hne

variable {V : Type} [Vault V] {vault vault' : V}

/-- A withdrawal keeps every scaled debt. -/
lemma withdraw_scaledDebtOf {owner : Account} {amount now paid : Nat} {movement : Movement}
    (h : ledger.withdraw vault asset owner amount now = .ok (paid, movement, ledger', vault'))
    (other : Asset) : ledger'.scaledDebtOf other = ledger.scaledDebtOf other := by
  obtain ⟨_, reserve, accrued, pulled, reserve', _, htouch, ha, hp, -, -, -, hu⟩ :=
    withdraw_eq_ok h
  refine htouch.scaledDebtOf_eq ?_ other
  have hpulled := Reserve.pull_scaledDebt hp
  rw [(Reserve.refreshRates_balances hu).2, ← (Reserve.accrue_balances ha).2]
  exact hpulled

/-- Lending adds to the scaled debt of its reserve. -/
lemma lend_scaledDebtOf {amount now scaled : Nat}
    (h : ledger.lend vault asset amount now = .ok (scaled, ledger', vault')) (other : Asset) :
    ledger'.scaledDebtOf other =
      ledger.scaledDebtOf other + (if other = asset then scaled else 0) := by
  obtain ⟨_, reserve, accrued, _, pulled, reserve', htouch, -, ha, hp, -, -, hu⟩ := lend_eq_ok h
  split
  · next heq =>
    rw [heq, scaledDebtOf_eq htouch.new, scaledDebtOf_eq htouch.old,
      (Reserve.refreshRates_balances hu).2, ← (Reserve.accrue_balances ha).2,
      ← Reserve.pull_scaledDebt hp]
  · next hne => exact htouch.scaledDebtOf_ne hne

/-- Administering the ledger keeps every scaled debt. -/
lemma Administered.scaledDebtOf (h : ledger.Administered V ledger') (other : Asset) :
    ledger'.scaledDebtOf other = ledger.scaledDebtOf other := by
  cases h with
  | same => rfl
  | opened h =>
    obtain ⟨reserve, hnone, -, hr, rfl⟩ := openReserve_eq_ok h
    obtain ⟨_, _, _, -, -, -, rfl⟩ := Reserve.refreshRates_eq_ok hr
    simp only [Ledger.scaledDebtOf, setReserve, SortedMap.get?_insert]
    split
    · next heq => rw [heq, hnone]; rfl
    · rfl
  | switched h =>
    obtain ⟨_, htouch⟩ := setFlags_eq_ok h
    exact htouch.scaledDebtOf_eq rfl other
  | factored h =>
    obtain ⟨_, _, _, _, htouch, -, ha, hu⟩ := setFactor_eq_ok h
    refine htouch.scaledDebtOf_eq ?_ other
    rw [(Reserve.refreshRates_balances hu).2, ← (Reserve.accrue_balances ha).2]
  | remodelled h =>
    obtain ⟨_, _, _, _, htouch, -, ha, hu⟩ := setModel_eq_ok h
    refine htouch.scaledDebtOf_eq ?_ other
    rw [(Reserve.refreshRates_balances hu).2, ← (Reserve.accrue_balances ha).2]
  | shared h =>
    obtain ⟨_, htouch, -⟩ := setVaultShare_eq_ok h
    exact htouch.scaledDebtOf_eq rfl other
  | rebalanced ha h =>
    obtain ⟨_, _, htouch, hb⟩ := rebalance_eq_ok h
    rw [htouch.scaledDebtOf_eq (Reserve.rebalance_scaledDebt hb) other]
    exact accrue_scaledDebtOf ha other

/-! ## Funds -/

/-- An accrual keeps the funds of every reserve. -/
lemma accrue_fundsOf {now : Nat} {accrual : Accrual}
    (h : ledger.accrue asset now = .ok (accrual, ledger')) (other : Asset) :
    ledger'.fundsOf other = ledger.fundsOf other := by
  obtain ⟨reserve, reserve', htouch, ha⟩ := accrue_eq_ok h
  exact htouch.fundsOf_eq ((Reserve.accrue_balances ha).1) other

/-- A deposit adds its amount to the funds of its reserve. -/
lemma deposit_fundsOf {account : Account} {amount now scaled : Nat}
    (h : ledger.deposit asset account amount now = .ok (scaled, ledger')) (other : Asset) :
    ledger'.fundsOf other = ledger.fundsOf other + (if other = asset then amount else 0) := by
  obtain ⟨_, reserve, accrued, reserve', htouch, ha, -, hu⟩ := deposit_eq_ok h
  split
  · next heq =>
    rw [heq, fundsOf_eq htouch.new, fundsOf_eq htouch.old, (Reserve.refreshRates_balances hu).1,
      ← (Reserve.accrue_balances ha).1]
    simp only [Reserve.funds]
    omega
  · next hne => exact htouch.fundsOf_ne hne

/-- A repayment adds what it pays to the funds of its reserve. -/
lemma repay_fundsOf {scaled amount : Nat} {repayment : Repayment}
    (h : ledger.repay asset scaled amount = .ok (repayment, ledger')) (other : Asset) :
    ledger'.fundsOf other =
      ledger.fundsOf other + (if other = asset then repayment.paid else 0) := by
  obtain ⟨reserve, debt, reserve', htouch, -, -, -, -, -, -, -, hu⟩ := repay_eq_ok h
  split
  · next heq =>
    rw [heq, fundsOf_eq htouch.new, fundsOf_eq htouch.old, (Reserve.refreshRates_balances hu).1]
    simp only [Reserve.funds]
    omega
  · next hne => exact htouch.fundsOf_ne hne

/-- A write-off keeps the funds of every reserve. -/
lemma writeOff_fundsOf {scaled loss : Nat}
    (h : ledger.writeOff asset scaled = .ok (loss, ledger')) (other : Asset) :
    ledger'.fundsOf other = ledger.fundsOf other := by
  obtain ⟨reserve, reserve', htouch, -, -, hu⟩ := writeOff_eq_ok h
  refine htouch.fundsOf_eq ?_ other
  rw [(Reserve.refreshRates_balances hu).1]
  rfl

/-- A withdrawal takes at least what it pays off the funds of its reserve. -/
lemma withdraw_fundsOf (honest : Vault.Honest V) {owner : Account} {amount now paid : Nat}
    {movement : Movement}
    (h : ledger.withdraw vault asset owner amount now = .ok (paid, movement, ledger', vault'))
    (other : Asset) :
    ledger'.fundsOf other + (if other = asset then paid else 0) ≤ ledger.fundsOf other := by
  obtain ⟨_, reserve, accrued, pulled, reserve', _, htouch, ha, hp, hle, -, -, hu⟩ :=
    withdraw_eq_ok h
  split
  · next heq =>
    have hpulled := Reserve.pull_funds_le honest hp
    rw [heq, fundsOf_eq htouch.new, fundsOf_eq htouch.old, (Reserve.refreshRates_balances hu).1,
      ← (Reserve.accrue_balances ha).1]
    simp only [Reserve.funds] at hpulled ⊢
    omega
  · next hne => exact (htouch.fundsOf_ne hne).le

/-- Lending takes at least what it lends off the funds of its reserve. -/
lemma lend_fundsOf (honest : Vault.Honest V) {amount now scaled : Nat}
    (h : ledger.lend vault asset amount now = .ok (scaled, ledger', vault')) (other : Asset) :
    ledger'.fundsOf other + (if other = asset then amount else 0) ≤ ledger.fundsOf other := by
  obtain ⟨_, reserve, accrued, _, pulled, reserve', htouch, -, ha, hp, hle, -, hu⟩ := lend_eq_ok h
  split
  · next heq =>
    have hpulled := Reserve.pull_funds_le honest hp
    rw [heq, fundsOf_eq htouch.new, fundsOf_eq htouch.old, (Reserve.refreshRates_balances hu).1,
      ← (Reserve.accrue_balances ha).1]
    simp only [Reserve.funds] at hpulled ⊢
    omega
  · next hne => exact (htouch.fundsOf_ne hne).le

/-- Administering the ledger with an honest vault does not add to any funds. -/
lemma Administered.fundsOf_le (honest : Vault.Honest V) (h : ledger.Administered V ledger')
    (other : Asset) : ledger'.fundsOf other ≤ ledger.fundsOf other := by
  cases h with
  | same => exact Nat.le_refl _
  | opened h =>
    obtain ⟨reserve, hnone, -, hr, rfl⟩ := openReserve_eq_ok h
    obtain ⟨_, _, _, -, -, -, rfl⟩ := Reserve.refreshRates_eq_ok hr
    simp only [Ledger.fundsOf, setReserve, SortedMap.get?_insert]
    split
    · exact Nat.zero_le _
    · exact Nat.le_refl _
  | switched h =>
    obtain ⟨_, htouch⟩ := setFlags_eq_ok h
    exact (htouch.fundsOf_eq rfl other).le
  | factored h =>
    obtain ⟨_, _, _, _, htouch, -, ha, hu⟩ := setFactor_eq_ok h
    refine (htouch.fundsOf_eq ?_ other).le
    rw [(Reserve.refreshRates_balances hu).1, ← (Reserve.accrue_balances ha).1]
    rfl
  | remodelled h =>
    obtain ⟨_, _, _, _, htouch, -, ha, hu⟩ := setModel_eq_ok h
    refine (htouch.fundsOf_eq ?_ other).le
    rw [(Reserve.refreshRates_balances hu).1, ← (Reserve.accrue_balances ha).1]
    rfl
  | shared h =>
    obtain ⟨_, htouch, -⟩ := setVaultShare_eq_ok h
    exact (htouch.fundsOf_eq rfl other).le
  | rebalanced ha h =>
    obtain ⟨_, _, htouch, hb⟩ := rebalance_eq_ok h
    rw [← accrue_fundsOf ha other]
    exact htouch.fundsOf_le (Reserve.rebalance_funds_le honest hb) other

end Ledger

end PooledCredit
