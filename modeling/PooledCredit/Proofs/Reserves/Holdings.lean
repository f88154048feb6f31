import PooledCredit.Proofs.Loans.Underflow
import PooledCredit.Proofs.Reserves.Solvency

/-!
# The holdings of the suppliers add up

A reserve keeps the scaled supply it has issued, and the ledger keeps what each account holds of it.
An accrual mints the treasury's share on both sides, a deposit that of its beneficiary, and a
withdrawal burns on both sides what it takes from its owner. So in every reachable store what a
reserve has issued is what the accounts hold together, and no withdrawal can try to take more off
either side than is there.
-/

namespace PooledCredit

/-! ## Single reserves -/

namespace Reserve

variable {reserve reserve' : Reserve}

/-- Refreshing the rates issues nothing. -/
lemma refreshRates_scaledSupply (h : reserve.refreshRates = .ok reserve') :
    reserve'.scaledSupply = reserve.scaledSupply := by
  obtain ⟨_, _, _, -, -, -, rfl⟩ := refreshRates_eq_ok h
  rfl

/-- An accrual issues the treasury's share. -/
lemma accrue_scaledSupply {now : Nat} {accrual : Accrual}
    (h : reserve.accrue now = .ok (accrual, reserve')) :
    reserve'.scaledSupply = reserve.scaledSupply + accrual.treasuryScaled := by
  rcases accrue_eq_ok h with ⟨-, rfl, rfl⟩ | ⟨-, _, _, _, _, _, -, -, -, -, -, -, -, -, hu⟩
  · rfl
  · exact refreshRates_scaledSupply hu

variable {V : Type} [Vault V] {vault vault' : V} {movement : Movement}

/-- A pull issues nothing. -/
lemma pull_scaledSupply {needed : Nat}
    (h : reserve.pull vault needed = .ok (movement, reserve', vault')) :
    reserve'.scaledSupply = reserve.scaledSupply := by
  rcases pull_eq_ok h with ⟨-, rfl, -⟩ | ⟨_, _, received, -, -, hreceive, hu⟩
  · rfl
  · obtain ⟨-, rfl⟩ := receive_eq_ok hreceive
    have hissued := refreshRates_scaledSupply hu
    exact hissued

/-- A pull fails plainly or as the vault does. -/
lemma plain_pull {p : Failure → Prop} (hp : ∀ e : Failure, e.isPlain = true → p e)
    (hvault : ∀ asset request, FailsOnly p (Vault.release vault asset request))
    (reserve : Reserve) (needed : Nat) : FailsOnly p (reserve.pull vault needed) := by
  refine failsOnly_ite (fun _ => failsOnly_ok _) fun _ => ?_
  refine (plain_bareSub hp _ _).bind fun _ _ => ?_
  refine (hvault _ _).bind fun _ _ => ?_
  refine FailsOnly.bind ?_ fun _ _ => ?_
  · refine (failsOnly_addAmount (hp _ rfl) _ _).bind fun _ _ => ?_
    refine (plain_bareSub hp _ _).bind fun _ _ => ?_
    refine (failsOnly_addAmount (hp _ rfl) _ _).bind fun _ _ => ?_
    exact (failsOnly_addAmount (hp _ rfl) _ _).bind fun _ _ => failsOnly_pure _
  · exact (plain_refreshRates hp _).bind fun _ _ => failsOnly_pure _

/-- A rebalance issues nothing. -/
lemma rebalance_scaledSupply (h : reserve.rebalance vault = .ok (movement, reserve', vault')) :
    reserve'.scaledSupply = reserve.scaledSupply := by
  obtain ⟨loss, known, last, hk, hu, hmove⟩ := rebalance_eq_ok h
  obtain ⟨-, rfl⟩ := recognize_eq_ok hk
  rw [refreshRates_scaledSupply hu]
  rcases hmove with ⟨-, rfl, -⟩ | ⟨_, -, -, -, rfl⟩ | ⟨_, _, _, -, -, hreceive, -⟩
  · rfl
  · rfl
  · obtain ⟨-, rfl⟩ := receive_eq_ok hreceive
    rfl

end Reserve

/-! ## The ledger -/

namespace Ledger

/-- The scaled supply that the reserve of an asset has issued; none without a reserve. -/
def issuedOf (ledger : Ledger) (asset : Asset) : Nat :=
  (ledger.reserves.get? asset).elim 0 Reserve.scaledSupply

/-- The scaled supply of an asset that all accounts hold together. -/
def heldOf (ledger : Ledger) (asset : Asset) : Nat := (ledger.holders asset).total id

/-- What every reserve has issued is what the accounts hold of it. -/
def HoldingsAddUp (ledger : Ledger) : Prop :=
  ∀ asset, ledger.issuedOf asset = ledger.heldOf asset

variable {ledger ledger' : Ledger} {asset other : Asset} {account owner : Account}

/-- What a present reserve has issued. -/
lemma issuedOf_eq {reserve : Reserve} (h : ledger.reserves.get? asset = some reserve) :
    ledger.issuedOf asset = reserve.scaledSupply := by
  simp [issuedOf, h]

/-- Storing a reserve replaces what it has issued. -/
lemma issuedOf_setReserve (ledger : Ledger) (asset other : Asset) (reserve : Reserve) :
    (ledger.setReserve asset reserve).issuedOf other =
      if other = asset then reserve.scaledSupply else ledger.issuedOf other := by
  unfold issuedOf setReserve
  rw [SortedMap.get?_insert]
  split <;> rfl

/-! ### Single accounts -/

/-- Replacing the holders of an asset leaves those of the others alone. -/
lemma holders_insert (ledger : Ledger) (asset other : Asset) (held : SortedMap Account Nat) :
    { ledger with holdings := ledger.holdings.insert asset held }.holders other =
      if other = asset then held else ledger.holders other := by
  unfold holders SortedMap.getD
  rw [SortedMap.get?_insert]
  split <;> rfl

/-- What an account holds is its part of what all accounts hold. -/
lemma part_holders (ledger : Ledger) (asset : Asset) (account : Account) :
    SortedMap.part id ((ledger.holders asset).get? account) =
      ledger.scaledSupplyOf asset account := by
  unfold scaledSupplyOf SortedMap.getD
  cases (ledger.holders asset).get? account <;> rfl

/-- No account holds more than all together. -/
lemma scaledSupplyOf_le (ledger : Ledger) (asset : Asset) (account : Account) :
    ledger.scaledSupplyOf asset account ≤ ledger.heldOf asset := by
  rw [← part_holders]
  cases hheld : (ledger.holders asset).get? account with
  | none => exact Nat.zero_le _
  | some held => exact SortedMap.le_total id hheld

/-- A credit adds to the holding of one account. -/
lemma credit_scaledSupplyOf {scaled : Nat}
    (h : ledger.credit asset account scaled = .ok ledger') (other : Asset) (owner : Account) :
    ledger'.scaledSupplyOf other owner =
      ledger.scaledSupplyOf other owner +
        if other = asset ∧ owner = account then scaled else 0 := by
  simp only [credit, bind_eq_ok, addAmount_eq_ok, pure_eq_ok] at h
  obtain ⟨_, ⟨-, rfl⟩, rfl⟩ := h
  rw [scaledSupplyOf, holders_insert]
  by_cases hother : other = asset
  · subst hother
    by_cases howner : owner = account
    · subst howner
      simp [SortedMap.getD]
    · simp [SortedMap.getD, SortedMap.get?_insert, howner, scaledSupplyOf]
  · simp [hother, scaledSupplyOf]

/-- A debit takes from the holding of one account. -/
lemma debit_scaledSupplyOf {scaled : Nat}
    (h : ledger.debit asset account scaled = .ok ledger') (other : Asset) (owner : Account) :
    ledger'.scaledSupplyOf other owner + (if other = asset ∧ owner = account then scaled else 0) =
      ledger.scaledSupplyOf other owner := by
  simp only [debit, bind_eq_ok, subAmount_eq_ok, pure_eq_ok] at h
  obtain ⟨left, ⟨hle, hleft⟩, rfl⟩ := h
  rw [scaledSupplyOf, holders_insert]
  by_cases hother : other = asset
  · subst hother
    by_cases howner : owner = account
    · -- an account that holds nothing more is dropped
      subst howner
      rw [if_pos rfl, if_pos (And.intro rfl rfl)]
      by_cases hnone : left = 0
      · simp only [if_pos hnone, SortedMap.getD, SortedMap.get?_erase_self, Option.getD_none]
        omega
      · simp only [if_neg hnone, SortedMap.getD, SortedMap.get?_insert_self, Option.getD_some]
        omega
    · rw [if_pos rfl, if_neg fun hboth : other = other ∧ owner = account => howner hboth.2]
      by_cases hnone : left = 0
      · simp only [if_pos hnone, SortedMap.getD, SortedMap.get?_erase_of_ne _ howner,
          scaledSupplyOf, Nat.add_zero]
      · simp only [if_neg hnone, SortedMap.getD, SortedMap.get?_insert_of_ne _ howner,
          scaledSupplyOf, Nat.add_zero]
  · rw [if_neg hother, if_neg fun hboth : other = asset ∧ owner = account => hother hboth.1]
    rfl

/-- A credit adds to what all accounts hold together. -/
lemma credit_heldOf {scaled : Nat} (h : ledger.credit asset account scaled = .ok ledger')
    (other : Asset) :
    ledger'.heldOf other = ledger.heldOf other + if other = asset then scaled else 0 := by
  simp only [credit, bind_eq_ok, addAmount_eq_ok, pure_eq_ok] at h
  obtain ⟨_, ⟨-, rfl⟩, rfl⟩ := h
  rw [heldOf, holders_insert]
  split
  · next hother =>
    subst hother
    have htotal := SortedMap.total_insert id (ledger.holders other) account
      (ledger.scaledSupplyOf other account + scaled)
    rw [part_holders] at htotal
    simp only [id_eq] at htotal
    rw [heldOf]
    omega
  · rfl

/-- A debit takes from what all accounts hold together. -/
lemma debit_heldOf {scaled : Nat} (h : ledger.debit asset owner scaled = .ok ledger')
    (other : Asset) :
    ledger'.heldOf other + (if other = asset then scaled else 0) = ledger.heldOf other := by
  simp only [debit, bind_eq_ok, subAmount_eq_ok, pure_eq_ok] at h
  obtain ⟨_, ⟨hle, rfl⟩, rfl⟩ := h
  rw [heldOf, holders_insert]
  split
  · next hother =>
    subst hother
    have hpart := part_holders ledger other owner
    rw [heldOf]
    split
    · -- an account that holds nothing more is dropped
      next hnone =>
      have htotal := SortedMap.total_erase id (ledger.holders other) owner
      omega
    · have htotal := SortedMap.total_insert id (ledger.holders other) owner
        (ledger.scaledSupplyOf other owner - scaled)
      simp only [id_eq] at htotal
      omega
  · rfl

/-! ### Both sides -/

namespace HoldingsAddUp

/-- What a change of a reserve issues must be credited. -/
lemma mint (h : ledger.HoldingsAddUp) {before after : Reserve} {scaled : Nat}
    (hr : ledger.reserves.get? asset = some before)
    (hissued : after.scaledSupply = before.scaledSupply + scaled)
    (hc : (ledger.setReserve asset after).credit asset account scaled = .ok ledger') :
    ledger'.HoldingsAddUp := by
  intro other
  have hheld := credit_heldOf hc other
  obtain ⟨_, rfl⟩ := credit_eq_ok hc
  have hissuedOf : (ledger.setReserve asset after).issuedOf other =
      ledger.issuedOf other + if other = asset then scaled else 0 := by
    rw [issuedOf_setReserve]
    split
    · next hother => rw [hother, issuedOf_eq hr, hissued]
    · rfl
  rw [hheld]
  exact hissuedOf.trans (congrArg (· + _) (h other))

/-- What a change of a reserve takes back must be debited. -/
lemma burn (h : ledger.HoldingsAddUp) {before after : Reserve} {scaled : Nat}
    (hr : ledger.reserves.get? asset = some before)
    (hissued : after.scaledSupply + scaled = before.scaledSupply)
    (hd : (ledger.setReserve asset after).debit asset owner scaled = .ok ledger') :
    ledger'.HoldingsAddUp := by
  intro other
  have hheld : ledger'.heldOf other + _ = ledger.heldOf other := debit_heldOf hd other
  obtain ⟨_, rfl⟩ := debit_eq_ok hd
  have hissuedOf : (ledger.setReserve asset after).issuedOf other +
      (if other = asset then scaled else 0) = ledger.issuedOf other := by
    rw [issuedOf_setReserve]
    split
    · next hother => rw [hother, issuedOf_eq hr, hissued]
    · rfl
  rw [h other, ← hheld] at hissuedOf
  exact Nat.add_right_cancel hissuedOf

/-- A change of a reserve that issues nothing keeps the holdings adding up. -/
lemma setReserve (h : ledger.HoldingsAddUp) {before after : Reserve}
    (hr : ledger.reserves.get? asset = some before)
    (hissued : after.scaledSupply = before.scaledSupply) :
    (ledger.setReserve asset after).HoldingsAddUp := by
  intro other
  rw [issuedOf_setReserve]
  split
  · next hother =>
    rw [hother, hissued, ← issuedOf_eq hr]
    exact h asset
  · exact h other

/-- A change of a reserve that issues nothing may refresh the rates as well. -/
lemma refreshed (h : ledger.HoldingsAddUp) {before middle after : Reserve}
    (hr : ledger.reserves.get? asset = some before)
    (hu : middle.refreshRates = .ok after)
    (hissued : middle.scaledSupply = before.scaledSupply) :
    (ledger.setReserve asset after).HoldingsAddUp :=
  h.setReserve hr ((Reserve.refreshRates_scaledSupply hu).trans hissued)

variable {now amount : Nat}

/-- An accrual keeps the holdings adding up. -/
lemma accrue (h : ledger.HoldingsAddUp) {accrual : Accrual}
    (ha : ledger.accrue asset now = .ok (accrual, ledger')) : ledger'.HoldingsAddUp := by
  simp only [Ledger.accrue, Ledger.reserve, bind_eq_ok, orRefuse_eq_ok, Prod.exists] at ha
  obtain ⟨reserve, hr, _, reserve', haccrue, ha⟩ := ha
  have hissued := Reserve.accrue_scaledSupply haccrue
  split at ha
  · next hnothing =>
    obtain ⟨rfl, rfl⟩ := Prod.mk.inj (pure_eq_ok.mp ha)
    rw [hnothing] at hissued
    exact h.setReserve hr hissued
  · simp only [bind_eq_ok, pure_eq_ok, Prod.mk.injEq] at ha
    obtain ⟨_, hc, rfl, rfl⟩ := ha
    exact h.mint hr hissued hc

/-- A deposit keeps the holdings adding up. -/
lemma deposit (h : ledger.HoldingsAddUp) {scaled : Nat}
    (hd : ledger.deposit asset account amount now = .ok (scaled, ledger')) :
    ledger'.HoldingsAddUp := by
  simp only [Ledger.deposit, Ledger.reserve, bind_eq_ok, require_eq_ok, exists_const,
    orRefuse_eq_ok, pure_eq_ok, addAmount_eq_ok, Prod.exists, Prod.mk.injEq] at hd
  obtain ⟨-, _, -, _, -, _, -, _, accrued, ha, reserve, hr, _, -, -, _, ⟨-, rfl⟩, _, ⟨-, rfl⟩, _, hu,
    _, hc, rfl, rfl⟩ := hd
  have hissued := Reserve.refreshRates_scaledSupply hu
  exact (h.accrue ha).mint hr hissued hc

/-- A repayment keeps the holdings adding up. -/
lemma repay (h : ledger.HoldingsAddUp) {scaled : Nat} {repayment : Repayment}
    (hp : ledger.repay asset scaled amount = .ok (repayment, ledger')) :
    ledger'.HoldingsAddUp := by
  simp only [Ledger.repay, Ledger.reserve, ite_bind, bind_eq_ok, require_eq_ok, exists_const,
    orRefuse_eq_ok, pure_eq_ok, Prod.mk.injEq] at hp
  obtain ⟨-, reserve, hr, _, -, _, -, _, -, _, -, _, hu, _, -, -, rfl⟩ := hp
  exact h.refreshed hr hu rfl

/-- A write-off keeps the holdings adding up. -/
lemma writeOff (h : ledger.HoldingsAddUp) {scaled loss : Nat}
    (hw : ledger.writeOff asset scaled = .ok (loss, ledger')) : ledger'.HoldingsAddUp := by
  simp only [Ledger.writeOff, Ledger.reserve, bind_eq_ok, orRefuse_eq_ok, pure_eq_ok,
    Prod.mk.injEq] at hw
  obtain ⟨reserve, hr, _, -, _, -, _, -, _, hu, -, rfl⟩ := hw
  exact h.refreshed hr hu rfl

variable {V : Type} [Vault V] {vault vault' : V} {movement : Movement}

/-- A withdrawal keeps the holdings adding up. -/
lemma withdraw (h : ledger.HoldingsAddUp) {paid : Nat}
    (hw : ledger.withdraw vault asset owner amount now = .ok (paid, movement, ledger', vault')) :
    ledger'.HoldingsAddUp := by
  simp only [Ledger.withdraw, Ledger.reserve, bind_pure_bind, ite_bind, bind_eq_ok, require_eq_ok,
    exists_const, orRefuse_eq_ok, pure_eq_ok, subAmount_eq_ok, Prod.exists, Prod.mk.injEq] at hw
  obtain ⟨-, _, -, _, -, _, accrued, ha, reserve, hr, _, -, -, burned, -, _, pulled, _, hp, -, _,
    -, _, ⟨hle, rfl⟩, _, hu, _, hd, -, -, rfl, -⟩ := hw
  have hissued := Reserve.refreshRates_scaledSupply hu
  refine (h.accrue ha).burn hr ?_ hd
  rw [hissued, ← Reserve.pull_scaledSupply hp]
  exact Nat.sub_add_cancel hle

/-- Lending keeps the holdings adding up. -/
lemma lend (h : ledger.HoldingsAddUp) {scaled : Nat}
    (hl : ledger.lend vault asset amount now = .ok (scaled, ledger', vault')) :
    ledger'.HoldingsAddUp := by
  simp only [Ledger.lend, Ledger.reserve, bind_eq_ok, require_eq_ok, exists_const, orRefuse_eq_ok,
    pure_eq_ok, Prod.exists, Prod.mk.injEq] at hl
  obtain ⟨-, _, -, _, -, _, accrued, ha, reserve, hr, _, pulled, _, hp, -, _, -, _, -, _, -, _, hu,
    -, rfl, -⟩ := hl
  have hpulled := Reserve.pull_scaledSupply hp
  exact (h.accrue ha).refreshed hr hu hpulled

/-- Administering the ledger keeps the holdings adding up. -/
lemma administered (h : ledger.HoldingsAddUp) (ha : ledger.Administered V ledger') :
    ledger'.HoldingsAddUp := by
  cases ha with
  | same => exact h
  | @opened _ asset _ _ ho =>
    obtain ⟨reserve, hnone, -, hr, rfl⟩ := openReserve_eq_ok ho
    have hissued := Reserve.refreshRates_scaledSupply hr
    intro other
    rw [issuedOf_setReserve]
    split
    · next hother =>
      -- nobody holds anything of an asset without a reserve
      have hempty := h asset
      rw [issuedOf, hnone] at hempty
      rw [hother, hissued]
      exact hempty
    · exact h other
  | switched hs =>
    simp only [setFlags, Ledger.reserve, bind_eq_ok, require_eq_ok, exists_const, orRefuse_eq_ok,
      pure_eq_ok] at hs
    obtain ⟨reserve, hr, -, rfl⟩ := hs
    exact h.setReserve hr rfl
  | factored hf =>
    simp only [setFactor, Ledger.reserve, bind_eq_ok, require_eq_ok, exists_const, orRefuse_eq_ok,
      pure_eq_ok, Prod.exists] at hf
    obtain ⟨-, _, accrued, ha, reserve, hr, _, hu, rfl⟩ := hf
    exact (h.accrue ha).refreshed hr hu rfl
  | remodelled hm =>
    simp only [setModel, Ledger.reserve, bind_eq_ok, orRefuse_eq_ok, pure_eq_ok, Prod.exists] at hm
    obtain ⟨_, -, _, accrued, ha, reserve, hr, _, hu, rfl⟩ := hm
    exact (h.accrue ha).refreshed hr hu rfl
  | shared hs =>
    simp only [setVaultShare, Ledger.reserve, bind_eq_ok, require_eq_ok, exists_const,
      orRefuse_eq_ok, pure_eq_ok] at hs
    obtain ⟨-, reserve, hr, rfl⟩ := hs
    exact h.setReserve hr rfl
  | rebalanced ha hb =>
    simp only [rebalance, Ledger.reserve, bind_eq_ok, orRefuse_eq_ok, pure_eq_ok, Prod.exists,
      Prod.mk.injEq] at hb
    obtain ⟨reserve, hr, _, reserve', _, hb, -, rfl, -⟩ := hb
    exact (h.accrue ha).setReserve hr (Reserve.rebalance_scaledSupply hb)

/-! ### Withdrawals -/

/-- Where the holdings add up, a withdrawal fails plainly or as the vault does: it burns no more
than its owner holds, and that is no more than was issued. -/
lemma plain_withdraw {p : Failure → Prop} (hp : ∀ e : Failure, e.isPlain = true → p e)
    (h : ledger.HoldingsAddUp) (asset : Asset) (owner : Account) (amount now : Nat)
    (hvault : ∀ asset request, FailsOnly p (Vault.release vault asset request)) :
    FailsOnly p (ledger.withdraw vault asset owner amount now) := by
  have hshort (idle paid : Nat) :
      FailsOnly p (require (paid ≤ idle) (.liquidityTooLow idle paid)) :=
    failsOnly_require fun _ => hp _ rfl
  refine FailsOnly.bind (failsOnly_require fun _ => hp _ rfl) fun _ _ => ?_
  refine (plain_reserve (plain_refusal hp) _ _).bind fun _ _ => ?_
  refine FailsOnly.bind (failsOnly_require fun _ => hp _ rfl) fun _ _ => ?_
  refine (plain_accrue hp _ _ _).bind fun ⟨_, accrued⟩ ha => ?_
  refine (plain_reserve (plain_refusal hp) _ _).bind fun reserve hr => ?_
  refine (plain_mulDiv (plain_refusal hp) _ _ _ _).bind fun balance _ => ?_
  refine FailsOnly.bind (failsOnly_require fun _ => hp _ rfl) fun _ _ => ?_
  simp only [bind_pure_bind, ite_bind]
  refine FailsOnly.bind ?_ fun burned hburned => ?_
  · refine failsOnly_ite (fun _ => failsOnly_pure _) fun _ => ?_
    exact (plain_mulDiv (plain_refusal hp) _ _ _ _).map
  refine FailsOnly.bind (Reserve.plain_pull hp hvault reserve _) fun pull hpull => ?_
  obtain ⟨_, pulled, _⟩ := pull
  refine (hshort _ _).bind fun _ _ => ?_
  refine (plain_bareSub hp _ _).bind fun _ _ => ?_
  have hheld : burned ≤ accrued.scaledSupplyOf asset owner := by
    generalize (if amount = maxAmount then balance else amount) = paid at *
    split at hburned
    · exact (pure_eq_ok.mp hburned).ge
    · obtain ⟨up, -, rfl⟩ := map_eq_ok.mp hburned
      exact Nat.min_le_right up _
  have hissued : burned ≤ pulled.scaledSupply := by
    have hr := orRefuse_eq_ok.mp hr
    rw [Reserve.pull_scaledSupply hpull, ← issuedOf_eq hr, h.accrue ha asset]
    exact hheld.trans (accrued.scaledSupplyOf_le asset owner)
  refine (failsOnly_subAmount hissued).bind fun _ _ => ?_
  refine (Reserve.plain_refreshRates hp _).bind fun _ _ => ?_
  refine FailsOnly.bind ?_ fun _ _ => failsOnly_pure _
  exact (failsOnly_subAmount hheld).bind fun _ _ => failsOnly_pure _

end HoldingsAddUp

/-- An accrual adds what the treasury is owed to what its reserve has issued and to what the
treasury holds, and nothing to other reserves or accounts. -/
lemma accrue_mints {accrual : Accrual} {now : Nat}
    (h : ledger.accrue asset now = .ok (accrual, ledger')) :
    (∀ other, ledger'.issuedOf other =
      ledger.issuedOf other + if other = asset then accrual.treasuryScaled else 0) ∧
    ∀ other owner, ledger'.scaledSupplyOf other owner =
      ledger.scaledSupplyOf other owner +
        if other = asset ∧ owner = ledger.treasury then accrual.treasuryScaled else 0 := by
  obtain ⟨reserve, reserve', htouch, ha⟩ := accrue_eq_ok h
  constructor
  · intro other
    split
    · next hother =>
      rw [hother, issuedOf_eq htouch.new, issuedOf_eq htouch.old, Reserve.accrue_scaledSupply ha]
    · next hother =>
      rw [issuedOf, htouch.others other hother]
      rfl
  · intro other owner
    simp only [accrue, Ledger.reserve, bind_eq_ok, Prod.exists] at h
    obtain ⟨_, -, _, reserve', -, h⟩ := h
    split at h
    · next hnothing =>
      obtain ⟨rfl, rfl⟩ := Prod.mk.inj (pure_eq_ok.mp h)
      rw [hnothing]
      simp [scaledSupplyOf, setReserve, holders]
    · simp only [bind_eq_ok, pure_eq_ok, Prod.mk.injEq] at h
      obtain ⟨_, hc, rfl, rfl⟩ := h
      exact credit_scaledSupplyOf hc other owner

end Ledger

/-! ## Requests -/

namespace Store

variable {store store' : Store} {now : Nat}

/-- A settlement keeps the holdings adding up. -/
lemma settle_holdings (h : store.ledger.HoldingsAddUp) {loan : Loan} {proceeds : Nat}
    {winner : Option Account} {settlement : Settlement} {transfers : List Transfer}
    (hs : store.settle loan proceeds winner now = .ok (settlement, store', transfers)) :
    store'.ledger.HoldingsAddUp := by
  obtain ⟨s, -, rfl, -⟩ := settle_eq_ok hs
  have hrepaid : s.repaid.HoldingsAddUp := by
    rcases s.repays with ⟨-, -, hledger⟩ | ⟨_, -, hp, -⟩
    · rw [hledger]
      exact h
    · exact h.repay hp
  rcases s.writesOff with ⟨-, -, hledger⟩ | ⟨-, hw⟩
  · show s.settled.HoldingsAddUp
    rw [hledger]
    exact hrepaid
  · exact hrepaid.writeOff hw

end Store

/-- Every user's action keeps the holdings adding up. -/
lemma UserAction.Serves.holdings {O V N : Type} [PriceSource O] [Vault V] [Venue N]
    {action : UserAction} {prices : O} {store : Store} {vault : V} {venue : N}
    {facility : Facility V N} {caller : Account} {now : Nat} {transfers : List Transfer}
    (hs : action.Serves prices store vault venue caller now facility transfers)
    (h : store.ledger.HoldingsAddUp) : facility.store.ledger.HoldingsAddUp := by
  cases hs with
  | deposit hd => exact h.deposit hd
  | withdraw hw => exact h.withdraw hw
  | borrow s => exact (h.accrue s.accrues).lend s.lends
  | repay s => exact (h.accrue s.accrues).repay s.repays
  | redeem s => exact (h.accrue s.accrues).repay s.repays
  | bid s => exact h.accrue s.accrues
  | liquidate s | sell s => exact Store.settle_holdings (h.accrue s.accrues) s.settles
  | buyDebt s | claimDebt s =>
    show s.store'.ledger.HoldingsAddUp
    rw [Store.passDebt_ledger s.passes]
    exact h
  | setMandate | list | bidDebt | cancelListing => exact h

namespace Store

variable {store store' : Store}

/-- Every step keeps the holdings adding up. -/
lemma Step.holdings (hs : Step store store') (h : store.ledger.HoldingsAddUp) :
    store'.ledger.HoldingsAddUp := by
  cases hs with
  | user hrun => exact (UserAction.run_serves hrun).holdings h
  | operator hrun => exact h.administered (OperatorAction.run_eq_ok hrun).2.2.2.2
  | accrual ha =>
    obtain ⟨_, _, hledger, rfl⟩ := accrue_eq_ok ha
    exact h.accrue hledger

/-- The holdings add up in every reachable store. -/
theorem Reachable.holdings (h : store.Reachable) : store.ledger.HoldingsAddUp := by
  refine h.invariant ?_ fun _ _ _ hi hs => hs.holdings hi
  intro settings store hc
  obtain rfl := create_eq_ok hc
  exact fun _ => rfl

/-- Where the holdings add up, a withdrawal fails plainly or as the vault does. -/
lemma plain_withdraw {V : Type} [Vault V] {vault : V} {p : Failure → Prop}
    (hp : ∀ e : Failure, e.isPlain = true → p e) (h : store.ledger.HoldingsAddUp) (caller : Account)
    (asset : Asset) (amount : Nat) (recipient : Account) (now : Nat)
    (hvault : ∀ asset request, FailsOnly p (Vault.release vault asset request)) :
    FailsOnly p (store.withdraw vault caller asset amount recipient now) := by
  refine (h.plain_withdraw hp asset caller amount now hvault).bind fun _ _ => ?_
  exact (plain_reserveUpdate (plain_refusal hp) _ _ _).bind fun _ _ => failsOnly_pure _

end Store

/-- In every reachable pool the scaled supply of a reserve is what all accounts, the treasury
among them, hold of it together. Every accrual adds the same amount to what its reserve has issued
and to what the treasury holds. Hence a withdrawal underflows only when the vault itself does. -/
theorem Pool.Reachable.holdings_match_reserve_supply {O V N : Type} [PriceSource O] [Vault V]
    [Venue N] {rule : Pool O V N → Move O V N → Prop} {pool : Pool O V N}
    (h : pool.Reachable rule) :
    (∀ asset reserve, pool.state.store.ledger.reserves.get? asset = some reserve →
      reserve.scaledSupply = (pool.state.store.ledger.holders asset).total id) ∧
    (∀ (ledger ledger' : Ledger) asset now accrual,
      ledger.accrue asset now = .ok (accrual, ledger') →
        (∀ other, ledger'.issuedOf other =
          ledger.issuedOf other + if other = asset then accrual.treasuryScaled else 0) ∧
        ∀ other owner, ledger'.scaledSupplyOf other owner =
          ledger.scaledSupplyOf other owner +
            if other = asset ∧ owner = ledger.treasury then accrual.treasuryScaled else 0) ∧
    ∀ (vault : V) caller asset amount recipient now,
      pool.state.store.withdraw vault caller asset amount recipient now =
          .error (.refused .underflow) →
        ∃ asset request, Vault.release vault asset request = .error (.refused .underflow) := by
  have hadd := h.store.holdings
  refine ⟨?_, ?_, ?_⟩
  · intro asset reserve hr
    rw [← Ledger.issuedOf_eq hr]
    exact hadd asset
  · intro ledger ledger' asset now accrual ha
    exact Ledger.accrue_mints ha
  · intro vault caller asset amount recipient now hu
    by_contra hnone
    refine Store.plain_withdraw (fun _ => Failure.ne_underflow) hadd caller asset amount recipient
      now ?_ _ hu rfl
    intro asset request e he heq
    exact hnone ⟨asset, request, heq ▸ he⟩

namespace SmallMarket

/-- Twenty years later the supplier takes 100. -/
def withdrawing : List (Move PriceFeeds NoVault FlatVenue) :=
  [.call ⟨supplier, 20 * year, .user (.withdraw coin 100 supplier)⟩]

/-- After the withdrawal the treasury holds 15 scaled units of its share of the interest, the
supplier 913, and the reserve has issued these 928. -/
theorem withdrawing_supply :
    let ledger := (lent.follow withdrawing).state.store.ledger
    ledger.scaledSupplyOf coin ledger.treasury = 15 ∧ ledger.scaledSupplyOf coin supplier = 913 ∧
      ledger.issuedOf coin = 928 ∧ (ledger.holders coin).total id = 928 := by
  have hr := lent_follow_reachable withdrawing
  have hissued : (lent.follow withdrawing).state.store.ledger.issuedOf coin = 928 := by
    decide +kernel
  refine ⟨by decide +kernel, by decide +kernel, hissued, ?_⟩
  cases hres : (lent.follow withdrawing).state.store.ledger.reserves.get? coin with
  | none =>
    rw [Ledger.issuedOf, hres] at hissued
    cases hissued
  | some reserve =>
    rw [← (Pool.Reachable.holdings_match_reserve_supply hr).1 coin reserve hres,
      ← Ledger.issuedOf_eq hres]
    exact hissued

end SmallMarket

end PooledCredit
