import Mathlib.Logic.Relation
import PooledCredit.Proofs.Reserves.Solvency
import PooledCredit.Yield.Scripted

/-!
# The rates after any operation

Interest is charged at the rates that a reserve has stored, so the rates must be refreshed
whenever a balance changes. Every change of the ledger is a sequence of its thirteen operations,
whatever request makes it, and each of these leaves the rates of every reserve as the curve has
them: it refreshes them after its last change, or it changes nothing that the curve reads.
-/

namespace PooledCredit

/-! ## Single reserves -/

namespace Reserve

/-- The stored rates are those that the curve gives for the present liquidity, debt and treasury
share. -/
def InStep (reserve : Reserve) : Prop :=
  ∃ liquidity debt, reserve.liquidity = .ok liquidity ∧ reserve.debt = .ok debt ∧
    reserve.model.rates liquidity debt reserve.factor =
      .ok ⟨reserve.supplyRate, reserve.borrowRate⟩

variable {reserve reserve' : Reserve}

/-- Refreshed rates are in step. -/
lemma refreshRates_inStep (hu : reserve.refreshRates = .ok reserve') : reserve'.InStep := by
  obtain ⟨liquidity, debt, rates, hl, hd, hr, rfl⟩ := refreshRates_eq_ok hu
  exact ⟨liquidity, debt, hl, hd, hr⟩

/-- An accrual at the time of the last update changes nothing, and any other ends with fresh
rates. -/
lemma accrue_inStep {now : Nat} {accrual : Accrual}
    (h : reserve.accrue now = .ok (accrual, reserve')) (hin : reserve.InStep) :
    reserve'.InStep := by
  rcases accrue_eq_ok h with ⟨-, -, rfl⟩ | ⟨-, _, _, _, _, _, -, -, -, -, -, -, -, -, hu⟩
  · exact hin
  · exact refreshRates_inStep hu

variable {V : Type} [Vault V] {vault vault' : V} {movement : Movement}

/-- A pull that asks the vault for nothing changes nothing, and any other ends with fresh rates. -/
lemma pull_inStep {needed : Nat} (h : reserve.pull vault needed = .ok (movement, reserve', vault'))
    (hin : reserve.InStep) : reserve'.InStep := by
  rcases pull_eq_ok h with ⟨-, rfl, -⟩ | ⟨_, _, _, -, -, -, hu⟩
  · exact hin
  · exact refreshRates_inStep hu

/-- A rebalance ends with fresh rates. -/
lemma rebalance_inStep (h : reserve.rebalance vault = .ok (movement, reserve', vault')) :
    reserve'.InStep := by
  obtain ⟨_, _, _, -, hu, -⟩ := rebalance_eq_ok h
  exact refreshRates_inStep hu

end Reserve

/-! ## The ledger -/

namespace Ledger

/-- One ledger leads to another by a successful operation. The vault may be another each time, and
nothing is assumed of what it gives back or reports. -/
inductive Operates (ledger : Ledger) : Ledger → Prop where
  | opened {ledger' : Ledger} {asset : Asset} {terms : ReserveTerms} {now : Nat}
      (h : ledger.openReserve asset terms now = .ok ledger') : Operates ledger ledger'
  | accrued {ledger' : Ledger} {asset : Asset} {now : Nat} {accrual : Accrual}
      (h : ledger.accrue asset now = .ok (accrual, ledger')) : Operates ledger ledger'
  | deposited {ledger' : Ledger} {asset : Asset} {account : Account} {amount now scaled : Nat}
      (h : ledger.deposit asset account amount now = .ok (scaled, ledger')) :
      Operates ledger ledger'
  | withdrawn {V : Type} [Vault V] {ledger' : Ledger} {vault vault' : V} {asset : Asset}
      {owner : Account} {amount now paid : Nat} {movement : Movement}
      (h : ledger.withdraw vault asset owner amount now = .ok (paid, movement, ledger', vault')) :
      Operates ledger ledger'
  | lent {V : Type} [Vault V] {ledger' : Ledger} {vault vault' : V} {asset : Asset}
      {amount now scaled : Nat}
      (h : ledger.lend vault asset amount now = .ok (scaled, ledger', vault')) :
      Operates ledger ledger'
  | repaid {ledger' : Ledger} {asset : Asset} {scaled amount : Nat} {repayment : Repayment}
      (h : ledger.repay asset scaled amount = .ok (repayment, ledger')) : Operates ledger ledger'
  | writtenOff {ledger' : Ledger} {asset : Asset} {scaled loss : Nat}
      (h : ledger.writeOff asset scaled = .ok (loss, ledger')) : Operates ledger ledger'
  | switched {ledger' : Ledger} {asset : Asset} {active frozen borrowing : Bool}
      (h : ledger.setFlags asset active frozen borrowing = .ok ledger') : Operates ledger ledger'
  | factored {ledger' : Ledger} {asset : Asset} {bps now : Nat}
      (h : ledger.setFactor asset bps now = .ok ledger') : Operates ledger ledger'
  | remodelled {ledger' : Ledger} {asset : Asset} {model : RateModel} {now : Nat}
      (h : ledger.setModel asset model now = .ok ledger') : Operates ledger ledger'
  | shared {ledger' : Ledger} {asset : Asset} {bps : Nat}
      (h : ledger.setVaultShare asset bps = .ok ledger') : Operates ledger ledger'
  | pulled {V : Type} [Vault V] {asset : Asset} {reserve reserve' : Reserve} {vault vault' : V}
      {needed : Nat} {movement : Movement} (found : ledger.reserves.get? asset = some reserve)
      (h : reserve.pull vault needed = .ok (movement, reserve', vault')) :
      Operates ledger (ledger.setReserve asset reserve')
  | rebalanced {V : Type} [Vault V] {ledger' : Ledger} {vault vault' : V} {asset : Asset}
      {movement : Movement}
      (h : ledger.rebalance vault asset = .ok (movement, ledger', vault')) :
      Operates ledger ledger'

/-- The rates of every reserve are in step. -/
def InStep (ledger : Ledger) : Prop :=
  ∀ asset reserve, ledger.reserves.get? asset = some reserve → reserve.InStep

variable {ledger ledger' : Ledger}

/-- All rates stay in step when those of the one reserve that is touched do. -/
lemma Touches.inStep {asset : Asset} {before after : Reserve}
    (h : Touches asset before after ledger ledger') (hin : ledger.InStep)
    (hkeeps : before.InStep → after.InStep) : ledger'.InStep :=
  h.forall_reserves hin hkeeps

/-- Every operation leaves all rates in step. -/
theorem Operates.inStep (h : ledger.Operates ledger') (hin : ledger.InStep) : ledger'.InStep := by
  cases h with
  | opened h =>
    obtain ⟨reserve, -, -, hreserve, rfl⟩ := openReserve_eq_ok h
    exact forall_setReserve hin (Reserve.refreshRates_inStep hreserve)
  | accrued h =>
    obtain ⟨_, _, htouch, ha⟩ := accrue_eq_ok h
    exact htouch.inStep hin (Reserve.accrue_inStep ha)
  | deposited h =>
    obtain ⟨_, _, _, _, htouch, -, -, hu⟩ := deposit_eq_ok h
    exact htouch.inStep hin fun _ => Reserve.refreshRates_inStep hu
  | withdrawn h =>
    obtain ⟨_, _, _, _, _, _, htouch, -, -, -, -, -, hu⟩ := withdraw_eq_ok h
    exact htouch.inStep hin fun _ => Reserve.refreshRates_inStep hu
  | lent h =>
    obtain ⟨_, _, _, _, _, _, htouch, -, -, -, -, -, hu⟩ := lend_eq_ok h
    exact htouch.inStep hin fun _ => Reserve.refreshRates_inStep hu
  | repaid h =>
    obtain ⟨_, _, _, htouch, -, -, -, -, -, -, -, hu⟩ := repay_eq_ok h
    exact htouch.inStep hin fun _ => Reserve.refreshRates_inStep hu
  | writtenOff h =>
    obtain ⟨_, _, htouch, -, -, hu⟩ := writeOff_eq_ok h
    exact htouch.inStep hin fun _ => Reserve.refreshRates_inStep hu
  | switched h =>
    obtain ⟨_, htouch⟩ := setFlags_eq_ok h
    -- the curve reads no switch
    exact htouch.inStep hin id
  | factored h =>
    obtain ⟨_, _, _, _, htouch, -, -, hu⟩ := setFactor_eq_ok h
    exact htouch.inStep hin fun _ => Reserve.refreshRates_inStep hu
  | remodelled h =>
    obtain ⟨_, _, _, _, htouch, -, -, hu⟩ := setModel_eq_ok h
    exact htouch.inStep hin fun _ => Reserve.refreshRates_inStep hu
  | shared h =>
    obtain ⟨_, htouch, -⟩ := setVaultShare_eq_ok h
    -- nor the vault share
    exact htouch.inStep hin id
  | pulled found h => exact (touches_setReserve found _).inStep hin (Reserve.pull_inStep h)
  | rebalanced h =>
    obtain ⟨_, _, htouch, hb⟩ := rebalance_eq_ok h
    exact htouch.inStep hin fun _ => Reserve.rebalance_inStep hb

/-- What every operation preserves is preserved by a sequence of them. -/
lemma preserved_of_operations {I : Ledger → Prop}
    (operation : ∀ ledger ledger', ledger.Operates ledger' → I ledger → I ledger')
    (h : Relation.ReflTransGen Operates ledger ledger') (hi : I ledger) : I ledger' := by
  induction h with
  | refl => exact hi
  | tail _ hlast ih => exact operation _ _ hlast ih

/-- Administering the ledger is a sequence of operations. -/
lemma Administered.operations {V : Type} [Vault V] (h : ledger.Administered V ledger') :
    Relation.ReflTransGen Operates ledger ledger' := by
  cases h with
  | same => exact .refl
  | opened h => exact .single (.opened h)
  | switched h => exact .single (.switched h)
  | factored h => exact .single (.factored h)
  | remodelled h => exact .single (.remodelled h)
  | shared h => exact .single (.shared h)
  | rebalanced ha h => exact (Relation.ReflTransGen.single (.accrued ha)).tail (.rebalanced h)

end Ledger

/-! ## Requests and runs -/

/-- A settlement is a sequence of operations on the ledger. -/
lemma Store.settle_operations {store store' : Store} {loan : Loan} {proceeds now : Nat}
    {winner : Option Account} {settlement : Settlement} {transfers : List Transfer}
    (h : store.settle loan proceeds winner now = .ok (settlement, store', transfers)) :
    Relation.ReflTransGen Ledger.Operates store.ledger store'.ledger := by
  obtain ⟨s, -, rfl, -⟩ := settle_eq_ok h
  have hrepaid : Relation.ReflTransGen Ledger.Operates store.ledger s.repaid := by
    rcases s.repays with ⟨-, -, hledger⟩ | ⟨_, -, hp, -⟩
    · rw [hledger]
    · exact .single (.repaid hp)
  refine hrepaid.trans ?_
  rcases s.writesOff with ⟨-, -, hledger⟩ | ⟨-, hw⟩
  · rw [hledger]
  · exact .single (.writtenOff hw)

/-- A user's action is a sequence of operations on the ledger. -/
lemma UserAction.Serves.operations {O V N : Type} [PriceSource O] [Vault V] [Venue N]
    {action : UserAction} {prices : O} {store : Store} {vault : V} {venue : N}
    {facility : Facility V N} {caller : Account} {now : Nat} {transfers : List Transfer}
    (h : action.Serves prices store vault venue caller now facility transfers) :
    Relation.ReflTransGen Ledger.Operates store.ledger facility.store.ledger := by
  cases h with
  | deposit hd => exact .single (.deposited hd)
  | withdraw hw => exact .single (.withdrawn hw)
  | borrow s => exact (Relation.ReflTransGen.single (.accrued s.accrues)).tail (.lent s.lends)
  | repay s => exact (Relation.ReflTransGen.single (.accrued s.accrues)).tail (.repaid s.repays)
  | redeem s => exact (Relation.ReflTransGen.single (.accrued s.accrues)).tail (.repaid s.repays)
  | bid s => exact .single (.accrued s.accrues)
  | liquidate s | sell s =>
    exact .head (.accrued s.accrues) (Store.settle_operations s.settles)
  | buyDebt s | claimDebt s =>
    show Relation.ReflTransGen Ledger.Operates store.ledger s.store'.ledger
    rw [Store.passDebt_ledger s.passes]
  | setMandate | list | bidDebt | cancelListing => exact .refl

namespace Store

/-- Every step of a store is a sequence of operations on its ledger. -/
theorem Step.operations {store store' : Store} (h : Step store store') :
    Relation.ReflTransGen Ledger.Operates store.ledger store'.ledger := by
  cases h with
  | user hrun => exact (UserAction.run_serves hrun).operations
  | operator hrun => exact (OperatorAction.run_eq_ok hrun).2.2.2.2.operations
  | accrual ha =>
    obtain ⟨_, _, hledger, rfl⟩ := accrue_eq_ok ha
    exact .single (.accrued hledger)

/-- One store leads to another by a step, or by an operation on its ledger that no request asks
for. -/
inductive Operates (store : Store) : Store → Prop where
  | request {store' : Store} (h : Step store store') : Operates store store'
  | direct {ledger : Ledger} (h : store.ledger.Operates ledger) :
      Operates store { store with ledger }

/-- Whatever leads from one store to another is a sequence of operations on the ledger. -/
lemma Operates.operations {store store' : Store} (h : Operates store store') :
    Relation.ReflTransGen Ledger.Operates store.ledger store'.ledger := by
  cases h with
  | request h => exact h.operations
  | direct h => exact .single h

/-- A run of requests leads from an empty store. -/
lemma Trail.operates {store : Store} {past : List Store} (h : Trail (store :: past)) :
    ∃ settings start, Store.create settings = .ok start ∧
      Relation.ReflTransGen Operates start store := by
  generalize htrail : store :: past = trail at h
  induction h generalizing store past with
  | created h =>
    cases htrail
    exact ⟨_, _, h, .refl⟩
  | stepped h hs ih =>
    cases htrail
    obtain ⟨settings, start, hc, hrun⟩ := ih rfl
    exact ⟨settings, start, hc, hrun.tail (.request hs)⟩

/-- What holds of an empty ledger and is preserved by every operation holds of the ledger of every
store that requests and operations have led to. -/
lemma ledger_invariant {I : Ledger → Prop} (empty : ∀ treasury, I { treasury })
    (operation : ∀ ledger ledger', ledger.Operates ledger' → I ledger → I ledger')
    {settings : Settings} {start store : Store} (hc : Store.create settings = .ok start)
    (h : Relation.ReflTransGen Operates start store) : I store.ledger := by
  induction h with
  | refl =>
    obtain rfl := create_eq_ok hc
    exact empty settings.treasury
  | tail _ hlast ih => exact Ledger.preserved_of_operations operation hlast.operations ih

/-- Whatever successful requests and operations have led to a store from an empty one, with any
vaults, prices and venues, the rates of each reserve are those that its curve gives for its present
liquidity, debt and treasury share. -/
theorem rates_in_step {settings : Settings} {start store : Store}
    (hc : Store.create settings = .ok start) (h : Relation.ReflTransGen Operates start store)
    {asset : Asset} {reserve : Reserve} (hr : store.ledger.reserves.get? asset = some reserve) :
    ∃ liquidity debt, reserve.liquidity = .ok liquidity ∧ reserve.debt = .ok debt ∧
      reserve.model.rates liquidity debt reserve.factor =
        .ok ⟨reserve.supplyRate, reserve.borrowRate⟩ := by
  have hin : store.ledger.InStep :=
    ledger_invariant Ledger.forall_no_reserves (fun _ _ => Ledger.Operates.inStep) hc h
  exact hin asset reserve hr

end Store

namespace SmallMarket

/-- Half of the liquidity is placed in a vault, of which 150 are then asked back; the vault gives 30
and has lost 70. -/
def calling (ledger : Ledger) : Result Ledger := do
  let vault : ScriptedVault :=
    { answers := [.give ⟨30, 70⟩], reported := ⟨0, 0⟩, depositFails := false }
  let ledger ← ledger.setVaultShare coin 5000
  let (_, ledger, vault) ← ledger.rebalance vault coin
  let (_, reserve, _) ← (← ledger.reserve coin).pull vault 500
  return ledger.setReserve coin reserve

/-- After the vault has lost 70 of the 700 that were left, the rates are those of 630 and of the
300 that are owed. -/
theorem calling_in_step :
    ∃ ledger reserve, calling lent.state.store.ledger = .ok ledger ∧
      ledger.reserves.get? coin = some reserve ∧
      reserve.liquidity = .ok 630 ∧ reserve.debt = .ok 300 ∧
      reserve.model.rates 630 300 reserve.factor =
        .ok ⟨reserve.supplyRate, reserve.borrowRate⟩ := by
  have hbalances : (do
      let ledger ← calling lent.state.store.ledger
      let reserve ← ledger.reserve coin
      return (← reserve.liquidity, ← reserve.debt)) = .ok (630, 300) := by
    decide +kernel
  simp only [Ledger.reserve, bind_eq_ok, orRefuse_eq_ok, pure_eq_ok, Prod.mk.injEq] at hbalances
  obtain ⟨ledger, hcalling, reserve, hr, _, hliquidity, _, hdebt, rfl, rfl⟩ := hbalances
  have hcalled := hcalling
  simp only [calling, Ledger.reserve, bind_eq_ok, orRefuse_eq_ok, pure_eq_ok,
    Prod.exists] at hcalled
  obtain ⟨shared, hs, _, placed, vault, hb, before, hbefore, _, after, _, hp, rfl⟩ := hcalled
  obtain ⟨past, -, htrail⟩ := founded_trail (setUp ++ lending)
  obtain ⟨settings, start, hc, hrun⟩ := htrail.operates
  have hoperates := ((hrun.tail (.direct (.shared hs))).tail (.direct (.rebalanced hb))).tail
    (.direct (.pulled hbefore hp))
  obtain ⟨liquidity, debt, hl, hd, hrates⟩ := Store.rates_in_step hc hoperates hr
  obtain rfl := Except.ok.inj (hliquidity.symm.trans hl)
  obtain rfl := Except.ok.inj (hdebt.symm.trans hd)
  exact ⟨_, reserve, hcalling, hr, hliquidity, hdebt, hrates⟩

end SmallMarket

end PooledCredit
