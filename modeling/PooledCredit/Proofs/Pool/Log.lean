import PooledCredit.Proofs.Reserves.Placement
import PooledCredit.Proofs.Reserves.Solvency

/-!
# What an action writes to the log about the reserves

Most events are silent about the state of a reserve: only updates tell its rates and indices, and
only vault movements tell its placement. An action that touches a reserve reports it in one of few
ways, which `Action.Reports` lists, whatever else it does. The log of a pool grows by the events
of such reports and by nothing else.
-/

namespace PooledCredit

open Store

/-- An event that tells neither the rates and indices of a reserve nor a movement to or from the
vault. -/
def Event.IsSilent : Event → Prop
  | .reserveUpdated .. => False
  | .vaultMoved .. => False
  | _ => True

namespace Action

/-- The asset that an action borrows, if it is a borrow. -/
def borrows : Action → Option Asset
  | .user (.borrow asset ..) => some asset
  | _ => none

/-- What the ledger of a store and the events after an action say of the reserves. -/
inductive Reports {V : Type} [Vault V] (action : Action) (store : Store) (vault : V) (now : Nat) :
    Store → EventLog → Prop where
  /-- A reserve was accrued and its placement changed; the events tell the movement, if there was
  one, and at the end the rates and indices. -/
  | moved {asset : Asset} {movement : Movement} {store' : Store}
      {others events : EventLog} {update : Event} (tells : action.borrows = none)
      (moves : store.ledger.Moves asset now movement store'.ledger)
      (covered : Vault.Bounded vault →
        movement.divested + movement.loss ≤ store.ledger.investedOf asset + movement.invested)
      (silent : ∀ event ∈ others, event.IsSilent)
      (updates : store'.reserveUpdate asset now = .ok update)
      (told : events = movement.events asset now ++ others ++ [update]) :
      Reports action store vault now store' events
  /-- A borrow may pull liquidity from the vault too, but its events do not tell it. -/
  | borrowed {asset : Asset} {movement : Movement} {store' : Store}
      {event update : Event} (hides : action.borrows = some asset)
      (moves : store.ledger.Moves asset now movement store'.ledger)
      (pulls : movement.invested = 0) (silent : event.IsSilent)
      (updates : store'.reserveUpdate asset now = .ok update) :
      Reports action store vault now store' [event, update]
  /-- A reserve was opened. -/
  | opened {asset : Asset} {terms : ReserveTerms} {store' : Store}
      {event update : Event}
      (opens : store.ledger.openReserve asset terms now = .ok store'.ledger)
      (silent : event.IsSilent) (updates : store'.reserveUpdate asset now = .ok update) :
      Reports action store vault now store' [event, update]
  /-- Only the switches or the vault share of a reserve changed. -/
  | configured {asset : Asset} {before : Reserve} {store' : Store}
      {events : EventLog} {active frozen borrowing : Bool} {vaultShare : Nat}
      (touches : Ledger.Touches asset before
        { before with active, frozen, borrowing, vaultShare } store.ledger store'.ledger)
      (silent : ∀ event ∈ events, event.IsSilent) : Reports action store vault now store' events
  /-- The ledger is as it was. -/
  | elsewhere {store' : Store} {events : EventLog}
      (ledger : store'.ledger = store.ledger) (silent : ∀ event ∈ events, event.IsSilent) :
      Reports action store vault now store' events

/-- An action that accrues a reserve and moves nothing tells its rates and indices. -/
lemma Reports.of_still {V : Type} [Vault V] {vault : V} {store store' : Store} {action : Action}
    {asset : Asset} {now : Nat} {event update : Event} (tells : action.borrows = none)
    (moves : store.ledger.Moves asset now {} store'.ledger) (silent : event.IsSilent)
    (updates : store'.reserveUpdate asset now = .ok update) :
    action.Reports store vault now store' [event, update] :=
  .moved tells moves (fun _ => Nat.zero_le _) (List.forall_mem_singleton.mpr silent) updates rfl

end Action

/-! ## Users -/

/-- A settlement moves nothing. -/
lemma Ledger.Moves.settle {ledger : Ledger} {store store' : Store} {loan : Loan}
    {movement : Movement} {proceeds now : Nat} {winner : Option Account} {settlement : Settlement}
    {transfers : List Transfer} (h : ledger.Moves loan.asset now movement store.ledger)
    (hs : store.settle loan proceeds winner now = .ok (settlement, store', transfers)) :
    ledger.Moves loan.asset now movement store'.ledger := by
  obtain ⟨s, -, rfl, -⟩ := settle_eq_ok hs
  have hrepaid : ledger.Moves loan.asset now movement s.repaid := by
    rcases s.repays with ⟨-, -, hledger⟩ | ⟨_, -, hp, -⟩
    · rw [hledger]
      exact h
    · exact h.repay hp
  show ledger.Moves loan.asset now movement s.settled
  rcases s.writesOff with ⟨-, -, hledger⟩ | ⟨-, hw⟩
  · rw [hledger]
    exact hrepaid
  · exact hrepaid.writeOff hw

variable {O V N : Type} [PriceSource O] [Vault V] [Venue N]

/-- A user's action that succeeds reports what it does to the reserves. -/
theorem UserAction.run_reports {action : UserAction} {prices : O} {store : Store} {vault : V}
    {venue : N} {facility : Facility V N} {caller : Account} {now : Nat} {reply : Reply}
    {effects : Effects}
    (h : action.run prices ⟨store, vault, venue⟩ caller now = .ok (reply, facility, effects)) :
    (Action.user action).Reports store vault now facility.store effects.events := by
  cases action <;>
    simp only [run, conclude, bind_eq_ok, pure_eq_ok, Prod.exists, Prod.mk.injEq] at h
  case deposit =>
    obtain ⟨outcome, ho, -, rfl, rfl⟩ := h
    obtain ⟨_, _, _, hd, hu, rfl⟩ := Store.deposit_eq_ok ho
    exact .of_still rfl (Ledger.deposit_moves hd) trivial hu
  case withdraw asset amount recipient =>
    obtain ⟨outcome, _, ho, -, rfl, rfl⟩ := h
    obtain ⟨paid, _, _, _, hw, hu, rfl⟩ := Store.withdraw_eq_ok ho
    have hsilent : (Event.withdrawn asset caller recipient paid now).IsSilent := trivial
    refine .moved rfl (Ledger.withdraw_moves hw) (fun bounded => ?_)
      (List.forall_mem_singleton.mpr hsilent) hu (by rw [List.append_assoc, List.singleton_append])
    obtain ⟨hplaced, hcovered⟩ := Ledger.withdraw_covered bounded hw
    omega
  case borrow =>
    obtain ⟨outcome, _, ho, -, rfl, rfl⟩ := h
    obtain ⟨s, rfl⟩ := Store.borrow_eq_ok ho
    obtain ⟨movement, hpulls, hlent⟩ := Ledger.lend_moves s.lends
    have hmoves := (Ledger.accrue_moves s.accrues).trans hlent
    exact .borrowed rfl hmoves hpulls trivial s.updates
  case repay =>
    obtain ⟨outcome, ho, -, rfl, rfl⟩ := h
    obtain ⟨s, rfl⟩ := Store.repay_eq_ok ho
    exact .of_still rfl ((Ledger.accrue_moves s.accrues).repay s.repays) trivial s.updates
  case setMandate =>
    obtain ⟨outcome, ho, -, rfl, rfl⟩ := h
    obtain ⟨-, rfl⟩ := Store.setMandate_eq_ok ho
    exact .elsewhere rfl (List.forall_mem_singleton.mpr trivial)
  case bid =>
    obtain ⟨outcome, ho, -, rfl, rfl⟩ := h
    obtain ⟨s, hu, rfl⟩ := Store.bid_eq_ok ho
    exact .of_still rfl (Ledger.accrue_moves s.accrues) trivial hu
  case redeem =>
    obtain ⟨outcome, ho, -, rfl, rfl⟩ := h
    obtain ⟨s, rfl⟩ := Store.redeem_eq_ok ho
    exact .of_still rfl ((Ledger.accrue_moves s.accrues).repay s.repays) trivial s.updates
  case liquidate =>
    obtain ⟨outcome, ho, -, rfl, rfl⟩ := h
    obtain ⟨s, rfl⟩ := Store.liquidate_eq_ok ho
    exact .of_still rfl ((Ledger.accrue_moves s.accrues).settle s.settles) trivial s.updates
  case sell =>
    obtain ⟨outcome, _, ho, -, rfl, rfl⟩ := h
    obtain ⟨s, rfl⟩ := Store.sell_eq_ok ho
    exact .of_still rfl ((Ledger.accrue_moves s.accrues).settle s.settles) trivial s.updates
  case list =>
    obtain ⟨outcome, ho, -, rfl, rfl⟩ := h
    obtain ⟨_, rfl⟩ := Store.list_eq_ok ho
    exact .elsewhere rfl (List.forall_mem_singleton.mpr trivial)
  case buyDebt =>
    obtain ⟨outcome, ho, -, rfl, rfl⟩ := h
    obtain ⟨s, rfl⟩ := Store.buyDebt_eq_ok ho
    exact .elsewhere (passDebt_ledger s.passes) (List.forall_mem_singleton.mpr trivial)
  case bidDebt =>
    obtain ⟨outcome, ho, -, rfl, rfl⟩ := h
    obtain ⟨_, rfl⟩ := Store.bidDebt_eq_ok ho
    exact .elsewhere rfl (List.forall_mem_singleton.mpr trivial)
  case claimDebt =>
    obtain ⟨outcome, ho, -, rfl, rfl⟩ := h
    obtain ⟨s, rfl⟩ := Store.claimDebt_eq_ok ho
    exact .elsewhere (passDebt_ledger s.passes) (List.forall_mem_singleton.mpr trivial)
  case cancelListing =>
    obtain ⟨outcome, ho, -, rfl, rfl⟩ := h
    obtain ⟨_, rfl⟩ := Store.cancelListing_eq_ok ho
    exact .elsewhere rfl (List.forall_mem_singleton.mpr trivial)

/-! ## Operators -/

/-- The event that tells the switches of a collection is silent about the reserves. -/
lemma PoolState.collateralSwitched_isSilent {state : PoolState} {collection : Collection}
    {now : Nat} {event : Event} (h : state.collateralSwitched collection now = .ok event) :
    event.IsSilent := by
  simp only [collateralSwitched, bind_eq_ok, pure_eq_ok] at h
  obtain ⟨_, -, rfl⟩ := h
  trivial

/-- The event that tells the switches of a reserve tells neither its rates nor a movement. -/
lemma PoolState.reserveConfigured_isSilent {state : PoolState} {asset : Asset} {now : Nat}
    {event : Event} (h : state.reserveConfigured asset now = .ok event) : event.IsSilent := by
  simp only [reserveConfigured, bind_eq_ok, pure_eq_ok] at h
  obtain ⟨_, -, rfl⟩ := h
  trivial

/-- An operator's action that succeeds reports what it does to the reserves. -/
theorem OperatorAction.run_reports {action : OperatorAction} {state state' : PoolState}
    {vault vault' : V} {caller : Account} {now : Nat} {reply : Reply} {events : EventLog}
    (h : action.run state vault caller now = .ok (reply, state', vault', events)) :
    (Action.operator action).Reports state.store vault now state'.store events := by
  cases action <;>
    simp only [run, PoolState.setCollateral, PoolState.setLedger, bind_eq_ok, pure_eq_ok,
      Prod.exists, Prod.mk.injEq] at h
  case setPause paused =>
    obtain ⟨_, -, h⟩ := h
    rw [ite_bind] at h
    simp only [bind_eq_ok, pure_eq_ok, Prod.mk.injEq] at h
    obtain ⟨_, -, -, rfl, -, rfl⟩ := h
    exact .elsewhere rfl (List.forall_mem_singleton.mpr (by cases paused <;> trivial))
  case grantRole =>
    obtain ⟨_, -, _, -, -, rfl, -, rfl⟩ := h
    exact .elsewhere rfl (List.forall_mem_singleton.mpr trivial)
  case revokeRole =>
    obtain ⟨_, -, _, -, -, rfl, -, rfl⟩ := h
    exact .elsewhere rfl (List.forall_mem_singleton.mpr trivial)
  case configureCollateral =>
    obtain ⟨_, -, _, -, -, rfl, -, rfl⟩ := h
    exact .elsewhere rfl (List.forall_mem_singleton.mpr trivial)
  case setCollateralActive =>
    obtain ⟨_, -, _, -, _, he, -, rfl, -, rfl⟩ := h
    have hsilent := PoolState.collateralSwitched_isSilent he
    exact .elsewhere rfl (List.forall_mem_singleton.mpr hsilent)
  case setCollateralFrozen =>
    obtain ⟨_, -, _, -, _, he, -, rfl, -, rfl⟩ := h
    have hsilent := PoolState.collateralSwitched_isSilent he
    exact .elsewhere rfl (List.forall_mem_singleton.mpr hsilent)
  case registerWrapper =>
    obtain ⟨_, -, _, -, -, rfl, -, rfl⟩ := h
    exact .elsewhere rfl (List.forall_mem_nil _)
  case openReserve =>
    obtain ⟨_, -, _, ho, _, hu, -, rfl, -, rfl⟩ := h
    exact .opened ho trivial hu
  case setReserveFlags =>
    obtain ⟨_, -, _, ho, _, he, -, rfl, -, rfl⟩ := h
    obtain ⟨_, htouch⟩ := Ledger.setFlags_eq_ok ho
    have hsilent := PoolState.reserveConfigured_isSilent he
    exact .configured htouch (List.forall_mem_singleton.mpr hsilent)
  case setReserveFactor =>
    obtain ⟨_, -, _, ho, _, he, _, hu, -, rfl, -, rfl⟩ := h
    exact .of_still rfl (Ledger.setFactor_moves ho) (PoolState.reserveConfigured_isSilent he) hu
  case setRateModel =>
    obtain ⟨_, -, _, ho, _, hu, -, rfl, -, rfl⟩ := h
    have hmoves := Ledger.setModel_moves ho
    exact .moved rfl hmoves (fun _ => Nat.zero_le _) (List.forall_mem_nil _) hu rfl
  case setVaultShare =>
    obtain ⟨_, -, _, ho, -, rfl, -, rfl⟩ := h
    obtain ⟨_, htouch, -⟩ := Ledger.setVaultShare_eq_ok ho
    exact .configured htouch (List.forall_mem_nil _)
  case rebalance =>
    obtain ⟨_, -, _, _, ha, movement, _, _, ho, _, hu, -, rfl, -, rfl⟩ := h
    have haccrued := Ledger.accrue_moves ha
    refine .moved rfl (haccrued.rebalance ho) (fun bounded => ?_) (List.forall_mem_nil _) hu
      (by rw [List.append_nil])
    have hcovered := Ledger.rebalance_covered bounded ho
    rw [haccrued.investedOf_of_none] at hcovered
    exact hcovered

/-! ## The log of a pool -/

namespace Pool

omit [PriceSource O] [Vault V] in
/-- The log of a new pool is empty, and so is its ledger. -/
lemma create_log {prices : O} {vault : V} {venue : N} {founder : Account} {settings : Settings}
    {now : Nat} {pool : Pool O V N}
    (h : create prices vault venue founder settings now = .ok pool) :
    pool.log = [] ∧ pool.state.store.ledger.reserves = ∅ := by
  simp only [create, bind_eq_ok, require_eq_ok, exists_const, pure_eq_ok] at h
  obtain ⟨-, store, hs, rfl⟩ := h
  exact ⟨rfl, by rw [Store.create_eq_ok hs]⟩

/-- A call adds the events of its action to the log, which report what it did to the reserves, or
it leaves the ledger and the log alone. -/
lemma execute_reports (pool : Pool O V N) (call : Call) :
    ((pool.execute call).2.state.store.ledger = pool.state.store.ledger ∧
      (pool.execute call).2.log = pool.log) ∨
    ∃ events, (pool.execute call).2.log = pool.log ++ events ∧
      call.action.Reports pool.state.store pool.vault call.now
        (pool.execute call).2.state.store events := by
  unfold execute
  split
  · next commit h =>
    refine .inr ⟨commit.effects.events, rfl, ?_⟩
    cases haction : call.action with
    | user action =>
      obtain ⟨facility, _, hrun, -, hstate, -, -⟩ := attempt_user haction h
      have hreports := UserAction.run_reports hrun
      rw [hstate]
      exact hreports
    | operator action =>
      obtain ⟨hrun, -, -⟩ := attempt_operator haction h
      exact OperatorAction.run_reports hrun
  · exact .inl ⟨rfl, rfl⟩
  · exact .inl ⟨rfl, rfl⟩

/-- Only calls write to the log or touch the ledger. -/
theorem after_reports (pool : Pool O V N) (move : Move O V N) :
    ((pool.after move).state.store.ledger = pool.state.store.ledger ∧
      (pool.after move).log = pool.log) ∨
    ∃ call events, move = .call call ∧ (pool.after move).log = pool.log ++ events ∧
      call.action.Reports pool.state.store pool.vault call.now (pool.after move).state.store
        events := by
  cases move with
  | call call =>
    rcases pool.execute_reports call with h | ⟨events, hlog, hreports⟩
    · exact .inl h
    · exact .inr ⟨call, events, rfl, hlog, hreports⟩
  | fund asset account amount =>
    left
    simp only [after]
    cases hf : pool.fund asset account amount with
    | ok funded =>
      simp only [fund, bind_eq_ok, pure_eq_ok] at hf
      obtain ⟨_, -, rfl⟩ := hf
      exact ⟨rfl, rfl⟩
    | error e => exact ⟨rfl, rfl⟩
  | mint item owner => exact .inl ⟨rfl, rfl⟩
  | turn prices vault venue => exact .inl ⟨rfl, rfl⟩

end Pool

end PooledCredit
