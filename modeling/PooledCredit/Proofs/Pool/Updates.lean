import PooledCredit.Proofs.Pool.Log

/-!
# The log tells the present data of every reserve

Whoever follows the log keeps the last update of each asset. That update is never out of date:
an action that touches the rates or indices of a reserve ends with an update of it at the time of
the action, which is then the time on the reserve's clock, and every other action leaves both
the reserve's data and its last update as they are.
-/

namespace PooledCredit

/-- Whether an event tells the rates and indices of the reserve of an asset. -/
def Event.updates (asset : Asset) : Event → Bool
  | .reserveUpdated asset' .. => asset' == asset
  | _ => false

/-- A silent event is no update. -/
lemma Event.IsSilent.updates_eq_false {event : Event} (h : event.IsSilent) (asset : Asset) :
    event.updates asset = false := by
  cases event with
  | reserveUpdated => exact h.elim
  | _ => rfl

/-- The event that tells the rates and indices of a reserve at the reading of its clock. -/
def Reserve.told (asset : Asset) (reserve : Reserve) : Event :=
  .reserveUpdated asset reserve.supplyRate reserve.borrowRate reserve.supplyIndex
    reserve.debtIndex reserve.updatedAt

/-- What there is to tell of the reserve of an asset; nothing without a reserve. -/
def Ledger.told (ledger : Ledger) (asset : Asset) : Option Event :=
  (ledger.reserves.get? asset).map (Reserve.told asset)

/-! ## The last update in a log -/

namespace EventLog

/-- The last event of a log that tells the rates and indices of the reserve of an asset. -/
def lastUpdate (log : EventLog) (asset : Asset) : Option Event :=
  (log.filter (Event.updates asset)).getLast?

/-- The last update is looked for from the end. -/
lemma lastUpdate_append (log events : EventLog) (asset : Asset) :
    lastUpdate (log ++ events) asset = (lastUpdate events asset).or (lastUpdate log asset) := by
  unfold lastUpdate
  rw [List.filter_append, List.getLast?_append]

/-- Events of which none is an update contain no last one. -/
lemma lastUpdate_eq_none {events : EventLog} {asset : Asset}
    (h : ∀ event ∈ events, event.updates asset = false) : lastUpdate events asset = none := by
  unfold lastUpdate
  have hnone : events.filter (Event.updates asset) = [] :=
    List.filter_eq_nil_iff.mpr fun event hmem => by simp [h event hmem]
  rw [hnone]
  rfl

/-- Silent events contain no update. -/
lemma lastUpdate_of_silent {events : EventLog} (h : ∀ event ∈ events, event.IsSilent)
    (asset : Asset) : lastUpdate events asset = none :=
  lastUpdate_eq_none fun event hmem => (h event hmem).updates_eq_false asset

/-- The event of a movement is no update. -/
lemma lastUpdate_movement (movement : Movement) (moved : Asset) (now : Nat) (asset : Asset) :
    lastUpdate (movement.events moved now) asset = none := by
  refine lastUpdate_eq_none fun event hmem => ?_
  unfold Movement.events at hmem
  split at hmem
  · cases hmem
  · obtain rfl := List.mem_singleton.mp hmem
    rfl

/-- An update at the end is the last one of its asset. -/
lemma lastUpdate_concat_self {events : EventLog} {update : Event} {asset : Asset}
    (h : update.updates asset = true) : lastUpdate (events ++ [update]) asset = some update := by
  have hlast : lastUpdate [update] asset = some update := by
    unfold lastUpdate
    rw [List.filter_cons_of_pos h]
    rfl
  rw [lastUpdate_append, hlast, Option.some_or]

/-- An update of one asset is none of another. -/
lemma lastUpdate_concat_ne {events : EventLog} {update : Event} {asset : Asset}
    (h : update.updates asset = false) :
    lastUpdate (events ++ [update]) asset = lastUpdate events asset := by
  rw [lastUpdate_append, lastUpdate_eq_none (List.forall_mem_singleton.mpr h), Option.none_or]

end EventLog

/-! ## One action -/

namespace Ledger

/-- After a change of the ledger, what there is to tell of a reserve is the last update among the
events of the change; where there is none, it is what there was to tell before. -/
def Tells (ledger ledger' : Ledger) (events : EventLog) : Prop :=
  ∀ asset, ledger'.told asset = (events.lastUpdate asset).or (ledger.told asset)

variable {ledger : Ledger} {store : Store} {asset : Asset} {now : Nat} {events : EventLog}

/-- An update tells the rates and indices of the reserve as it stands. -/
lemma reserveUpdate_eq_ok {update : Event} (h : store.reserveUpdate asset now = .ok update) :
    ∃ reserve, store.ledger.reserves.get? asset = some reserve ∧
      update = .reserveUpdated asset reserve.supplyRate reserve.borrowRate reserve.supplyIndex
        reserve.debtIndex now := by
  simp only [Store.reserveUpdate, Ledger.reserve, bind_eq_ok, orRefuse_eq_ok, pure_eq_ok] at h
  obtain ⟨reserve, hr, rfl⟩ := h
  exact ⟨reserve, hr, rfl⟩

/-- Events that end with an update of the one reserve that changed, at the reading of its clock,
tell of the change. -/
lemma tells_of_update {after : Reserve} {update : Event}
    (hnew : store.ledger.reserves.get? asset = some after) (hclock : after.updatedAt = now)
    (hothers : ∀ other, other ≠ asset →
      store.ledger.reserves.get? other = ledger.reserves.get? other)
    (hnone : ∀ other, events.lastUpdate other = none)
    (hu : store.reserveUpdate asset now = .ok update) :
    ledger.Tells store.ledger (events ++ [update]) := by
  obtain ⟨found, hfound, rfl⟩ := reserveUpdate_eq_ok hu
  obtain rfl := Option.some.inj (hnew.symm.trans hfound)
  intro other
  by_cases hother : other = asset
  · subst hother hclock
    have hself : Event.updates other (after.told other) = true := beq_self_eq_true other
    change _ = (EventLog.lastUpdate (events ++ [after.told other]) other).or _
    rw [EventLog.lastUpdate_concat_self hself, told, hnew]
    rfl
  · have hne : Event.updates other (.reserveUpdated asset after.supplyRate after.borrowRate
        after.supplyIndex after.debtIndex now) = false := beq_false_of_ne (Ne.symm hother)
    rw [EventLog.lastUpdate_concat_ne hne, hnone other, Option.none_or, told, told,
      hothers other hother]

/-- Events without an update tell of a change after which there is nothing else to tell. -/
lemma tells_of_same {ledger' : Ledger} (hsame : ∀ other, ledger'.told other = ledger.told other)
    (hsilent : ∀ event ∈ events, event.IsSilent) : ledger.Tells ledger' events := by
  intro other
  rw [EventLog.lastUpdate_of_silent hsilent, Option.none_or]
  exact hsame other

/-- Other reserves keep what there is to tell of them, and so does the touched one when its rates,
indices and clock stay. -/
lemma Touches.told_eq {ledger' : Ledger} {before after : Reserve}
    (h : Touches asset before after ledger ledger') (hsame : after.told asset = before.told asset)
    (other : Asset) : ledger'.told other = ledger.told other := by
  by_cases hother : other = asset
  · rw [hother, told, told, h.new, h.old]
    exact congrArg some hsame
  · rw [told, told, h.others other hother]

end Ledger

variable {O V N : Type} [PriceSource O] [Vault V] [Venue N]

/-- What an action reports tells of its change of the ledger. -/
theorem Action.Reports.tells {store store' : Store} {vault : V} {now : Nat} {action : Action}
    {events : EventLog} (h : action.Reports store vault now store' events) :
    store.ledger.Tells store'.ledger events := by
  cases h with
  | @moved asset movement _ others _ update _ moves _ silent updates told =>
    subst told
    obtain ⟨before, after, htouch, hmoves⟩ := moves
    refine Ledger.tells_of_update htouch.new hmoves.clock htouch.others (fun other => ?_) updates
    rw [EventLog.lastUpdate_append, EventLog.lastUpdate_of_silent silent,
      EventLog.lastUpdate_movement]
    rfl
  | @borrowed _ _ _ event update _ moves _ silent updates =>
    obtain ⟨before, after, htouch, hmoves⟩ := moves
    have hnone := EventLog.lastUpdate_of_silent (List.forall_mem_singleton.mpr silent)
    exact Ledger.tells_of_update htouch.new hmoves.clock htouch.others hnone updates
  | @opened asset terms _ event update opens silent updates =>
    obtain ⟨reserve, -, -, hreserve, hledger⟩ := Ledger.openReserve_eq_ok opens
    have hclock : reserve.updatedAt = now := by
      obtain ⟨_, _, _, -, -, -, rfl⟩ := Reserve.refreshRates_eq_ok hreserve
      rfl
    have hnew : store'.ledger.reserves.get? asset = some reserve := by
      rw [hledger]
      exact SortedMap.get?_insert_self _ _ _
    have hothers : ∀ other, other ≠ asset →
        store'.ledger.reserves.get? other = store.ledger.reserves.get? other := by
      intro other hne
      rw [hledger]
      exact SortedMap.get?_insert_of_ne _ hne _
    have hnone := EventLog.lastUpdate_of_silent (List.forall_mem_singleton.mpr silent)
    exact Ledger.tells_of_update hnew hclock hothers hnone updates
  | configured touches silent => exact Ledger.tells_of_same (touches.told_eq rfl) silent
  | elsewhere ledger silent =>
    refine Ledger.tells_of_same (fun other => ?_) silent
    rw [ledger]

/-! ## Runs -/

namespace Pool

variable {pool : Pool O V N}

/-- What the log tells of the reserves is still so after a move. -/
theorem lastUpdate_after
    (h : ∀ asset, pool.log.lastUpdate asset = pool.state.store.ledger.told asset)
    (move : Move O V N) (asset : Asset) :
    (pool.after move).log.lastUpdate asset =
      (pool.after move).state.store.ledger.told asset := by
  rcases pool.after_reports move with ⟨hledger, hlog⟩ | ⟨call, events, -, hlog, hreports⟩
  · rw [hlog, hledger]
    exact h asset
  · rw [hlog, EventLog.lastUpdate_append, hreports.tells asset, h asset]

/-- Whatever actions a pool has answered, the last update of an asset in its log tells the rates and
the indices that the reserve of the asset has now, and its time is the reading of the reserve's
clock. An asset without a reserve has no update in the log. -/
theorem Reachable.last_update_is_current {rule : Pool O V N → Move O V N → Prop}
    (h : pool.Reachable rule) (asset : Asset) :
    pool.log.lastUpdate asset =
      (pool.state.store.ledger.reserves.get? asset).map fun reserve =>
        .reserveUpdated asset reserve.supplyRate reserve.borrowRate reserve.supplyIndex
          reserve.debtIndex reserve.updatedAt := by
  induction h generalizing asset with
  | created h =>
    obtain ⟨hlog, hreserves⟩ := create_log h
    rw [hlog, hreserves]
    rfl
  | moved _ _ ih => exact lastUpdate_after ih _ asset

end Pool

namespace SmallMarket

/-- After the default and ten years of interest the last update of the coin in the log tells its
present data, at the end of those years. -/
theorem defaulting_update :
    ∃ reserve, (founded.follow (setUp ++ lending ++ defaulting)).state.store.ledger.reserves.get?
        coin = some reserve ∧
      reserve.updatedAt = 10 * year ∧ reserve.debtIndex ≠ ray ∧
      (founded.follow (setUp ++ lending ++ defaulting)).log.lastUpdate coin =
        some (.reserveUpdated coin reserve.supplyRate reserve.borrowRate reserve.supplyIndex
          reserve.debtIndex (10 * year)) := by
  have hpresent : ∃ reserve ∈
      (founded.follow (setUp ++ lending ++ defaulting)).state.store.ledger.reserves.get? coin,
        reserve.updatedAt = 10 * year ∧ reserve.debtIndex ≠ ray := by
    decide +kernel
  obtain ⟨reserve, hr, hclock, hindex⟩ := hpresent
  have hupdate := Pool.Reachable.last_update_is_current
    (founded_reachable (setUp ++ lending ++ defaulting)) coin
  rw [Option.mem_def.mp hr, Option.map_some, hclock] at hupdate
  exact ⟨reserve, hr, hclock, hindex, hupdate⟩

end SmallMarket

end PooledCredit
