import Mathlib.Algebra.BigOperators.Group.List.Basic
import PooledCredit.Proofs.Pool.Updates

/-!
# What the log tells of the placements

Adding up the vault movements of an asset in the log gives what its reserve has placed in the
vault, but for one thing: a borrow that pulls liquidity from the vault leaves no event of it, where
a withdrawal that does the same leaves one. So the log runs ahead of the ledger by exactly what
borrows have drawn, and the two agree as long as no borrow has drawn anything.
-/

namespace PooledCredit

/-- What an event adds to the placement of an asset. -/
def Event.placed (asset : Asset) : Event → Int
  | .vaultMoved moved invested divested loss _ =>
    if moved = asset then invested - divested - loss else 0
  | _ => 0

/-- A silent event tells no movement. -/
lemma Event.IsSilent.placed_eq_zero {event : Event} (h : event.IsSilent) (asset : Asset) :
    event.placed asset = 0 := by
  cases event with
  | vaultMoved => exact h.elim
  | _ => rfl

/-! ## The movements in a log -/

namespace EventLog

/-- The placement of an asset by the movements that a log tells. -/
def placed (log : EventLog) (asset : Asset) : Int := (log.map (Event.placed asset)).sum

/-- What is told first and what is told after it. -/
@[simp]
lemma placed_append (log events : EventLog) (asset : Asset) :
    placed (log ++ events) asset = placed log asset + placed events asset := by
  unfold placed
  rw [List.map_append, List.sum_append]

/-- A single event. -/
lemma placed_singleton (event : Event) (asset : Asset) :
    placed [event] asset = event.placed asset := by
  unfold placed
  rw [List.map_singleton, List.sum_singleton]

/-- Silent events tell no movement. -/
lemma placed_of_silent {events : EventLog} (h : ∀ event ∈ events, event.IsSilent)
    (asset : Asset) : placed events asset = 0 := by
  unfold placed
  refine List.sum_eq_zero fun amount hmem => ?_
  obtain ⟨event, hevent, rfl⟩ := List.mem_map.mp hmem
  exact (h event hevent).placed_eq_zero asset

/-- An update tells no movement. -/
lemma placed_of_update {store : Store} {update : Event} {asset : Asset} {now : Nat}
    (h : store.reserveUpdate asset now = .ok update) (other : Asset) :
    placed [update] other = 0 := by
  obtain ⟨_, -, rfl⟩ := Ledger.reserveUpdate_eq_ok h
  rfl

/-- Neither does a silent event with an update after it. -/
lemma placed_of_silent_update {store : Store} {event update : Event} {asset : Asset} {now : Nat}
    (silent : event.IsSilent) (h : store.reserveUpdate asset now = .ok update) (other : Asset) :
    placed [event, update] other = 0 := by
  have hsplit : [event, update] = [event] ++ [update] := rfl
  rw [hsplit, placed_append, placed_of_update h, placed_singleton, silent.placed_eq_zero]
  rfl

/-- The event of a movement tells it; where nothing moved there is nothing to tell. -/
lemma placed_movement (movement : Movement) (moved : Asset) (now : Nat) (asset : Asset) :
    placed (movement.events moved now) asset =
      if moved = asset then (movement.invested : Int) - movement.divested - movement.loss
      else 0 := by
  unfold Movement.events
  split
  · next hempty =>
    simp only [Movement.isEmpty, Bool.and_eq_true, beq_iff_eq] at hempty
    obtain ⟨⟨hinvested, hdivested⟩, hloss⟩ := hempty
    rw [hinvested, hdivested, hloss]
    simp [placed]
  · rw [placed_singleton]
    rfl

end EventLog

/-! ## One action -/

/-- What an action takes off the placement of an asset without telling it: what a borrow of the
asset draws from the vault. -/
def Action.drawn (action : Action) (asset : Asset) (before after : Ledger) : Nat :=
  if action.borrows = some asset then before.investedOf asset - after.investedOf asset else 0

/-- An action that leaves a placement as it is draws nothing. -/
lemma Action.drawn_of_same {action : Action} {asset : Asset} {before after : Ledger}
    (h : after.investedOf asset = before.investedOf asset) : action.drawn asset before after = 0 := by
  unfold drawn
  split
  · rw [h, Nat.sub_self]
  · rfl

variable {O V N : Type} [PriceSource O] [Vault V] [Venue N]

/-- With a bounded vault, the events of an action tell by how much a placement changes, but for
what a borrow draws. -/
theorem Action.Reports.placed {vault : V} (bounded : Vault.Bounded vault) {store store' : Store}
    {now : Nat} {action : Action} {events : EventLog}
    (h : action.Reports store vault now store' events) (asset : Asset) :
    events.placed asset + store.ledger.investedOf asset =
      store'.ledger.investedOf asset + action.drawn asset store.ledger store'.ledger := by
  cases h with
  | @moved touched movement _ others _ update tells moves covered silent updates told =>
    have hdrawn : action.drawn asset store.ledger store'.ledger = 0 := by
      rw [drawn, tells]
      rfl
    have hplaced : events.placed asset =
        if touched = asset then (movement.invested : Int) - movement.divested - movement.loss
        else 0 := by
      rw [told, EventLog.placed_append, EventLog.placed_append,
        EventLog.placed_of_silent silent, EventLog.placed_of_update updates,
        EventLog.placed_movement, add_zero, add_zero]
    rw [hdrawn, hplaced]
    split
    · next heq =>
      subst heq
      have hcovered := covered bounded
      have hinvested := moves.investedOf
      omega
    · next hne =>
      rw [moves.investedOf_ne (Ne.symm hne)]
      omega
  | @borrowed touched movement _ event update hides moves pulls silent updates =>
    rw [EventLog.placed_of_silent_update silent updates]
    by_cases heq : touched = asset
    · subst heq
      have hinvested := moves.investedOf
      rw [drawn, if_pos hides]
      omega
    · have hother : ¬ action.borrows = some asset := by
        rw [hides]
        exact fun hsome => heq (Option.some.inj hsome)
      rw [moves.investedOf_ne (Ne.symm heq), drawn, if_neg hother]
      omega
  | opened opens silent updates =>
    have hsame := Ledger.openReserve_investedOf opens asset
    rw [EventLog.placed_of_silent_update silent updates, drawn_of_same hsame, hsame]
    omega
  | configured touches silent =>
    have hsame := touches.investedOf_eq rfl asset
    rw [EventLog.placed_of_silent silent, drawn_of_same hsame, hsame]
    omega
  | elsewhere ledger silent =>
    have hsame : store'.ledger.investedOf asset = store.ledger.investedOf asset := by rw [ledger]
    rw [EventLog.placed_of_silent silent, drawn_of_same hsame, hsame]
    omega

/-! ## Runs -/

namespace Pool

/-- What a move takes off the placement of an asset without telling it. -/
def drawn (asset : Asset) (pool : Pool O V N) : Move O V N → Nat
  | .call call =>
    call.action.drawn asset pool.state.store.ledger
      (pool.after (.call call)).state.store.ledger
  | _ => 0

/-- What the moves of a run take off the placement of an asset without telling it. -/
def drawnAlong (asset : Asset) (pool : Pool O V N) : List (Move O V N) → Nat
  | [] => 0
  | move :: moves => pool.drawn asset move + (pool.after move).drawnAlong asset moves

variable {pool : Pool O V N}

/-- A move changes the placement of an asset as the log tells, but for what a borrow draws. -/
theorem placed_after (bounded : Vault.Bounded pool.vault) (move : Move O V N) (asset : Asset) :
    (pool.after move).log.placed asset + pool.state.store.ledger.investedOf asset =
      pool.log.placed asset + (pool.after move).state.store.ledger.investedOf asset +
        pool.drawn asset move := by
  rcases pool.after_reports move with ⟨hledger, hlog⟩ | ⟨call, events, rfl, hlog, hreports⟩
  · have hdrawn : pool.drawn asset move = 0 := by
      cases move with
      | call call => exact Action.drawn_of_same (by rw [hledger])
      | fund | mint | turn => rfl
    rw [hledger, hlog, hdrawn]
    omega
  · have hplaced := hreports.placed bounded asset
    have hdrawn : pool.drawn asset (.call call) = call.action.drawn asset pool.state.store.ledger
        (pool.after (.call call)).state.store.ledger := rfl
    rw [hlog, EventLog.placed_append, hdrawn]
    omega

/-- Moves change the placement of an asset as the log tells, but for what borrows draw. -/
lemma placed_follow {moves : List (Move O V N)}
    (bounded : pool.Along (fun pool => Vault.Bounded pool.vault) moves) (asset : Asset) :
    (pool.follow moves).log.placed asset + pool.state.store.ledger.investedOf asset =
      pool.log.placed asset + (pool.follow moves).state.store.ledger.investedOf asset +
        pool.drawnAlong asset moves := by
  induction moves generalizing pool with
  | nil =>
    have hsame : pool.follow [] = pool := rfl
    have hdrawn : pool.drawnAlong asset [] = 0 := rfl
    rw [hsame, hdrawn]
    omega
  | cons move moves ih =>
    have hfirst := placed_after bounded.1 move asset
    have hrest := ih bounded.2
    have hdrawn : pool.drawnAlong asset (move :: moves) =
        pool.drawn asset move + (pool.after move).drawnAlong asset moves := rfl
    change ((pool.after move).follow moves).log.placed asset + _ =
      _ + (((pool.after move).follow moves).state.store.ledger.investedOf asset : Int) + _
    rw [hdrawn]
    omega

/-- Nothing is drawn along a run exactly when no move of it draws anything. -/
lemma drawnAlong_eq_zero {moves : List (Move O V N)} {asset : Asset} :
    pool.drawnAlong asset moves = 0 ↔
      pool.Obeys (fun pool move => pool.drawn asset move = 0) moves := by
  induction moves generalizing pool with
  | nil => exact iff_of_true rfl trivial
  | cons move moves ih => exact Nat.add_eq_zero_iff.trans (and_congr Iff.rfl ih)

/-- As long as the vault is bounded, whatever happens to a pool, the movements of an asset in its
log add up to what the reserve of the asset has placed in the vault and what borrows have drawn from
there without an event. So the log agrees with the ledger exactly as long as no borrow has drawn
anything. -/
theorem log_placed_iff {prices : O} {vault : V} {venue : N} {founder : Account}
    {settings : Settings} {now : Nat}
    (h : create prices vault venue founder settings now = .ok pool) {moves : List (Move O V N)}
    (bounded : pool.Along (fun pool => Vault.Bounded pool.vault) moves) (asset : Asset) :
    (pool.follow moves).log.placed asset =
        (pool.follow moves).state.store.ledger.investedOf asset + pool.drawnAlong asset moves ∧
    ((pool.follow moves).log.placed asset =
        (pool.follow moves).state.store.ledger.investedOf asset ↔
      pool.Obeys (fun pool move => pool.drawn asset move = 0) moves) := by
  obtain ⟨hlog, hreserves⟩ := create_log h
  have hinvested : pool.state.store.ledger.investedOf asset = 0 := by
    unfold Ledger.investedOf
    rw [hreserves]
    rfl
  have hempty : pool.log.placed asset = 0 := by
    rw [hlog]
    rfl
  have hfollow := placed_follow bounded asset
  rw [hinvested, hempty] at hfollow
  refine ⟨by omega, ?_⟩
  rw [← drawnAlong_eq_zero]
  omega

end Pool

namespace SmallMarket

/-- The pool as it is founded, with a simulated vault. -/
def housed : Pool PriceFeeds SimulatedVault FlatVenue where
  prices := feeds
  state := founded.state
  vault := {}
  venue
  busy := false
  log := []

/-- Of 1000 that are supplied, half is placed in the vault; a withdrawal of 600 draws 100 from
there. -/
def placing : List (Move PriceFeeds SimulatedVault FlatVenue) :=
  [.call ⟨founder, 0, .operator (.grantRole founder .riskManager)⟩,
    .call ⟨founder, 0, .operator (.openReserve coin { decimals := 0, vaultShare := 5000 })⟩,
    .call ⟨founder, 0, .operator (.configureCollateral art none {})⟩,
    .call ⟨founder, 0, .operator (.registerWrapper art wrappedArt)⟩,
    .fund coin supplier 1000,
    .mint ⟨art, 1⟩ borrower,
    .call ⟨supplier, 0, .user (.deposit coin 1000 supplier 0)⟩,
    .call ⟨founder, 0, .operator (.rebalance coin)⟩,
    .call ⟨supplier, 0, .user (.withdraw coin 600 supplier)⟩]

/-- A borrow of 300 draws all of it from the vault. -/
def drawing : List (Move PriceFeeds SimulatedVault FlatVenue) :=
  [.call ⟨borrower, 0, .user (.borrow coin 300 ⟨art, 1⟩ borrower 0)⟩]

/-- Up to the withdrawal the log tells the 400 that are left in the vault. After the borrow it still
tells 400 where 100 are left. -/
theorem drawing_is_not_told :
    Pool.create feeds ({} : SimulatedVault) venue founder {} 0 = .ok housed ∧
    (housed.follow placing).log.placed coin = 400 ∧
    (housed.follow placing).state.store.ledger.investedOf coin = 400 ∧
    (housed.follow (placing ++ drawing)).log.placed coin = 400 ∧
    (housed.follow (placing ++ drawing)).state.store.ledger.investedOf coin = 100 ∧
    ¬ housed.Obeys (fun pool move => pool.drawn coin move = 0) (placing ++ drawing) := by
  have hcreated : Pool.create feeds ({} : SimulatedVault) venue founder {} 0 = .ok housed := by
    decide +kernel
  have hplaced : (housed.follow placing).state.store.ledger.investedOf coin = 400 := by
    decide +kernel
  have hquiet : housed.drawnAlong coin placing = 0 := by decide +kernel
  have hleft : (housed.follow (placing ++ drawing)).state.store.ledger.investedOf coin = 100 := by
    decide +kernel
  have hdrawn : housed.drawnAlong coin (placing ++ drawing) = 300 := by decide +kernel
  have hbounded := Pool.along_of_forall fun pool : Pool PriceFeeds SimulatedVault FlatVenue =>
    pool.vault.bounded
  obtain ⟨htold, -⟩ := Pool.log_placed_iff hcreated (hbounded housed placing) coin
  obtain ⟨htold', hiff⟩ := Pool.log_placed_iff hcreated (hbounded housed (placing ++ drawing)) coin
  rw [hplaced, hquiet] at htold
  rw [hleft, hdrawn] at htold'
  refine ⟨hcreated, htold, hplaced, htold', hleft, fun hobeys => ?_⟩
  have hagrees := hiff.mpr hobeys
  rw [htold', hleft] at hagrees
  omega

end SmallMarket

end PooledCredit
