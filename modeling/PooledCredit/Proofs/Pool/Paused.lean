import PooledCredit.Proofs.Pool.Atomicity
import PooledCredit.Proofs.Pool.Permissions
import PooledCredit.Proofs.Reserves.Holdings

/-!
# A paused pool leaves its users alone

While a pool is paused every action of a user is refused before it reads anything else. Operators go
on: they may grant roles, lay down other terms, open reserves and move liquidity to and from the
vault, and some of this accrues interest. But an accrual credits nobody except the treasury, and
nothing else that operators do touches what the users have: `PoolState.UsersRest` names it.

A pool that is paused and waits for no call therefore answers every user in the same way until the
pause is lifted. The one thing that can come between is an operator's action that breaks off in the
vault: then the pool stays busy, and users are refused for that reason instead.
-/

namespace PooledCredit

/-! ## Holdings -/

namespace Ledger

/-- A change of a ledger after which every account except the treasury holds what it held. -/
structure SparesSuppliers (ledger ledger' : Ledger) : Prop where
  treasury : ledger'.treasury = ledger.treasury
  holdings : ∀ asset account, account ≠ ledger.treasury →
    ledger'.scaledSupplyOf asset account = ledger.scaledSupplyOf asset account

variable {ledger middle ledger' : Ledger} {asset : Asset} {now : Nat}

/-- No change spares all suppliers. -/
lemma SparesSuppliers.refl (ledger : Ledger) : ledger.SparesSuppliers ledger :=
  ⟨rfl, fun _ _ _ => rfl⟩

/-- Two changes that spare the suppliers are one. -/
lemma SparesSuppliers.trans (h : ledger.SparesSuppliers middle)
    (h' : middle.SparesSuppliers ledger') : ledger.SparesSuppliers ledger' where
  treasury := h'.treasury.trans h.treasury
  holdings asset account hother := by
    have hother' : account ≠ middle.treasury := h.treasury.symm ▸ hother
    exact (h'.holdings asset account hother').trans (h.holdings asset account hother)

/-- Storing a reserve spares the suppliers. -/
lemma SparesSuppliers.setReserve (h : ledger.SparesSuppliers middle) (asset : Asset)
    (reserve : Reserve) : ledger.SparesSuppliers (middle.setReserve asset reserve) :=
  h.trans ⟨rfl, fun _ _ _ => rfl⟩

/-- An accrual spares the suppliers. -/
lemma accrue_spares {accrual : Accrual} (h : ledger.accrue asset now = .ok (accrual, ledger')) :
    ledger.SparesSuppliers ledger' := by
  obtain ⟨_, _, htouch, -⟩ := accrue_eq_ok h
  obtain ⟨-, hholdings⟩ := accrue_mints h
  refine ⟨htouch.treasury, fun other account hother => ?_⟩
  rw [hholdings other account, if_neg fun hboth => hother hboth.2, Nat.add_zero]

/-- Administering a ledger spares the suppliers. -/
lemma Administered.spares {V : Type} [Vault V] (h : ledger.Administered V ledger') :
    ledger.SparesSuppliers ledger' := by
  have hrefl := SparesSuppliers.refl ledger
  cases h with
  | same => exact hrefl
  | opened ho =>
    obtain ⟨reserve, -, -, -, rfl⟩ := openReserve_eq_ok ho
    exact hrefl.setReserve _ _
  | switched hs =>
    simp only [setFlags, bind_eq_ok, require_eq_ok, exists_const, pure_eq_ok] at hs
    obtain ⟨reserve, -, -, rfl⟩ := hs
    exact hrefl.setReserve _ _
  | factored hf =>
    simp only [setFactor, bind_eq_ok, require_eq_ok, exists_const, pure_eq_ok, Prod.exists] at hf
    obtain ⟨-, _, accrued, ha, _, -, _, -, rfl⟩ := hf
    exact (accrue_spares ha).setReserve _ _
  | remodelled hm =>
    simp only [setModel, bind_eq_ok, pure_eq_ok, Prod.exists] at hm
    obtain ⟨_, -, _, accrued, ha, _, -, _, -, rfl⟩ := hm
    exact (accrue_spares ha).setReserve _ _
  | shared hs =>
    simp only [setVaultShare, bind_eq_ok, require_eq_ok, exists_const, pure_eq_ok] at hs
    obtain ⟨-, reserve, -, rfl⟩ := hs
    exact hrefl.setReserve _ _
  | rebalanced ha hb =>
    simp only [rebalance, bind_eq_ok, pure_eq_ok, Prod.exists, Prod.mk.injEq] at hb
    obtain ⟨_, -, _, _, _, -, -, rfl, -⟩ := hb
    exact (accrue_spares ha).setReserve _ _

end Ledger

/-! ## Pool states -/

/-- What the users of a pool have is the same in two states: what is in custody, the loans and the
mandates to borrow, the listings, and the scaled supply of every account except the treasury. -/
structure PoolState.UsersRest (before after : PoolState) : Prop where
  custody : after.custody = before.custody
  loans : after.store.loans = before.store.loans
  board : after.store.board = before.store.board
  suppliers : before.store.ledger.SparesSuppliers after.store.ledger

namespace PoolState.UsersRest

/-- No change lets the users rest. -/
lemma refl (state : PoolState) : state.UsersRest state := ⟨rfl, rfl, rfl, .refl _⟩

/-- Two changes that let the users rest are one. -/
lemma trans {before middle after : PoolState} (h : before.UsersRest middle)
    (h' : middle.UsersRest after) : before.UsersRest after :=
  ⟨h'.custody.trans h.custody, h'.loans.trans h.loans, h'.board.trans h.board,
    h.suppliers.trans h'.suppliers⟩

end PoolState.UsersRest

namespace OperatorAction

variable {V : Type} [Vault V] {action : OperatorAction} {state state' : PoolState}
variable {vault vault' : V} {caller : Account} {now : Nat} {reply : Reply} {events : EventLog}

/-- An operator's action lets the users rest. -/
lemma run_usersRest
    (h : action.run state vault caller now = .ok (reply, state', vault', events)) :
    state.UsersRest state' := by
  obtain ⟨-, hloans, hboard, hcustody, hledger⟩ := run_eq_ok h
  exact ⟨hcustody, hloans, hboard, hledger.spares⟩

/-- Only lifting the pause ends it. -/
lemma run_paused (h : action.run state vault caller now = .ok (reply, state', vault', events))
    (hpaused : state.pause.paused = true) (hkeeps : action ≠ .setPause false) :
    state'.pause.paused = true := by
  have hchanges := (run_changes h).2.1
  cases action with
  | setPause paused =>
    obtain rfl : paused = true := by
      cases paused with
      | true => rfl
      | false => exact absurd rfl hkeeps
    -- a paused pool cannot be paused again
    simp only [run, if_true, PauseSwitch.pause, bind_eq_ok, require_eq_ok, hpaused, reduceCtorEq,
      false_and, exists_const, and_false] at h
  | _ =>
    rcases hchanges with hpermission | hpause
    · cases hpermission
    · rw [hpause]
      exact hpaused

end OperatorAction

/-! ## Runs -/

namespace Pool

variable {O V N : Type} [PriceSource O] [Vault V] [Venue N] {pool : Pool O V N}

/-- A move that is an action, except one that succeeds in lifting the pause, or that brings other
prices, another vault or another venue. -/
def KeepsPause (pool : Pool O V N) : Move O V N → Prop
  | .call call => call.action = .operator (.setPause false) → (pool.execute call).1.isOk = false
  | .turn .. => True
  | .fund .. | .mint .. => False

/-- Whether a move keeps the pause can be computed. -/
instance instDecidableKeepsPause :
    (pool : Pool O V N) → (move : Move O V N) → Decidable (pool.KeepsPause move)
  | pool, .call call =>
    inferInstanceAs
      (Decidable (call.action = .operator (.setPause false) → (pool.execute call).1.isOk = false))
  | _, .turn .. => .isTrue trivial
  | _, .fund .. | _, .mint .. => .isFalse id

/-- One of the calls among some moves breaks off. -/
def BreaksOff (pool : Pool O V N) : List (Move O V N) → Prop
  | [] => False
  | move :: moves =>
    (∃ call cause, move = .call call ∧ (pool.execute call).1 = .error (.fault cause)) ∨
      (pool.after move).BreaksOff moves

/-- While a pool is paused and not busy, every action of a user is refused for the pause and changes
nothing. -/
lemma execute_user_of_paused (hpaused : pool.state.pause.paused = true) (hfree : pool.busy = false)
    (caller : Account) (now : Nat) (action : UserAction) :
    pool.execute ⟨caller, now, .user action⟩ = (.error (.refused .paused), pool) := by
  have hattempt : pool.attempt ⟨caller, now, .user action⟩ = .error (.refused .paused) := by
    rw [attempt_of_free hfree]
    simp only [run, PauseSwitch.requireRunning, hpaused]
    rfl
  rw [execute, hattempt]

/-- A pool that waits for no call becomes busy exactly by a call that breaks off. -/
lemma after_busy_iff (hfree : pool.busy = false) (move : Move O V N) :
    (pool.after move).busy = true ↔
      ∃ call cause, move = .call call ∧ (pool.execute call).1 = .error (.fault cause) := by
  cases move with
  | call call =>
    have hexecutes := pool.execute_executes call
    show (pool.execute call).2.busy = true ↔ _
    simp only [Move.call.injEq]
    constructor
    · intro hbusy
      have hfault : ∃ cause, (pool.execute call).1 = .error (.fault cause) := by
        generalize (pool.execute call).1 = result, (pool.execute call).2 = after
          at hexecutes hbusy ⊢
        cases hexecutes with
        | @brokeOff cause free runs => exact ⟨cause, rfl⟩
        | busy held => cases hfree.symm.trans held
        | refused | stopped | committed => cases hfree.symm.trans hbusy
      obtain ⟨cause, hfault⟩ := hfault
      exact ⟨call, cause, rfl, hfault⟩
    · rintro ⟨_, cause, rfl, hfault⟩
      obtain ⟨-, -, hleft⟩ := execute_of_fault hfault
      rw [hleft]
  | fund asset account amount =>
    have hstays : (pool.after (.fund asset account amount)).busy = false := by
      cases hf : pool.fund asset account amount with
      | ok funded =>
        simp only [after, hf]
        simp only [fund, bind_eq_ok, pure_eq_ok] at hf
        obtain ⟨custody, -, rfl⟩ := hf
        exact hfree
      | error e =>
        simp only [after, hf]
        exact hfree
    simp [hstays]
  | mint item owner => simp [after, Pool.mint, hfree]
  | turn prices vault venue => simp [after, hfree]

/-- A pool that waits for no call is busy after some moves exactly when one of their calls breaks
off. -/
lemma follow_busy_iff (hfree : pool.busy = false) (moves : List (Move O V N)) :
    (pool.follow moves).busy = true ↔ pool.BreaksOff moves := by
  induction moves generalizing pool with
  | nil => simp [follow, BreaksOff, hfree]
  | cons move moves ih =>
    show ((pool.after move).follow moves).busy = true ↔ _
    rw [BreaksOff, ← after_busy_iff hfree move]
    cases hbusy : (pool.after move).busy with
    | true => simp [follow_busy hbusy moves]
    | false => simp [ih hbusy]

/-- A move that keeps the pause leaves a paused pool paused and lets its users rest. -/
lemma after_paused (hpaused : pool.state.pause.paused = true) {move : Move O V N}
    (hkeeps : pool.KeepsPause move) :
    (pool.after move).state.pause.paused = true ∧ pool.state.UsersRest (pool.after move).state := by
  cases move with
  | call call =>
    show (pool.execute call).2.state.pause.paused = true ∧
      pool.state.UsersRest (pool.execute call).2.state
    have hstays (hstate : (pool.execute call).2.state = pool.state) :
        (pool.execute call).2.state.pause.paused = true ∧
          pool.state.UsersRest (pool.execute call).2.state := by
      rw [hstate]
      exact ⟨hpaused, .refl _⟩
    rcases pool.execute_attempt call with ⟨commit, hattempt, hreply, hstate, -, -⟩ | ⟨-, hstate, -⟩
    · cases haction : call.action with
      | user action =>
        refine hstays ?_
        obtain ⟨caller, now, _⟩ := call
        cases haction
        cases hbusy : pool.busy with
        | true => rw [execute_of_busy hbusy]
        | false => rw [execute_user_of_paused hpaused hbusy]
      | operator action =>
        obtain ⟨ha, -, -⟩ := attempt_operator haction hattempt
        have hlifts : action ≠ .setPause false := by
          rintro rfl
          have hfails := hkeeps haction
          rw [hreply] at hfails
          cases hfails
        rw [hstate]
        exact ⟨OperatorAction.run_paused ha hpaused hlifts, OperatorAction.run_usersRest ha⟩
    · exact hstays hstate
  | fund | mint => exact hkeeps.elim
  | turn prices vault venue => exact ⟨hpaused, .refl _⟩

/-- Moves that keep the pause leave a paused pool paused and let its users rest. -/
lemma follow_paused (hpaused : pool.state.pause.paused = true) {moves : List (Move O V N)}
    (ho : pool.Obeys KeepsPause moves) :
    (pool.follow moves).state.pause.paused = true ∧
      pool.state.UsersRest (pool.follow moves).state := by
  induction moves generalizing pool with
  | nil => exact ⟨hpaused, .refl _⟩
  | cons move moves ih =>
    obtain ⟨hstill, hrest⟩ := after_paused hpaused ho.1
    obtain ⟨hend, hrests⟩ := ih hstill ho.2
    exact ⟨hend, hrest.trans hrests⟩

/-- From a paused pool that is not busy on, whatever actions follow and whatever becomes of prices,
vault and venue, as long as nobody succeeds in lifting the pause: custody, the loans with the
mandates, the listings and the scaled supply of everyone except the treasury stay as they are, and
every action of a user is refused because the pool is paused. Only an action that breaks off changes
the answer, for then the pool is busy. -/
theorem paused_spares_users (hpaused : pool.state.pause.paused = true) (hfree : pool.busy = false)
    {moves : List (Move O V N)} (ho : pool.Obeys KeepsPause moves) :
    pool.state.UsersRest (pool.follow moves).state ∧
    (pool.follow moves).state.pause.paused = true ∧
    (∀ caller now action, (pool.follow moves).execute ⟨caller, now, .user action⟩ =
      (.error (.refused (if (pool.follow moves).busy then .busy else .paused)),
        pool.follow moves)) ∧
    ((pool.follow moves).busy = true ↔ pool.BreaksOff moves) := by
  obtain ⟨hstill, hrest⟩ := follow_paused hpaused ho
  refine ⟨hrest, hstill, fun caller now action => ?_, follow_busy_iff hfree moves⟩
  cases hbusy : (pool.follow moves).busy with
  | true => exact execute_of_busy hbusy _
  | false => exact execute_user_of_paused hstill hbusy caller now action

end Pool

namespace SmallMarket

/-- The founder pauses the pool with the loan. -/
def pausing : List (Move PriceFeeds NoVault FlatVenue) :=
  [.call ⟨founder, 0, .operator (.grantRole founder .guardian)⟩,
    .call ⟨founder, 0, .operator (.setPause true)⟩]

/-- Twenty years later the founder, still without lifting the pause, sets another treasury share and
lays down other terms, and the supplier asks for its funds. -/
def ruling : List (Move PriceFeeds NoVault FlatVenue) :=
  [.call ⟨supplier, 20 * year, .operator (.setPause false)⟩,
    .call ⟨founder, 20 * year, .operator (.setReserveFactor coin 2000)⟩,
    .call ⟨founder, 20 * year, .operator (.setCollateralFrozen art true)⟩,
    .call ⟨supplier, 20 * year, .user (.withdraw coin 100 supplier)⟩]

/-- The treasury has been credited with 15 scaled units of interest meanwhile; the supplier still
holds its 1000, gets nothing out, and the borrower cannot repay. -/
theorem ruling_spares_users :
    let pool := lent.follow pausing
    let later := pool.follow ruling
    later.state.store.ledger.scaledSupplyOf coin later.state.store.ledger.treasury = 15 ∧
    later.state.store.ledger.scaledSupplyOf coin supplier = 1000 ∧
    later.state.custody = pool.state.custody ∧
    (later.execute ⟨borrower, 20 * year, .user (.repay ⟨art, 1⟩ 10)⟩).1 =
      .error (.refused .paused) := by
  intro pool later
  have hpaused : pool.state.pause.paused = true := by decide +kernel
  have hfree : pool.busy = false := by decide +kernel
  have hobeys : pool.Obeys Pool.KeepsPause ruling := by decide +kernel
  have htreasury :
      later.state.store.ledger.scaledSupplyOf coin later.state.store.ledger.treasury = 15 := by
    decide +kernel
  have hheld : pool.state.store.ledger.scaledSupplyOf coin supplier = 1000 := by decide +kernel
  have hother : supplier ≠ pool.state.store.ledger.treasury := by decide +kernel
  have hstays : later.busy = false := by decide +kernel
  obtain ⟨hrest, -, hanswers, -⟩ := Pool.paused_spares_users hpaused hfree hobeys
  have hlater : pool.follow ruling = later := rfl
  rw [hlater] at hrest hanswers
  have hkept := hrest.suppliers.holdings coin supplier hother
  have hanswer := hanswers borrower (20 * year) (.repay ⟨art, 1⟩ 10)
  rw [hstays] at hanswer
  refine ⟨htreasury, ?_, hrest.custody, congrArg Prod.fst hanswer⟩
  rw [hkept]
  exact hheld

end SmallMarket

end PooledCredit
