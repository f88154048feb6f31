import PooledCredit.Proofs.Collateral.Terms
import PooledCredit.Proofs.Reserves.Setup

/-!
# Who can change what

Every permission guards a part of the state of a pool, and `PoolState.Keeps` says that this part is
unchanged. A user's action keeps all of these parts. An operator's action asks first for one
permission, of the caller and of the roles as they are then, and it keeps every part but the one
that this permission guards. The one exception is opening a reserve, which also lays down what the
vault may hold of it; but no role allows the one without the other.

So an account that holds no role changes nothing that is guarded, whatever it calls and however
often. The settings are guarded by no permission: nobody changes them.
-/

namespace PooledCredit

/-! ## Roles -/

namespace RoleRegister

variable {register : RoleRegister} {account : Account}

/-- Whoever may configure reserves may also manage the vault. -/
lemma hasPermission_manageVault (h : register.hasPermission account .configureReserve = true) :
    register.hasPermission account .manageVault = true := by
  have hrole (role : Role) (hg : role.grants .configureReserve = true) :
      role.grants .manageVault = true := by
    cases role with
    | admin => rfl
    | guardian | riskManager | publisher => cases hg
  unfold hasPermission at h ⊢
  rw [List.any_eq_true] at h ⊢
  obtain ⟨appointment, hmem, hheld⟩ := h
  rw [Bool.and_eq_true] at hheld
  refine ⟨appointment, hmem, ?_⟩
  rw [hheld.1, hrole _ hheld.2]
  rfl

/-- An account without roles has no permission. -/
lemma hasPermission_of_rolesOf (h : register.rolesOf account = []) (permission : Permission) :
    register.hasPermission account permission = false := by
  have hnone : ∀ appointment ∈ register.appointments,
      ¬ (appointment.account == account) = true := by
    rw [rolesOf, List.map_eq_nil_iff, List.filter_eq_nil_iff] at h
    exact h
  unfold hasPermission
  rw [List.any_eq_false]
  intro appointment hmem hheld
  rw [Bool.and_eq_true] at hheld
  exact hnone appointment hmem hheld.1

end RoleRegister

/-! ## What a permission guards -/

namespace PoolState

/-- The part of a state that a permission guards is the same in another. Prices are published
elsewhere. -/
def Keeps (before after : PoolState) : Permission → Prop
  | .grantRole => after.roles = before.roles
  | .pause => after.pause = before.pause
  | .configureCollateral =>
    after.store.collateral = before.store.collateral ∧ after.store.wrappers = before.store.wrappers
  | .configureReserve =>
    ∀ asset, after.store.ledger.setupOf asset = before.store.ledger.setupOf asset
  | .manageVault =>
    ∀ asset, after.store.ledger.vaultShareOf asset = before.store.ledger.vaultShareOf asset
  | .updatePrice => True

variable {before middle after : PoolState} {permission : Permission}

/-- No change keeps everything. -/
lemma Keeps.refl (state : PoolState) (permission : Permission) :
    state.Keeps state permission := by
  cases permission with
  | grantRole | pause => rfl
  | configureCollateral => exact ⟨rfl, rfl⟩
  | configureReserve | manageVault => exact fun _ => rfl
  | updatePrice => trivial

/-- Two changes that keep a part are one. -/
lemma Keeps.trans (h : before.Keeps middle permission) (h' : middle.Keeps after permission) :
    before.Keeps after permission := by
  cases permission with
  | grantRole | pause => exact Eq.trans h' h
  | configureCollateral => exact ⟨h'.1.trans h.1, h'.2.trans h.2⟩
  | configureReserve | manageVault => exact fun asset => (h' asset).trans (h asset)
  | updatePrice => trivial

/-- A change of the loans, the listings, custody and the balances of the reserves keeps every part
that is guarded. -/
lemma keeps_of_sameTerms (hroles : after.roles = before.roles) (hpause : after.pause = before.pause)
    (hcollateral : after.store.collateral = before.store.collateral)
    (hwrappers : after.store.wrappers = before.store.wrappers)
    (hterms : before.store.ledger.SameTerms after.store.ledger) (permission : Permission) :
    before.Keeps after permission := by
  cases permission with
  | grantRole => exact hroles
  | pause => exact hpause
  | configureCollateral => exact ⟨hcollateral, hwrappers⟩
  | configureReserve => exact hterms.setup
  | manageVault => exact hterms.vaultShare
  | updatePrice => trivial

end PoolState

/-! ## Actions -/

variable {O V N : Type} [PriceSource O] [Vault V] [Venue N]

/-- No user's action changes the wrappers. -/
lemma UserAction.Serves.wrappers {action : UserAction} {prices : O} {store : Store} {vault : V}
    {venue : N} {facility : Facility V N} {caller : Account} {now : Nat}
    {transfers : List Transfer}
    (h : action.Serves prices store vault venue caller now facility transfers) :
    facility.store.wrappers = store.wrappers := by
  cases h with
  | liquidate s | sell s =>
    obtain ⟨_, -, hstore, -⟩ := Store.settle_eq_ok s.settles
    show s.store'.wrappers = store.wrappers
    rw [hstore]
  | buyDebt s | claimDebt s =>
    obtain ⟨_, -, -, hstore⟩ := Store.passDebt_eq_ok s.passes
    show s.store'.wrappers = store.wrappers
    rw [hstore]
  | deposit | withdraw | borrow | repay | setMandate | bid | redeem | list | bidDebt
    | cancelListing => rfl

namespace OperatorAction

variable {action : OperatorAction} {state state' : PoolState} {vault vault' : V}
variable {caller : Account} {now : Nat} {reply : Reply} {events : EventLog}

/-- An operator's action that succeeds had its permission. -/
lemma run_permitted
    (h : action.run state vault caller now = .ok (reply, state', vault', events)) :
    state.roles.hasPermission caller action.permission = true := by
  simp only [run, RoleRegister.requirePermission, bind_eq_ok, require_eq_ok, exists_const] at h
  exact h.1

/-- An operator's action changes the roles, the pause, the collateral and the wrappers, or the
terms of reserves only as its permission allows. -/
lemma run_changes (h : action.run state vault caller now = .ok (reply, state', vault', events)) :
    (action.permission = .grantRole ∨ state'.roles = state.roles) ∧
    (action.permission = .pause ∨ state'.pause = state.pause) ∧
    (action.permission = .configureCollateral ∨
      state'.store.collateral = state.store.collateral ∧
        state'.store.wrappers = state.store.wrappers) ∧
    (action.permission = .configureReserve ∨
      (∀ asset, state'.store.ledger.setupOf asset = state.store.ledger.setupOf asset) ∧
        (action.permission = .manageVault ∨
          ∀ asset,
            state'.store.ledger.vaultShareOf asset = state.store.ledger.vaultShareOf asset)) := by
  cases action <;>
    simp only [run, PoolState.setCollateral, PoolState.setLedger, bind_eq_ok, pure_eq_ok,
      Prod.exists, Prod.mk.injEq] at h
  case setPause =>
    obtain ⟨_, -, h⟩ := h
    rw [ite_bind] at h
    simp only [bind_eq_ok, pure_eq_ok, Prod.mk.injEq] at h
    obtain ⟨_, -, -, rfl, -⟩ := h
    exact ⟨.inr rfl, .inl rfl, .inr ⟨rfl, rfl⟩, .inr ⟨fun _ => rfl, .inr fun _ => rfl⟩⟩
  case grantRole =>
    obtain ⟨_, -, _, -, -, rfl, -⟩ := h
    exact ⟨.inl rfl, .inr rfl, .inr ⟨rfl, rfl⟩, .inr ⟨fun _ => rfl, .inr fun _ => rfl⟩⟩
  case revokeRole =>
    obtain ⟨_, -, _, -, -, rfl, -⟩ := h
    exact ⟨.inl rfl, .inr rfl, .inr ⟨rfl, rfl⟩, .inr ⟨fun _ => rfl, .inr fun _ => rfl⟩⟩
  case configureCollateral =>
    obtain ⟨_, -, _, -, -, rfl, -⟩ := h
    exact ⟨.inr rfl, .inr rfl, .inl rfl, .inr ⟨fun _ => rfl, .inr fun _ => rfl⟩⟩
  case setCollateralActive =>
    obtain ⟨_, -, _, -, _, -, -, rfl, -⟩ := h
    exact ⟨.inr rfl, .inr rfl, .inl rfl, .inr ⟨fun _ => rfl, .inr fun _ => rfl⟩⟩
  case setCollateralFrozen =>
    obtain ⟨_, -, _, -, _, -, -, rfl, -⟩ := h
    exact ⟨.inr rfl, .inr rfl, .inl rfl, .inr ⟨fun _ => rfl, .inr fun _ => rfl⟩⟩
  case registerWrapper =>
    obtain ⟨_, -, _, -, -, rfl, -⟩ := h
    exact ⟨.inr rfl, .inr rfl, .inl rfl, .inr ⟨fun _ => rfl, .inr fun _ => rfl⟩⟩
  case openReserve =>
    obtain ⟨_, -, _, -, _, -, -, rfl, -⟩ := h
    exact ⟨.inr rfl, .inr rfl, .inr ⟨rfl, rfl⟩, .inl rfl⟩
  case setReserveFlags =>
    obtain ⟨_, -, _, -, _, -, -, rfl, -⟩ := h
    exact ⟨.inr rfl, .inr rfl, .inr ⟨rfl, rfl⟩, .inl rfl⟩
  case setReserveFactor =>
    obtain ⟨_, -, _, -, _, -, _, -, -, rfl, -⟩ := h
    exact ⟨.inr rfl, .inr rfl, .inr ⟨rfl, rfl⟩, .inl rfl⟩
  case setRateModel =>
    obtain ⟨_, -, _, -, _, -, -, rfl, -⟩ := h
    exact ⟨.inr rfl, .inr rfl, .inr ⟨rfl, rfl⟩, .inl rfl⟩
  case setVaultShare =>
    obtain ⟨_, -, _, ho, -, rfl, -⟩ := h
    exact ⟨.inr rfl, .inr rfl, .inr ⟨rfl, rfl⟩,
      .inr ⟨Ledger.setVaultShare_setupOf ho, .inl rfl⟩⟩
  case rebalance =>
    obtain ⟨_, -, _, _, ha, _, _, _, ho, _, -, -, rfl, -⟩ := h
    have hterms := (Ledger.accrue_sameTerms ha).trans (Ledger.rebalance_sameTerms ho)
    exact ⟨.inr rfl, .inr rfl, .inr ⟨rfl, rfl⟩, .inr ⟨hterms.setup, .inr hterms.vaultShare⟩⟩

/-- An operator's action keeps every part that is guarded by a permission its caller does not
have. -/
lemma run_keeps (h : action.run state vault caller now = .ok (reply, state', vault', events))
    {permission : Permission} (hlacks : state.roles.hasPermission caller permission = false) :
    state.Keeps state' permission := by
  have hheld := run_permitted h
  have hother : action.permission ≠ permission := by
    intro heq
    rw [heq, hlacks] at hheld
    cases hheld
  obtain ⟨hroles, hpause, hcollateral, hreserves⟩ := run_changes h
  cases permission with
  | grantRole => exact hroles.resolve_left hother
  | pause => exact hpause.resolve_left hother
  | configureCollateral => exact hcollateral.resolve_left hother
  | configureReserve => exact (hreserves.resolve_left hother).1
  | manageVault =>
    have hconfigures : action.permission ≠ .configureReserve := by
      intro heq
      rw [heq] at hheld
      rw [RoleRegister.hasPermission_manageVault hheld] at hlacks
      cases hlacks
    exact (hreserves.resolve_left hconfigures).2.resolve_left hother
  | updatePrice => trivial

end OperatorAction

/-! ## Calls and runs -/

namespace Pool

variable {pool : Pool O V N}

/-- A call keeps every part that is guarded by a permission its caller does not have. -/
lemma execute_keeps (call : Call) {permission : Permission}
    (hlacks : pool.state.roles.hasPermission call.caller permission = false) :
    pool.state.Keeps (pool.execute call).2.state permission := by
  rcases pool.execute_cases call with ⟨-, hstate, -, -⟩ |
    ⟨action, reply, facility, effects, custody, -, -, ha, -, hstate, -, -⟩ |
    ⟨action, reply, state, vault, events, -, ha, hstate, -, -⟩
  · rw [hstate]
    exact .refl _ _
  · rw [hstate]
    have hserves := UserAction.run_serves ha
    refine PoolState.keeps_of_sameTerms ?_ ?_ ?_ ?_ ?_ permission
    exacts [rfl, rfl, hserves.collateral, hserves.wrappers, hserves.sameTerms]
  · rw [hstate]
    exact OperatorAction.run_keeps ha hlacks

/-- No move changes the settings. -/
lemma after_settings (move : Move O V N) :
    (pool.after move).state.store.settings = pool.state.store.settings := by
  rcases pool.move_cases move with
    ⟨call, action, commit, facility, -, -, -, ha, hstate, hstore⟩ | ⟨hsettings, -, -⟩
  · rw [hstate, hstore]
    exact (UserAction.run_serves ha).settings
  · exact hsettings

/-- A move that is no call by a holder of a permission keeps what this permission guards. -/
lemma after_keeps {move : Move O V N} {permission : Permission}
    (hlacks : ∀ call, move = .call call →
      pool.state.roles.hasPermission call.caller permission = false) :
    pool.state.Keeps (pool.after move).state permission := by
  cases move with
  | call call => exact execute_keeps call (hlacks call rfl)
  | fund asset account amount =>
    cases hf : pool.fund asset account amount with
    | ok funded =>
      simp only [after, hf]
      simp only [fund, bind_eq_ok, pure_eq_ok] at hf
      obtain ⟨custody, -, rfl⟩ := hf
      exact PoolState.keeps_of_sameTerms rfl rfl rfl rfl (.refl _) permission
    | error e =>
      simp only [after, hf]
      exact .refl _ _
  | mint item owner => exact PoolState.keeps_of_sameTerms rfl rfl rfl rfl (.refl _) permission
  | turn prices vault venue => exact .refl _ _

/-- Moves whose calls are all by accounts without roles keep everything that is guarded: the roles
stay as they are, so that nobody gains a permission on the way. -/
lemma follow_keeps {moves : List (Move O V N)}
    (hroles : ∀ call, .call call ∈ moves → pool.state.roles.rolesOf call.caller = [])
    (permission : Permission) : pool.state.Keeps (pool.follow moves).state permission := by
  induction moves generalizing pool with
  | nil => exact .refl _ _
  | cons move moves ih =>
    have hstep (permission : Permission) : pool.state.Keeps (pool.after move).state permission := by
      refine after_keeps fun call hcall => ?_
      have hnone := hroles call (hcall ▸ List.mem_cons_self)
      exact RoleRegister.hasPermission_of_rolesOf hnone permission
    have hsame : (pool.after move).state.roles = pool.state.roles := hstep .grantRole
    refine (hstep permission).trans (ih fun call hmem => ?_)
    rw [hsame]
    exact hroles call (List.mem_cons_of_mem _ hmem)

/-- Moves do not change the settings. -/
lemma follow_settings (pool : Pool O V N) (moves : List (Move O V N)) :
    (pool.follow moves).state.store.settings = pool.state.store.settings := by
  induction moves generalizing pool with
  | nil => rfl
  | cons move moves ih => exact (ih (pool.after move)).trans (after_settings move)

/-- A call changes what a permission guards only if its caller had that permission before: the
roles, the pause, the terms of collateral and the wrappers, the reserves with their switches,
factors and rate curves, or the vault shares. Nothing changes the settings. So whatever calls are
made by accounts without roles, in whatever order and whatever else happens meanwhile outside the
pool, none of all this changes. -/
theorem changes_need_permission (pool : Pool O V N) :
    (∀ call permission, ¬ pool.state.Keeps (pool.execute call).2.state permission →
      pool.state.roles.hasPermission call.caller permission = true) ∧
    (∀ call, (pool.execute call).2.state.store.settings = pool.state.store.settings) ∧
    ∀ moves : List (Move O V N),
      (∀ call, .call call ∈ moves → pool.state.roles.rolesOf call.caller = []) →
        (∀ permission, pool.state.Keeps (pool.follow moves).state permission) ∧
        (pool.follow moves).state.store.settings = pool.state.store.settings := by
  refine ⟨?_, ?_, ?_⟩
  · intro call permission hchanged
    by_contra hlacks
    exact hchanged (execute_keeps call (Bool.eq_false_of_not_eq_true hlacks))
  · intro call
    exact after_settings (.call call)
  · intro moves hroles
    exact ⟨follow_keeps hroles, pool.follow_settings moves⟩

end Pool

namespace SmallMarket

/-- The borrower, who holds no role, asks for a role and for other terms of the reserve, the
collateral, the vault and the pause, and repays its loan twenty years later. -/
def meddling : List (Move PriceFeeds NoVault FlatVenue) :=
  [.call ⟨borrower, 0, .operator (.grantRole borrower .admin)⟩,
    .call ⟨borrower, 0, .operator (.setReserveFactor coin 0)⟩,
    .call ⟨borrower, 0, .operator (.setCollateralFrozen art true)⟩,
    .call ⟨borrower, 0, .operator (.setVaultShare coin 10000)⟩,
    .call ⟨borrower, 0, .operator (.setPause true)⟩,
    .fund coin borrower 1000,
    .call ⟨borrower, 20 * year, .user (.repay ⟨art, 1⟩ maxAmount)⟩]

/-- The repayment goes through, but none of the rest. The founder, who is administrator, can set
the factor. -/
theorem meddling_in_vain :
    (lent.follow meddling).state.store.loans.openLoan? ⟨art, 1⟩ = none ∧
    (∀ permission, lent.state.Keeps (lent.follow meddling).state permission) ∧
    lent.state.roles.hasPermission founder .configureReserve = true := by
  have hroles : ∀ call, .call call ∈ meddling → lent.state.roles.rolesOf call.caller = [] := by
    have hborrower : lent.state.roles.rolesOf borrower = [] := by decide +kernel
    intro call hmem
    have hcaller : call.caller = borrower := by
      simp only [meddling, List.mem_cons, Move.call.injEq, reduceCtorEq, List.not_mem_nil, or_false,
        false_or] at hmem
      rcases hmem with rfl | rfl | rfl | rfl | rfl | rfl <;> rfl
    rw [hcaller]
    exact hborrower
  have hrepaid : (lent.follow meddling).state.store.loans.openLoan? ⟨art, 1⟩ = none := by
    decide +kernel
  refine ⟨hrepaid, ((Pool.changes_need_permission lent).2.2 meddling hroles).1, ?_⟩
  let setting : Call := ⟨founder, 0, .operator (.setReserveFactor coin 0)⟩
  refine (Pool.changes_need_permission lent).1 setting .configureReserve fun hkept => ?_
  have hset : ¬ (lent.execute setting).2.state.store.ledger.setupOf coin =
      lent.state.store.ledger.setupOf coin := by
    decide +kernel
  exact hset (hkept coin)

end SmallMarket

end PooledCredit
