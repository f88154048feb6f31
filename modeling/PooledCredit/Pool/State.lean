import PooledCredit.Custody
import PooledCredit.Governance.Pause
import PooledCredit.Pool.Action

/-!
# Operator actions

Everything that an action of the pool may change, and what an operator of the pool can ask for.
Every operator action asks for a permission first.
-/

namespace PooledCredit

/-- Everything that an action may change, apart from the vault and the venue. -/
structure PoolState where
  store : Store
  roles : RoleRegister
  pause : PauseSwitch
  custody : Custody
deriving DecidableEq

/-- What an operator can ask of the pool. -/
inductive OperatorAction where
  | setPause (paused : Bool)
  | grantRole (account : Account) (role : Role)
  | revokeRole (account : Account) (role : Role)
  | configureCollateral (collection : Collection) (token : Option Nat) (terms : CollateralTerms)
  | setCollateralActive (collection : Collection) (active : Bool)
  | setCollateralFrozen (collection : Collection) (frozen : Bool)
  | registerWrapper (collection wrapped : Collection)
  | openReserve (asset : Asset) (terms : ReserveTerms)
  | setReserveFlags (asset : Asset) (active frozen borrowing : Bool)
  | setReserveFactor (asset : Asset) (bps : Nat)
  | setRateModel (asset : Asset) (model : RateModel)
  | setVaultShare (asset : Asset) (bps : Nat)
  | rebalance (asset : Asset)
deriving DecidableEq

namespace PoolState

/-- Replaces the reserve ledger. -/
def setLedger (state : PoolState) (ledger : Ledger) : PoolState :=
  { state with store := { state.store with ledger } }

/-- Replaces the collateral registry. -/
def setCollateral (state : PoolState) (collateral : CollateralRegistry) : PoolState :=
  { state with store := { state.store with collateral } }

/-- The event that tells the switches of a collection. -/
def collateralSwitched (state : PoolState) (collection : Collection) (now : Nat) :
    Result Event := do
  let config ← state.store.collateral.config ⟨collection, 0⟩
  return .collateralSwitched collection config.active config.frozen now

/-- The event that tells the switches and the factor of a reserve. -/
def reserveConfigured (state : PoolState) (asset : Asset) (now : Nat) : Result Event := do
  let reserve ← state.store.ledger.reserve asset
  return .reserveConfigured asset reserve.active reserve.frozen reserve.borrowing reserve.factor
    now

end PoolState

namespace OperatorAction

/-- The permission that an action asks for. -/
def permission : OperatorAction → Permission
  | setPause .. => .pause
  | grantRole .. | revokeRole .. => .grantRole
  | configureCollateral .. | setCollateralActive .. | setCollateralFrozen ..
  | registerWrapper .. => .configureCollateral
  | openReserve .. | setReserveFlags .. | setReserveFactor .. | setRateModel .. =>
    .configureReserve
  | setVaultShare .. | rebalance .. => .manageVault

variable {V : Type} [Vault V]

/-- Runs an operator action of a caller at a moment. -/
def run (action : OperatorAction) (state : PoolState) (vault : V) (caller : Account)
    (now : Nat) : Result (Reply × PoolState × V × EventLog) := do
  state.roles.requirePermission caller action.permission
  let store := state.store
  match action with
  | setPause paused =>
    let pause ←
      if paused then state.pause.pause caller now else state.pause.lift caller now
    let event : Event := if paused then .paused caller now else .unpaused caller now
    return (.done, { state with pause }, vault, [event])
  | grantRole account role =>
    let roles ← state.roles.grant caller account role now
    return (.done, { state with roles }, vault, [.roleGranted account role caller now])
  | revokeRole account role =>
    let roles ← state.roles.revoke caller account role now
    return (.done, { state with roles }, vault, [.roleRevoked account role caller now])
  | configureCollateral collection token terms =>
    let collateral ← store.collateral.configure collection token terms
      (store.loans.openCount collection) now
    return (.done, state.setCollateral collateral, vault,
      [.termsSet collection token terms.ltv terms.threshold terms.bonus now])
  | setCollateralActive collection active =>
    let collateral ← store.collateral.setActive collection active
      (store.loans.openCount collection) now
    let state := state.setCollateral collateral
    return (.done, state, vault, [← state.collateralSwitched collection now])
  | setCollateralFrozen collection frozen =>
    let state := state.setCollateral (← store.collateral.setFrozen collection frozen now)
    return (.done, state, vault, [← state.collateralSwitched collection now])
  | registerWrapper collection wrapped =>
    let wrappers ← store.wrappers.register collection wrapped
    return (.done, { state with store := { store with wrappers } }, vault, [])
  | openReserve asset terms =>
    let state := state.setLedger (← store.ledger.openReserve asset terms now)
    return (.done, state, vault,
      [.reserveOpened asset terms.decimals now, ← state.store.reserveUpdate asset now])
  | setReserveFlags asset active frozen borrowing =>
    let state := state.setLedger (← store.ledger.setFlags asset active frozen borrowing)
    return (.done, state, vault, [← state.reserveConfigured asset now])
  | setReserveFactor asset bps =>
    let state := state.setLedger (← store.ledger.setFactor asset bps now)
    return (.done, state, vault,
      [← state.reserveConfigured asset now, ← state.store.reserveUpdate asset now])
  | setRateModel asset model =>
    let state := state.setLedger (← store.ledger.setModel asset model now)
    return (.done, state, vault, [← state.store.reserveUpdate asset now])
  | setVaultShare asset bps =>
    return (.done, state.setLedger (← store.ledger.setVaultShare asset bps), vault, [])
  | rebalance asset =>
    let (_, ledger) ← store.ledger.accrue asset now
    let (movement, ledger, vault) ← ledger.rebalance vault asset
    let state := state.setLedger ledger
    return (.moved movement, state, vault,
      movement.events asset now ++ [← state.store.reserveUpdate asset now])

end OperatorAction

end PooledCredit
