import PooledCredit.FixedPoint

/-!
# Roles and permissions

Privileged requests ask for a permission, and each role carries a fixed set of permissions. The
register remembers who was given which role. The account that set the register up always keeps
the administrator's role.
-/

namespace PooledCredit

/-- What a privileged request asks for. -/
inductive Permission where
  | configureReserve
  | manageVault
  | grantRole
  | pause
  | configureCollateral
  | updatePrice
deriving DecidableEq, Repr

/-- A role that an account can hold. -/
inductive Role where
  /-- Sets up reserves, places liquidity in the vault, and gives roles. -/
  | admin
  /-- Pauses the pool. -/
  | guardian
  /-- Lays down collateral terms. -/
  | riskManager
  /-- Publishes prices. -/
  | publisher
deriving DecidableEq, Repr

namespace Permission

/-- Every permission, in a fixed order. -/
def all : List Permission :=
  [configureReserve, manageVault, grantRole, pause, configureCollateral, updatePrice]

/-- The name of a permission in messages. -/
def name : Permission → String
  | configureReserve => "configure_reserve"
  | manageVault => "manage_vault"
  | grantRole => "grant_role"
  | pause => "pause"
  | configureCollateral => "configure_collateral"
  | updatePrice => "update_price"

end Permission

namespace Role

/-- The permissions that a role carries. -/
def permissions : Role → List Permission
  | admin => [.configureReserve, .manageVault, .grantRole]
  | guardian => [.pause]
  | riskManager => [.configureCollateral]
  | publisher => [.updatePrice]

/-- Whether a role carries a permission. -/
def grants (role : Role) (permission : Permission) : Bool :=
  decide (permission ∈ role.permissions)

end Role

/-- A role that was given to an account. -/
structure Appointment where
  account : Account
  role : Role
  grantedAt : Nat
  grantedBy : Account
deriving DecidableEq

/-- Who holds which role. -/
structure RoleRegister where
  /-- The account that always keeps the administrator's role. -/
  founder : Account
  /-- The roles now held, oldest first. -/
  appointments : List Appointment
  updatedAt : Nat
deriving DecidableEq

namespace RoleRegister

/-- A register in which the founder is administrator and there is no other role. -/
def found (founder : Account) (now : Nat) : RoleRegister where
  founder := founder
  appointments := [⟨founder, .admin, now, founder⟩]
  updatedAt := now

/-- The roles of an account, oldest first. -/
def rolesOf (register : RoleRegister) (account : Account) : List Role :=
  (register.appointments.filter fun a => a.account == account).map (·.role)

/-- Whether an account holds a role. -/
def hasRole (register : RoleRegister) (account : Account) (role : Role) : Bool :=
  register.appointments.any fun a => a.account == account && a.role == role

/-- Whether an account holds a role that carries a permission. -/
def hasPermission (register : RoleRegister) (account : Account) (permission : Permission) : Bool :=
  register.appointments.any fun a => a.account == account && a.role.grants permission

/-- Goes on only if an account has a permission. -/
def requirePermission (register : RoleRegister) (account : Account) (permission : Permission) :
    Result Unit :=
  require (register.hasPermission account permission = true)
    (.permissionMissing account permission.name)

/-- Adds an appointment without asking who makes it. -/
def appoint (register : RoleRegister) (appointment : Appointment) : RoleRegister :=
  { register with appointments := register.appointments ++ [appointment] }

/-- Gives a role to an account that does not hold it. -/
def grant (register : RoleRegister) (caller account : Account) (role : Role) (now : Nat) :
    Result RoleRegister := do
  register.requirePermission caller .grantRole
  require (account ≠ Id.zero) (.inputInvalid "address" "zero address")
  require (register.hasRole account role = false) (.inputInvalid "role" "already granted")
  return { register.appoint ⟨account, role, now, caller⟩ with updatedAt := now }

/-- Takes a role from an account that holds it. -/
def revoke (register : RoleRegister) (caller account : Account) (role : Role) (now : Nat) :
    Result RoleRegister := do
  register.requirePermission caller .grantRole
  require (¬ (account = register.founder ∧ role = .admin))
    (.unauthorized caller "super admin keeps pool admin")
  require (register.hasRole account role = true) (.inputInvalid "role" "not granted")
  return { register with
    appointments := register.appointments.filter fun a => !(a.account == account && a.role == role)
    updatedAt := now }

end RoleRegister

end PooledCredit
