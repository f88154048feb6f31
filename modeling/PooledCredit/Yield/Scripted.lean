import PooledCredit.Yield.Vault

/-!
# A scripted vault

A vault whose answers are laid down in advance: a list of withdrawals to give, a fixed report,
and whether it takes deposits. It stands in for an arbitrary outside strategy, including one
that fails or breaks off.
-/

namespace PooledCredit

/-- One answer of a scripted vault to a withdrawal. -/
inductive ScriptedAnswer where
  /-- The withdrawal gives this. -/
  | give (withdrawal : Withdrawal)
  /-- The withdrawal fails. -/
  | fail
  /-- The vault breaks off in the middle of the request. -/
  | breakOff
deriving DecidableEq

/-- A vault whose answers are laid down in advance. -/
structure ScriptedVault where
  /-- The answers to the withdrawals to come. -/
  answers : List ScriptedAnswer
  /-- What every report says. -/
  reported : VaultReport
  /-- Whether deposits fail. -/
  depositFails : Bool
deriving DecidableEq

namespace ScriptedVault

/-- The failure of a scripted strategy. -/
def failure : Refusal := .venueFailed "strategy failed"

instance : Vault ScriptedVault where
  place vault _ _ := if vault.depositFails then refuse failure else .ok vault
  release vault _ _ :=
    match vault.answers with
    | [] => .ok (⟨0, 0⟩, vault)
    | .give withdrawal :: rest => .ok (withdrawal, { vault with answers := rest })
    | .fail :: _ => refuse failure
    | .breakOff :: _ => PooledCredit.breakOff (.collaborator "strategy fault")
  report vault _ := vault.reported

end ScriptedVault

end PooledCredit
