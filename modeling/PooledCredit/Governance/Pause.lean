import PooledCredit.FixedPoint

/-!
# The pause switch

While the pool is paused its users can do nothing; its operators still can. Every pause is kept
as a record that is closed when the pause is lifted.
-/

namespace PooledCredit

/-- One pause of the pool. -/
structure PauseRecord where
  pausedBy : Account
  pausedAt : Nat
  /-- Who lifted the pause, once it is lifted. -/
  liftedBy : Option Account
  /-- When the pause was lifted, once it is lifted. -/
  liftedAt : Option Nat
deriving DecidableEq

/-- Whether the pool is paused, and its past pauses, oldest first. -/
structure PauseSwitch where
  paused : Bool := false
  history : List PauseRecord := []
  updatedAt : Nat := 0
deriving DecidableEq, Inhabited

namespace PauseRecord

/-- Closes a record. -/
def lift (record : PauseRecord) (account : Account) (now : Nat) : PauseRecord :=
  { record with liftedBy := some account, liftedAt := some now }

/-- The seconds that a pause lasted, or has lasted up to now when it is not lifted. -/
def duration (record : PauseRecord) (now : Nat) : Nat :=
  record.liftedAt.getD now - record.pausedAt

/-- Closes the first record that is still open. -/
def liftFirst (account : Account) (now : Nat) : List PauseRecord → List PauseRecord
  | [] => []
  | record :: rest =>
    if record.liftedAt.isNone then record.lift account now :: rest
    else record :: liftFirst account now rest

end PauseRecord

namespace PauseSwitch

/-- Goes on only if the pool is not paused. -/
def requireRunning (switch : PauseSwitch) : Result Unit := require (switch.paused = false) .paused

/-- Pauses a pool that is running. -/
def pause (switch : PauseSwitch) (account : Account) (now : Nat) : Result PauseSwitch := do
  require (switch.paused = false) (.inputInvalid "paused" "already paused")
  return {
    paused := true
    history := switch.history ++ [⟨account, now, none, none⟩]
    updatedAt := now }

/-- Lifts the pause of a paused pool and closes the latest open record. -/
def lift (switch : PauseSwitch) (account : Account) (now : Nat) : Result PauseSwitch := do
  require (switch.paused = true) (.inputInvalid "paused" "not paused")
  return {
    paused := false
    history := (PauseRecord.liftFirst account now switch.history.reverse).reverse
    updatedAt := now }

/-- The seconds that the pool has spent paused, up to now. -/
def totalPaused (switch : PauseSwitch) (now : Nat) : Result Nat :=
  switch.history.foldlM (fun total record => bareAdd clockBound total (record.duration now)) 0

end PauseSwitch

end PooledCredit
