import PooledCredit.Pool.State

/-!
# The pool

The pool carries out one action at a time, wholly or not at all. An action runs on working
copies; if it succeeds, the transfers it asks for are carried out in custody, the copies take
effect and its events are added to the log. If it is refused, nothing changes. If it breaks off,
nothing takes effect, but the pool stays busy and refuses every action from then on.
-/

namespace PooledCredit

/-- An action of a user or of an operator. -/
inductive Action where
  | user (action : UserAction)
  | operator (action : OperatorAction)
deriving DecidableEq

/-- An action that an account asks for at a moment. -/
structure Call where
  caller : Account
  now : Nat
  action : Action
deriving DecidableEq

/-- A pool with its price source, its vault and its venue. -/
structure Pool (O V N : Type) where
  prices : O
  state : PoolState
  vault : V
  venue : N
  /-- Whether an action is under way; it stays so when an action breaks off. -/
  busy : Bool
  /-- The events of all committed actions. -/
  log : EventLog
deriving DecidableEq

namespace Pool

variable {O V N : Type}

/-- What an action that is to be committed leaves behind. -/
structure Commit (V N : Type) where
  reply : Reply
  state : PoolState
  vault : V
  venue : N
  effects : Effects

variable [PriceSource O] [Vault V] [Venue N]

/-- A new pool whose founder is its administrator. -/
def create (prices : O) (vault : V) (venue : N) (founder : Account) (settings : Settings)
    (now : Nat) : Result (Pool O V N) := do
  require (Venue.account venue ≠ settings.poolAccount)
    (.configInvalid "venue account is the pool account")
  let store ← Store.create settings
  return {
    prices
    state := { store, roles := RoleRegister.found founder now, pause := {}, custody := {} }
    vault
    venue
    busy := false
    log := [] }

/-- Runs the action of a call on working copies, without carrying out its transfers. -/
def run (pool : Pool O V N) (call : Call) : Result (Commit V N) :=
  match call.action with
  | .user action => do
    pool.state.pause.requireRunning
    let (reply, facility, effects) ←
      action.run pool.prices ⟨pool.state.store, pool.vault, pool.venue⟩ call.caller call.now
    return {
      reply
      state := { pool.state with store := facility.store }
      vault := facility.vault
      venue := facility.venue
      effects }
  | .operator action => do
    let (reply, state, vault, events) ← action.run pool.state pool.vault call.caller call.now
    return { reply, state, vault, venue := pool.venue, effects := { events } }

/-- Runs the action of a call and carries out its transfers on a copy of custody. -/
def attempt (pool : Pool O V N) (call : Call) : Result (Commit V N) := do
  require (pool.busy = false) .busy
  let commit ← pool.run call
  let custody ← commit.state.custody.applyAll commit.effects.transfers
  return { commit with state := { commit.state with custody } }

/-- Carries out a call wholly or not at all. -/
def execute (pool : Pool O V N) (call : Call) : Result Reply × Pool O V N :=
  match pool.attempt call with
  | .ok commit =>
    (.ok commit.reply,
      { pool with
        state := commit.state
        vault := commit.vault
        venue := commit.venue
        log := pool.log ++ commit.effects.events })
  | .error (.refused cause) => (.error (.refused cause), pool)
  | .error (.fault cause) => (.error (.fault cause), { pool with busy := true })

/-- Credits an account with an amount that comes from outside. -/
def fund (pool : Pool O V N) (asset : Asset) (account : Account) (amount : Nat) :
    Result (Pool O V N) := do
  let custody ← pool.state.custody.fund asset account amount
  return { pool with state := { pool.state with custody } }

/-- Records the owner of a token that was made outside. -/
def mint (pool : Pool O V N) (item : Item) (owner : Account) : Pool O V N :=
  { pool with state := { pool.state with custody := pool.state.custody.setOwner item owner } }

end Pool

end PooledCredit
