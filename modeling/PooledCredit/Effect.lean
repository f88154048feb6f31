import PooledCredit.Event

/-!
# Effects

A request never moves value itself. It says which transfers it asks for and which events it
leaves; both take effect only once the request has succeeded. A transfer of nothing, or from an
account to itself, is not asked for at all.
-/

namespace PooledCredit

/-- A movement of value that a request asks for. -/
inductive Transfer where
  /-- An amount of an asset goes from one account to another. -/
  | pay (asset : Asset) (source target : Account) (amount : Nat)
  /-- A token goes from one account to another. -/
  | hand (item : Item) (source target : Account)
  /-- A wrapped token comes into being. -/
  | mint (item : Item) (target : Account)
  /-- A wrapped token ceases to be, whoever holds it. -/
  | burn (item : Item)
deriving DecidableEq

namespace Transfer

/-- The payment of an amount: none for nothing or to the payer itself. -/
def payment (asset : Asset) (source target : Account) (amount : Nat) : List Transfer :=
  if amount = 0 ∨ source = target then [] else [pay asset source target amount]

/-- The handing over of a token: none to the account that hands it over. -/
def handover (item : Item) (source target : Account) : List Transfer :=
  if source = target then [] else [hand item source target]

/-- Accepts a signed number of 128 bits; it is the given fault when the number is out of range. -/
def fitSigned (n : Int) (cause : Fault) : Result Int :=
  let bound : Int := amountBound / 2
  if -bound ≤ n ∧ n < bound then .ok n else breakOff cause

/-- Adds to a sum what a transfer adds to an account's holding of an asset, when amounts are read as
signed numbers of 128 bits. -/
def addFlow (asset : Asset) (account : Account) (sum : Int) : Transfer → Result Int
  | pay asset' source target amount =>
    let amount := (amount : Int).bmod amountBound
    if asset' = asset ∧ source = account ∧ target ≠ account then
      fitSigned (sum - amount) .subtraction
    else if asset' = asset ∧ source ≠ account ∧ target = account then
      fitSigned (sum + amount) .addition
    else .ok sum
  | _ => .ok sum

end Transfer

/-- The transfers and events of a request, in order. -/
structure Effects where
  transfers : List Transfer := []
  events : EventLog := []
deriving DecidableEq, Inhabited

namespace Effects

/-- Asks for further transfers. -/
def ask (effects : Effects) (transfers : List Transfer) : Effects :=
  { effects with transfers := effects.transfers ++ transfers }

/-- Leaves a further event. -/
def emit (effects : Effects) (event : Event) : Effects :=
  { effects with events := effects.events ++ [event] }

/-- What all transfers together add to an account's holding of an asset. -/
def netFlow (effects : Effects) (asset : Asset) (account : Account) : Result Int :=
  effects.transfers.foldlM (Transfer.addFlow asset account) 0

end Effects

end PooledCredit
