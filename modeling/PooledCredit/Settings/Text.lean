import PooledCredit.Settings.Basic
import PooledCredit.Text.Json

/-!
# Settings as text

Settings can be given as a JSON text: an object with any of the fields, or an array of the first
few fields in order. A field that is missing keeps its default, a member with another name is
passed over, and a field that is given twice is an error. Accounts are arrays of 32 bytes.
-/

namespace PooledCredit

namespace Settings

/-- An account spelled as an array of exactly 32 bytes. -/
def accountOfJson? : Json → Option Account
  | .array items => do
    Id.ofBytes? (← items.mapM fun item => (item.natural? 256).map UInt8.ofNat)
  | _ => none

/-- A field of the settings: its name, and how to set it from a value. -/
structure Field where
  name : String
  set : Settings → Json → Option Settings

/-- The fields in order. -/
def fields : List Field :=
  [⟨"pool_account", fun s v => do return { s with poolAccount := ← accountOfJson? v }⟩,
    ⟨"treasury", fun s v => do return { s with treasury := ← accountOfJson? v }⟩,
    ⟨"max_price_age", fun s v => do return { s with maxPriceAge := ← v.natural? clockBound }⟩,
    ⟨"debt_dust", fun s v => do return { s with debtDust := ← v.natural? amountBound }⟩,
    ⟨"min_bid_increment_bps", fun s v => do
      return { s with bidIncrement := ← v.natural? clockBound }⟩,
    ⟨"max_redeem_bps", fun s v => do
      return { s with maxRedeemShare := ← v.natural? clockBound }⟩,
    ⟨"debt_market_min_increment_bps", fun s v => do
      return { s with debtBidIncrement := ← v.natural? clockBound }⟩,
    ⟨"debt_market_max_auction", fun s v => do
      return { s with maxDebtAuction := ← v.natural? clockBound }⟩]

/-- Sets one member; returns the fields that may still be given. -/
def setMember (left : List Field) (settings : Settings) (name : String) (value : Json) :
    Option (List Field × Settings) :=
  match left.find? fun field => field.name == name with
  | some field => do
    return (left.filter fun other => other.name != name, ← field.set settings value)
  | none =>
    if fields.any fun field => field.name == name then none else some (left, settings)

/-- Sets the members of an object one after the other. -/
def setMembers : List Field → Settings → List (List Char × Json) → Option Settings
  | _, settings, [] => some settings
  | left, settings, (raw, value) :: members => do
    let name ← Json.unescape raw
    let (left, settings) ← setMember left settings (String.ofList name) value
    setMembers left settings members

/-- Sets the first fields to the items of an array. -/
def setItems : List Field → Settings → List Json → Option Settings
  | _, settings, [] => some settings
  | [], _, _ :: _ => none
  | field :: left, settings, item :: items => do
    setItems left (← field.set settings item) items

/-- The settings that a JSON text gives. They are not validated. -/
def ofJson? (text : String) : Option Settings :=
  match Json.ofText? text with
  | some (.object members) => setMembers fields {} members
  | some (.array items) => setItems fields {} items
  | _ => none

end Settings

end PooledCredit
