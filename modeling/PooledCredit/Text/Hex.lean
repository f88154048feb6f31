import PooledCredit.Id

/-!
# Hexadecimal text

Byte strings are told as pairs of lower-case hexadecimal digits. An identifier is told by its 32
bytes, or by a single byte when they are all equal.
-/

namespace PooledCredit

namespace Bytes

/-- The two hexadecimal digits of every byte. -/
def hex (bytes : Bytes) : String :=
  String.ofList (bytes.flatMap fun b =>
    [Nat.digitChar (b.toNat / 16), Nat.digitChar (b.toNat % 16)])

/-- The value of a hexadecimal digit, in lower or upper case. -/
def hexDigit? (c : Char) : Option Nat :=
  if '0' ≤ c ∧ c ≤ '9' then some (c.toNat - '0'.toNat)
  else if 'a' ≤ c ∧ c ≤ 'f' then some (c.toNat - 'a'.toNat + 10)
  else if 'A' ≤ c ∧ c ≤ 'F' then some (c.toNat - 'A'.toNat + 10)
  else none

/-- The bytes that pairs of hexadecimal digits spell. -/
def ofHexDigits? : List Char → Option Bytes
  | [] => some []
  | [_] => none
  | high :: low :: rest => do
    return UInt8.ofNat ((← hexDigit? high) * 16 + (← hexDigit? low)) :: (← ofHexDigits? rest)

/-- The bytes that a hexadecimal text spells. -/
def ofHex? (text : String) : Option Bytes := ofHexDigits? text.toList

end Bytes

namespace Id

/-- The identifier in hexadecimal, as one byte when all its bytes are equal. -/
def hex (a : Id) : String :=
  match a.bytes with
  | [] => ""
  | b :: rest => if rest.all (· == b) then Bytes.hex [b] else Bytes.hex (b :: rest)

/-- The identifier that a hexadecimal text of 32 bytes, or of one byte, spells. -/
def ofHex? (text : String) : Option Id := do
  match ← Bytes.ofHex? text with
  | [b] => some (fill b)
  | bytes => ofBytes? bytes

end Id

end PooledCredit
