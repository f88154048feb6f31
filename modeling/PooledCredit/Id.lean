import PooledCredit.Bytes

/-!
# Identifiers

Accounts, assets, collections and listings are named by 32-byte identifiers. An identifier is
held as the number its bytes spell, most significant byte first, so the numeric order of
identifiers is the lexicographic order of their bytes.

A collateral item is a collection together with a token number; items are ordered by
collection first.
-/

namespace PooledCredit

/-- A 32-byte identifier. -/
structure Id where
  /-- The number spelled by the bytes, most significant byte first. -/
  val : Nat
  val_lt : val < Bytes.span 32 := by decide
deriving DecidableEq

namespace Id

/-- The identifier made of 32 zero bytes; it names no account. -/
def zero : Id := { val := 0 }

/-- The identifier that repeats one byte 32 times. -/
def fill (b : UInt8) : Id where
  val := b.toNat * ((Bytes.span 32 - 1) / 255)
  val_lt := by
    have hb : b.toNat < 256 := b.toNat_lt
    calc b.toNat * ((Bytes.span 32 - 1) / 255)
        ≤ 255 * ((Bytes.span 32 - 1) / 255) := Nat.mul_le_mul_right _ (by omega)
      _ < Bytes.span 32 := by decide

/-- The identifier spelled by the lowest 32 bytes of a number. -/
def ofNat (n : Nat) : Id where
  val := n % Bytes.span 32
  val_lt := Nat.mod_lt _ (by decide)

/-- The 32 bytes, most significant first. -/
def bytes (a : Id) : Bytes := (Bytes.ofNat 32 a.val).reverse

/-- Reads an identifier from exactly 32 bytes. -/
def ofBytes? (bytes : Bytes) : Option Id :=
  if h : bytes.length = 32 then
    some ⟨Bytes.toNat bytes.reverse, by simpa [h] using Bytes.toNat_lt bytes.reverse⟩
  else
    none

/-- The bytes in decimal, separated by commas, in square brackets. -/
def text (a : Id) : String :=
  "[" ++ ", ".intercalate (a.bytes.map fun b => toString b.toNat) ++ "]"

instance : Ord Id := ⟨compareOn Id.val⟩

instance : Std.TransOrd Id := inferInstanceAs (Std.TransCmp (compareOn Id.val))

instance : Std.LawfulEqOrd Id where
  compare_self := Std.compare_self (α := Nat)
  eq_of_compare {a b} h := by
    have hval : a.val = b.val := Nat.compare_eq_eq.mp h
    cases a
    cases b
    simp_all

@[simp]
theorem length_bytes (a : Id) : a.bytes.length = 32 := by simp [bytes]

@[simp]
theorem ofBytes?_bytes (a : Id) : ofBytes? a.bytes = some a := by
  have hval : Bytes.toNat a.bytes.reverse = a.val := by
    simp only [bytes, List.reverse_reverse, Bytes.toNat_ofNat, Nat.mod_eq_of_lt a.val_lt]
  simp [ofBytes?, hval]

theorem bytes_of_ofBytes? {bytes : Bytes} {a : Id} (h : ofBytes? bytes = some a) :
    a.bytes = bytes := by
  unfold ofBytes? at h
  split at h
  · next hlen =>
    cases h
    have := Bytes.ofNat_toNat bytes.reverse
    simp only [List.length_reverse, hlen] at this
    simp [Id.bytes, this]
  · cases h

end Id

/-- An account that holds balances, tokens, debts or roles. -/
abbrev Account := Id

/-- A fungible asset that can be lent. -/
abbrev Asset := Id

/-- A collection of collateral tokens. -/
abbrev Collection := Id

/-- The name of a debt listing. -/
abbrev ListingId := Id

/-- The number of a loan; numbers grow and are never reused. -/
abbrev LoanId := Nat

/-- A single token that can serve as collateral. -/
structure Item where
  collection : Collection
  token : Nat
deriving DecidableEq

namespace Item

instance : Ord Item := ⟨compareLex (compareOn Item.collection) (compareOn Item.token)⟩

instance : Std.TransOrd Item :=
  inferInstanceAs (Std.TransCmp (compareLex (compareOn Item.collection) (compareOn Item.token)))

instance : Std.LawfulEqOrd Item where
  compare_self := Std.ReflOrd.compare_self
  eq_of_compare {a b} h := by
    obtain ⟨hc, ht⟩ := compareLex_eq_eq.mp h
    have hc : a.collection = b.collection := Std.LawfulEqOrd.eq_of_compare hc
    have ht : a.token = b.token := Nat.compare_eq_eq.mp ht
    cases a
    cases b
    simp_all

end Item

end PooledCredit
