/-!
# Byte strings of fixed width

Whole numbers are written in a fixed number of bytes, least significant byte first.
`Bytes.ofNat` writes, `Bytes.toNat` reads, and a number below `Bytes.span width` is read back
unchanged.
-/

namespace PooledCredit

/-- A string of bytes. -/
abbrev Bytes := List UInt8

namespace Bytes

/-- How many numbers the given count of bytes can spell. -/
def span : Nat → Nat
  | 0 => 1
  | width + 1 => 256 * span width

/-- The lowest `width` bytes of a number, least significant byte first. -/
def ofNat : Nat → Nat → Bytes
  | 0, _ => []
  | width + 1, n => UInt8.ofNat (n % 256) :: ofNat width (n / 256)

/-- The number that a byte string spells, least significant byte first. -/
def toNat : Bytes → Nat
  | [] => 0
  | b :: rest => b.toNat + 256 * toNat rest

/-- Takes exactly `width` bytes off the front, or fails when there are fewer. -/
def split? : Nat → Bytes → Option (Bytes × Bytes)
  | 0, bytes => some ([], bytes)
  | _ + 1, [] => none
  | width + 1, b :: rest => (split? width rest).map fun (taken, left) => (b :: taken, left)

@[simp]
theorem length_ofNat (width n : Nat) : (ofNat width n).length = width := by
  induction width generalizing n with
  | zero => rfl
  | succ width ih => simp [ofNat, ih]

theorem toNat_ofNat (width n : Nat) : toNat (ofNat width n) = n % span width := by
  induction width generalizing n with
  | zero => simp [ofNat, toNat, span, Nat.mod_one]
  | succ width ih =>
    rw [ofNat, toNat, ih, span, Nat.mod_mul]
    simp [UInt8.toNat_ofNat']

theorem toNat_lt (bytes : Bytes) : toNat bytes < span bytes.length := by
  induction bytes with
  | nil => simp [toNat, span]
  | cons b rest ih =>
    have hb : b.toNat < 256 := b.toNat_lt
    rw [toNat, List.length_cons, span]
    omega

theorem ofNat_toNat (bytes : Bytes) : ofNat bytes.length (toNat bytes) = bytes := by
  induction bytes with
  | nil => rfl
  | cons b rest ih =>
    have hb : b.toNat < 256 := b.toNat_lt
    have hmod : (b.toNat + 256 * toNat rest) % 256 = b.toNat := by omega
    have hdiv : (b.toNat + 256 * toNat rest) / 256 = toNat rest := by omega
    simp [ofNat, toNat, hmod, hdiv, ih]

end Bytes

end PooledCredit
