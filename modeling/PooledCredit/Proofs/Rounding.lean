import Mathlib.Tactic.Linarith
import PooledCredit.Proofs.Results

/-!
# Bounds on rounded quotients

What a successful `mulDiv` says about the exact product: rounding down loses less than one
divisor, rounding up adds less than one divisor.
-/

namespace PooledCredit

variable {a b d c : Nat}

/-- A quotient rounded down is at most the exact one. -/
lemma mulDiv_down_le (h : mulDiv .down a b d = .ok c) : c * d ≤ a * b := by
  obtain ⟨-, -, rfl⟩ := mulDiv_eq_ok.mp h
  exact Nat.div_mul_le_self (a * b) d

/-- A quotient rounded down is less than one short of the exact one. -/
lemma lt_mulDiv_down (h : mulDiv .down a b d = .ok c) : a * b < (c + 1) * d := by
  obtain ⟨hd, -, rfl⟩ := mulDiv_eq_ok.mp h
  exact Nat.lt_mul_of_div_lt (Nat.lt_succ_self _) (Nat.pos_of_ne_zero hd)

/-- A number is at most what its quotient rounded up amounts to. -/
lemma le_divide_up (n : Nat) (hd : 0 < d) : n ≤ Rounding.up.divide n d * d := by
  have hlt : n + d - 1 < ((n + d - 1) / d + 1) * d :=
    Nat.lt_mul_of_div_lt (Nat.lt_succ_self _) hd
  simp only [Rounding.divide]
  rw [Nat.add_mul, Nat.one_mul] at hlt
  omega

/-- A quotient rounded up is at least the exact one. -/
lemma le_mulDiv_up (h : mulDiv .up a b d = .ok c) : a * b ≤ c * d := by
  obtain ⟨hd, -, rfl⟩ := mulDiv_eq_ok.mp h
  exact le_divide_up (a * b) (Nat.pos_of_ne_zero hd)

/-- A quotient rounded up is less than one above the exact one. -/
lemma mulDiv_up_lt (h : mulDiv .up a b d = .ok c) : c * d < a * b + d := by
  obtain ⟨hd, -, rfl⟩ := mulDiv_eq_ok.mp h
  have hpos : 0 < d := Nat.pos_of_ne_zero hd
  have hle : (a * b + d - 1) / d * d ≤ a * b + d - 1 := Nat.div_mul_le_self _ d
  simp only [Rounding.divide]
  omega

/-- Smaller factors have a quotient rounded down that is in range as well and not larger. -/
lemma mulDiv_down_of_le {a' b' c' : Nat} (ha : a ≤ a') (hb : b ≤ b')
    (h : mulDiv .down a' b' d = .ok c') : ∃ c, mulDiv .down a b d = .ok c ∧ c ≤ c' := by
  obtain ⟨hd, hfits, rfl⟩ := mulDiv_eq_ok.mp h
  have hle : Rounding.down.divide (a * b) d ≤ Rounding.down.divide (a' * b') d :=
    Nat.div_le_div_right (Nat.mul_le_mul ha hb)
  exact ⟨_, mulDiv_eq_ok.mpr ⟨hd, hle.trans_lt hfits, rfl⟩, hle⟩

/-- A quotient rounded down does not shrink when the factors grow. -/
lemma mulDiv_down_mono {a' b' c' : Nat} (ha : a ≤ a') (hb : b ≤ b')
    (h : mulDiv .down a b d = .ok c) (h' : mulDiv .down a' b' d = .ok c') : c ≤ c' := by
  obtain ⟨found, hfound, hle⟩ := mulDiv_down_of_le ha hb h'
  rwa [← Except.ok.inj (hfound.symm.trans h)]

/-- Smaller factors have a quotient rounded up that is in range as well and not larger. -/
lemma mulDiv_up_of_le {a' b' c' : Nat} (ha : a ≤ a') (hb : b ≤ b')
    (h : mulDiv .up a' b' d = .ok c') : ∃ c, mulDiv .up a b d = .ok c ∧ c ≤ c' := by
  obtain ⟨hd, hfits, rfl⟩ := mulDiv_eq_ok.mp h
  have hmul : a * b + d - 1 ≤ a' * b' + d - 1 :=
    Nat.sub_le_sub_right (Nat.add_le_add_right (Nat.mul_le_mul ha hb) d) 1
  have hle : Rounding.up.divide (a * b) d ≤ Rounding.up.divide (a' * b') d :=
    Nat.div_le_div_right hmul
  exact ⟨_, mulDiv_eq_ok.mpr ⟨hd, hle.trans_lt hfits, rfl⟩, hle⟩

/-- A quotient rounded up does not shrink when the factors grow. -/
lemma mulDiv_up_mono {a' b' c' : Nat} (ha : a ≤ a') (hb : b ≤ b')
    (h : mulDiv .up a b d = .ok c) (h' : mulDiv .up a' b' d = .ok c') : c ≤ c' := by
  obtain ⟨found, hfound, hle⟩ := mulDiv_up_of_le ha hb h'
  rwa [← Except.ok.inj (hfound.symm.trans h)]

/-- A positive product has a positive quotient when it is rounded up. -/
lemma mulDiv_up_pos (h : mulDiv .up a b d = .ok c) (hab : 0 < a * b) : 0 < c := by
  have hle := le_mulDiv_up h
  rcases Nat.eq_zero_or_pos c with rfl | hc
  · rw [Nat.zero_mul] at hle
    omega
  · exact hc

end PooledCredit
