import Mathlib.Tactic.Lemma
import PooledCredit.SortedMap

/-!
# Totals over a map

`SortedMap.total f m` adds `f` up over the values of a map. Storing or removing one entry
changes a total by what that entry contributes, which is how the totals kept beside a map are
compared with it.
-/

namespace PooledCredit

namespace SortedMap

variable {κ ν : Type} [Ord κ]

/-- The sum of `f` over the values of a list of entries. -/
def sum (f : ν → Nat) : List (κ × ν) → Nat
  | [] => 0
  | e :: rest => f e.2 + sum f rest

/-- The sum of `f` over the values of a map. -/
def total (f : ν → Nat) (m : SortedMap κ ν) : Nat := sum f m.entries

/-- What a total has from the value of a key, which may be missing. -/
def part (f : ν → Nat) (value : Option ν) : Nat := value.elim 0 f

/-- A present value contributes itself. -/
@[simp] lemma part_some (f : ν → Nat) (v : ν) : part f (some v) = f v := rfl

/-- A missing value contributes nothing. -/
@[simp] lemma part_none (f : ν → Nat) : part f none = 0 := rfl

/-- Placing an entry in an ascending list replaces the contribution of its key. -/
lemma sum_place [Std.TransOrd κ] (f : ν → Nat) (k : κ) (v : ν) {l : List (κ × ν)}
    (h : l.Pairwise fun a b => compare a.1 b.1 = .lt) :
    sum f (place k v l) + part f (lookup k l) = sum f l + f v := by
  induction l with
  | nil => simp [place, lookup, sum]
  | cons hd rest ih =>
    obtain ⟨k', v'⟩ := hd
    obtain ⟨hhd, hrest⟩ := List.pairwise_cons.mp h
    unfold place
    split
    · next hlt =>
      -- the key stands before the whole list, so the list does not hold it
      have hnone : lookup k ((k', v') :: rest) = none := by
        refine lookup_eq_none_of_lt fun e he => ?_
        rcases List.mem_cons.mp he with rfl | he
        · exact hlt
        · exact Std.TransCmp.lt_trans hlt (hhd e he)
      rw [hnone]
      simp only [sum, part_none]
      omega
    · next heq =>
      simp only [sum, lookup, heq, if_true, part_some]
      omega
    · next hgt =>
      have ih := ih hrest
      simp only [sum, lookup, hgt, reduceCtorEq, if_false]
      omega

/-- Storing a value replaces the contribution of its key. -/
theorem total_insert [Std.TransOrd κ] (f : ν → Nat) (m : SortedMap κ ν) (k : κ) (v : ν) :
    (m.insert k v).total f + part f (m.get? k) = m.total f + f v :=
  sum_place f k v m.sorted

/-- Filtering a key out of an ascending list takes its contribution away. -/
lemma sum_filter [Std.TransOrd κ] (f : ν → Nat) (k : κ) {l : List (κ × ν)}
    (h : l.Pairwise fun a b => compare a.1 b.1 = .lt) :
    sum f (l.filter fun e => compare k e.1 != .eq) + part f (lookup k l) = sum f l := by
  induction l with
  | nil => simp [lookup]
  | cons hd rest ih =>
    obtain ⟨hhd, hrest⟩ := List.pairwise_cons.mp h
    have ih := ih hrest
    by_cases hk : compare k hd.1 = .eq
    · -- the later keys are all greater, so the key is gone with the head
      have hnone : lookup k rest = none := by
        refine lookup_eq_none_of_lt fun e he => ?_
        exact (Std.TransCmp.congr_left hk).trans (hhd e he)
      rw [hnone] at ih
      simp only [hk, bne_self_eq_false, Bool.false_eq_true, not_false_eq_true,
        List.filter_cons_of_neg, lookup, if_true, part_some, sum]
      simp only [part_none] at ih
      omega
    · simp only [bne_iff_ne, ne_eq, hk, not_false_eq_true, List.filter_cons_of_pos,
        lookup, if_false, sum]
      omega

/-- Removing a key takes its contribution away. -/
theorem total_erase [Std.TransOrd κ] (f : ν → Nat) (m : SortedMap κ ν) (k : κ) :
    (m.erase k).total f + part f (m.get? k) = m.total f :=
  sum_filter f k m.sorted

/-- A single entry contributes at most the total. -/
lemma le_total [Std.TransOrd κ] (f : ν → Nat) {m : SortedMap κ ν} {k : κ} {v : ν}
    (h : m.get? k = some v) : f v ≤ m.total f := by
  have hsum := total_erase f m k
  rw [h, part_some] at hsum
  omega

omit [Ord κ] in
/-- Sums agree when the summands agree on the entries. -/
lemma sum_congr {f g : ν → Nat} {l : List (κ × ν)} (h : ∀ e ∈ l, f e.2 = g e.2) :
    sum f l = sum g l := by
  induction l with
  | nil => rfl
  | cons e rest ih =>
    rw [sum, sum, h e List.mem_cons_self]
    rw [ih fun other hother => h other (List.mem_cons_of_mem e hother)]

/-- Totals agree when the summands agree on the stored values. -/
lemma total_congr [Std.TransOrd κ] {f g : ν → Nat} {m : SortedMap κ ν}
    (h : ∀ k v, m.get? k = some v → f v = g v) : m.total f = m.total g :=
  sum_congr fun e he => h e.1 e.2 (get?_of_mem_entries he)

end SortedMap

end PooledCredit
