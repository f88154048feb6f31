/-!
# Sorted maps

A finite map kept as a list of entries in strictly ascending key order. Because the order is
part of the type, two maps with the same contents are equal, and walking the entries meets the
keys in ascending order.
-/

namespace PooledCredit

/-- A finite map whose entries stand in strictly ascending key order. -/
structure SortedMap (κ ν : Type) [Ord κ] where
  entries : List (κ × ν)
  sorted : entries.Pairwise (fun a b => compare a.1 b.1 = .lt) := by exact .nil

/-- A finite set, kept as the keys of a map. -/
abbrev SortedSet (κ : Type) [Ord κ] := SortedMap κ Unit

namespace SortedMap

variable {κ ν : Type} [Ord κ]

instance [DecidableEq κ] [DecidableEq ν] : DecidableEq (SortedMap κ ν) := fun m m' =>
  decidable_of_iff (m.entries = m'.entries)
    ⟨fun h => by cases m; cases m'; simp_all, fun h => h ▸ rfl⟩

/-- The map without entries. -/
def empty : SortedMap κ ν := { entries := [] }

instance : EmptyCollection (SortedMap κ ν) := ⟨empty⟩

instance : Inhabited (SortedMap κ ν) := ⟨empty⟩

/-- The value an entry list holds for a key. -/
def lookup (k : κ) : List (κ × ν) → Option ν
  | [] => none
  | (k', v) :: rest => if compare k k' = .eq then some v else lookup k rest

/-- Puts an entry at its place in an ascending list, replacing an entry with the same key. -/
def place (k : κ) (v : ν) : List (κ × ν) → List (κ × ν)
  | [] => [(k, v)]
  | (k', v') :: rest =>
    match compare k k' with
    | .lt => (k, v) :: (k', v') :: rest
    | .eq => (k, v) :: rest
    | .gt => (k', v') :: place k v rest

/-- The value stored under a key. -/
def get? (m : SortedMap κ ν) (k : κ) : Option ν := lookup k m.entries

/-- The value stored under a key, or the given value when there is none. -/
def getD (m : SortedMap κ ν) (k : κ) (fallback : ν) : ν := (m.get? k).getD fallback

/-- Whether a key has an entry. -/
def contains (m : SortedMap κ ν) (k : κ) : Bool := (m.get? k).isSome

/-- The keys in ascending order. -/
def keys (m : SortedMap κ ν) : List κ := m.entries.map (·.1)

/-- The values in ascending order of their keys. -/
def values (m : SortedMap κ ν) : List ν := m.entries.map (·.2)

theorem mem_place {k : κ} {v : ν} {e : κ × ν} {l : List (κ × ν)} (h : e ∈ place k v l) :
    e = (k, v) ∨ e ∈ l := by
  induction l with
  | nil => simpa [place] using h
  | cons hd rest ih =>
    obtain ⟨k', v'⟩ := hd
    unfold place at h
    split at h <;> grind

theorem place_sorted [Std.TransOrd κ] (k : κ) (v : ν) {l : List (κ × ν)}
    (h : l.Pairwise (fun a b => compare a.1 b.1 = .lt)) :
    (place k v l).Pairwise (fun a b => compare a.1 b.1 = .lt) := by
  induction l with
  | nil => simp [place]
  | cons hd rest ih =>
    obtain ⟨k', v'⟩ := hd
    obtain ⟨hhd, hrest⟩ := List.pairwise_cons.mp h
    unfold place
    split
    · next hlt =>
      refine List.pairwise_cons.mpr ⟨fun e he => ?_, h⟩
      rcases List.mem_cons.mp he with rfl | he
      · exact hlt
      · exact Std.TransCmp.lt_trans hlt (hhd e he)
    · next heq =>
      refine List.pairwise_cons.mpr ⟨fun e he => ?_, hrest⟩
      exact (Std.TransCmp.congr_left heq).trans (hhd e he)
    · next hgt =>
      refine List.pairwise_cons.mpr ⟨fun e he => ?_, ih hrest⟩
      rcases mem_place he with rfl | he
      · exact Std.OrientedCmp.gt_iff_lt.mp hgt
      · exact hhd e he

/-- Stores a value under a key, replacing what was there. -/
def insert [Std.TransOrd κ] (m : SortedMap κ ν) (k : κ) (v : ν) : SortedMap κ ν :=
  ⟨place k v m.entries, place_sorted k v m.sorted⟩

/-- Removes the entry of a key, if there is one. -/
def erase (m : SortedMap κ ν) (k : κ) : SortedMap κ ν :=
  ⟨m.entries.filter (fun e => compare k e.1 != .eq), m.sorted.filter _⟩

/-- Collects entries given in any order; the last entry of a key wins. -/
def ofList [Std.TransOrd κ] (l : List (κ × ν)) : SortedMap κ ν :=
  l.foldl (fun m e => m.insert e.1 e.2) empty

/-! ### Looking up -/

@[simp]
theorem get?_empty (k : κ) : (empty : SortedMap κ ν).get? k = none := rfl

theorem lookup_place_self [Std.TransOrd κ] (k : κ) (v : ν) (l : List (κ × ν)) :
    lookup k (place k v l) = some v := by
  induction l with
  | nil => simp [place, lookup]
  | cons hd rest ih =>
    obtain ⟨k', v'⟩ := hd
    unfold place
    split
    · simp [lookup]
    · simp [lookup]
    · next hgt => simp [lookup, hgt, ih]

theorem lookup_place_of_ne [Std.TransOrd κ] [Std.LawfulEqOrd κ] {k k' : κ} (h : k' ≠ k) (v : ν)
    (l : List (κ × ν)) : lookup k' (place k v l) = lookup k' l := by
  have hne : compare k' k ≠ .eq := fun e => h (Std.LawfulEqOrd.eq_of_compare e)
  induction l with
  | nil => simp [place, lookup, hne]
  | cons hd rest ih =>
    obtain ⟨k₀, v₀⟩ := hd
    unfold place
    split
    · simp [lookup, hne]
    · next heq =>
      obtain rfl := Std.LawfulEqOrd.eq_of_compare heq
      simp [lookup, hne]
    · simp [lookup, ih]

@[simp]
theorem get?_insert_self [Std.TransOrd κ] (m : SortedMap κ ν) (k : κ) (v : ν) :
    (m.insert k v).get? k = some v := lookup_place_self k v m.entries

theorem get?_insert_of_ne [Std.TransOrd κ] [Std.LawfulEqOrd κ] (m : SortedMap κ ν) {k k' : κ}
    (h : k' ≠ k) (v : ν) : (m.insert k v).get? k' = m.get? k' :=
  lookup_place_of_ne h v m.entries

theorem get?_insert [Std.TransOrd κ] [Std.LawfulEqOrd κ] [DecidableEq κ] (m : SortedMap κ ν)
    (k k' : κ) (v : ν) : (m.insert k v).get? k' = if k' = k then some v else m.get? k' := by
  by_cases h : k' = k
  · subst h
    simp
  · simp [h, get?_insert_of_ne m h v]

theorem lookup_filter_self (k : κ) (l : List (κ × ν)) :
    lookup k (l.filter (fun e => compare k e.1 != .eq)) = none := by
  induction l with
  | nil => rfl
  | cons hd rest ih =>
    by_cases h : compare k hd.1 = .eq
    · simp [h, ih]
    · simp [h, lookup, ih]

theorem lookup_filter_of_ne [Std.LawfulEqOrd κ] {k k' : κ} (h : k' ≠ k) (l : List (κ × ν)) :
    lookup k' (l.filter (fun e => compare k e.1 != .eq)) = lookup k' l := by
  induction l with
  | nil => rfl
  | cons hd rest ih =>
    by_cases he : compare k hd.1 = .eq
    · obtain rfl := Std.LawfulEqOrd.eq_of_compare he
      have hne : compare k' hd.1 ≠ .eq := fun e => h (Std.LawfulEqOrd.eq_of_compare e)
      simp [lookup, hne, ih]
    · simp [he, lookup, ih]

@[simp]
theorem get?_erase_self (m : SortedMap κ ν) (k : κ) : (m.erase k).get? k = none :=
  lookup_filter_self k m.entries

theorem get?_erase_of_ne [Std.LawfulEqOrd κ] (m : SortedMap κ ν) {k k' : κ} (h : k' ≠ k) :
    (m.erase k).get? k' = m.get? k' := lookup_filter_of_ne h m.entries

theorem mem_entries_of_get? [Std.LawfulEqOrd κ] {m : SortedMap κ ν} {k : κ} {v : ν}
    (h : m.get? k = some v) : (k, v) ∈ m.entries := by
  unfold get? at h
  generalize m.entries = l at h
  induction l with
  | nil => cases h
  | cons hd rest ih =>
    unfold lookup at h
    split at h
    · next heq =>
      obtain rfl := Std.LawfulEqOrd.eq_of_compare heq
      cases h
      exact List.mem_cons_self
    · exact List.mem_cons_of_mem _ (ih h)

theorem lookup_eq_none_of_lt [Std.TransOrd κ] {k : κ} {l : List (κ × ν)}
    (h : ∀ e ∈ l, compare k e.1 = .lt) : lookup k l = none := by
  induction l with
  | nil => rfl
  | cons hd rest ih =>
    have hd_lt := h hd List.mem_cons_self
    simp [lookup, hd_lt, ih fun e he => h e (List.mem_cons_of_mem _ he)]

theorem get?_of_mem_entries [Std.TransOrd κ] {m : SortedMap κ ν} {k : κ} {v : ν}
    (h : (k, v) ∈ m.entries) : m.get? k = some v := by
  obtain ⟨l, hl⟩ := m
  unfold get?
  simp only at h ⊢
  induction l with
  | nil => cases h
  | cons hd rest ih =>
    obtain ⟨hhd, hrest⟩ := List.pairwise_cons.mp hl
    rcases List.mem_cons.mp h with rfl | h
    · simp [lookup]
    · have hlt := hhd (k, v) h
      have hgt : compare k hd.1 = .gt := Std.OrientedCmp.gt_iff_lt.mpr hlt
      simp [lookup, hgt, ih hrest h]

theorem mem_entries_iff [Std.TransOrd κ] [Std.LawfulEqOrd κ] {m : SortedMap κ ν} {k : κ} {v : ν} :
    (k, v) ∈ m.entries ↔ m.get? k = some v :=
  ⟨get?_of_mem_entries, mem_entries_of_get?⟩

/-! ### Equal contents -/

theorem entries_injective {m m' : SortedMap κ ν} (h : m.entries = m'.entries) : m = m' := by
  cases m
  cases m'
  simp_all

end SortedMap

end PooledCredit
