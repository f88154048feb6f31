import Mathlib.Tactic.Lemma
import PooledCredit.Wire.Codec

/-!
# Lossless codecs

A codec is lossless when every value that fits is read back from what was written, when reading does
not depend on what follows, and when everything that is read fits. Numbers, identifiers and choices
are lossless, and the ways to put codecs together keep them lossless.

Reading may accept more than is ever written: the entries of a map are read in any order, and of
several entries of a key the last one counts. What is written of a value is therefore only one of
the byte strings that are read as that value. It is the one that reading and writing lead back to.
-/

namespace PooledCredit

/-! ## Bytes -/

namespace Bytes

/-- Bytes are split off the front: what is split off has the width that was asked for, and with the
bytes that are left it makes up the whole. -/
lemma split?_eq_some {width : Nat} {bytes taken rest : Bytes} :
    split? width bytes = some (taken, rest) ↔ taken.length = width ∧ bytes = taken ++ rest := by
  induction width generalizing bytes taken rest with
  | zero =>
    rw [split?, Option.some.injEq, Prod.mk.injEq, List.length_eq_zero_iff, eq_comm]
    exact and_congr_right fun h => by rw [h, List.nil_append]
  | succ width ih =>
    cases bytes with
    | nil =>
      refine iff_of_false (fun h => nomatch h) fun ⟨hlength, hbytes⟩ => ?_
      rw [(List.append_eq_nil_iff.mp hbytes.symm).1] at hlength
      cases hlength
    | cons b bytes =>
      simp only [split?, Option.map_eq_some_iff, Prod.exists, ih]
      constructor
      · rintro ⟨taken, _, ⟨hlength, rfl⟩, heq⟩
        obtain ⟨rfl, rfl⟩ := Prod.mk.inj heq
        exact ⟨congrArg Nat.succ hlength, rfl⟩
      · rintro ⟨hlength, hbytes⟩
        cases taken with
        | nil => cases hlength
        | cons b' taken =>
          obtain ⟨rfl, rfl⟩ := List.cons.inj hbytes
          exact ⟨taken, rest, ⟨Nat.succ.inj hlength, rfl⟩, rfl⟩

end Bytes

/-! ## Collecting entries -/

namespace SortedMap

variable {κ ν : Type} [Ord κ] {m : SortedMap κ ν} {k : κ} {v : ν} {l l' : List (κ × ν)}

/-- Looking up in one list after another. -/
lemma lookup_append : lookup k (l ++ l') = (lookup k l).or (lookup k l') := by
  induction l with
  | nil => rfl
  | cons e l ih =>
    rw [List.cons_append, lookup, lookup]
    split
    · rfl
    · exact ih

/-- An entry lengthens a list by at most one. -/
lemma length_place_le : (place k v l).length ≤ l.length + 1 := by
  induction l with
  | nil => exact Nat.le_refl 1
  | cons e l ih =>
    unfold place
    split
    · exact Nat.le_refl _
    · exact Nat.le_succ _
    · exact Nat.succ_le_succ ih

variable [Std.TransOrd κ]

/-- An entry placed after all others comes last. -/
lemma place_last (h : ∀ e ∈ l, compare e.1 k = .lt) : place k v l = l ++ [(k, v)] := by
  induction l with
  | nil => rfl
  | cons e l ih =>
    have hgt : compare k e.1 = .gt := Std.OrientedCmp.gt_iff_lt.mpr (h e List.mem_cons_self)
    simp only [place, hgt, List.cons_append, ih fun e he => h e (List.mem_cons_of_mem _ he)]

/-- Ascending entries that stand after those of a map are appended to it one by one. -/
lemma entries_foldl_insert
    (h : (m.entries ++ l).Pairwise fun a b => compare a.1 b.1 = .lt) :
    (l.foldl (fun m e => m.insert e.1 e.2) m).entries = m.entries ++ l := by
  induction l generalizing m with
  | nil => exact (List.append_nil _).symm
  | cons e l ih =>
    have hlast : (m.insert e.1 e.2).entries = m.entries ++ [e] :=
      place_last fun e' he' => (List.pairwise_append.mp h).2.2 e' he' e List.mem_cons_self
    rw [List.foldl_cons, ih, hlast, List.append_assoc, List.singleton_append]
    rwa [hlast, List.append_assoc, List.singleton_append]

/-- A map is collected again from its entries. -/
lemma ofList_entries (m : SortedMap κ ν) : ofList m.entries = m :=
  entries_injective (entries_foldl_insert m.sorted)

/-- A set is collected again from its members. -/
lemma ofList_keys (m : SortedSet κ) : ofList (m.keys.map fun k => (k, ())) = m := by
  have hentries : m.keys.map (fun k => (k, ())) = m.entries := by
    rw [keys, List.map_map]
    exact List.map_id _
  rw [hentries, ofList_entries]

/-- What is collected onto a map was in it or is one of the entries. -/
lemma mem_foldl_insert {e : κ × ν}
    (h : e ∈ (l.foldl (fun m e => m.insert e.1 e.2) m).entries) : e ∈ m.entries ∨ e ∈ l := by
  induction l generalizing m with
  | nil => exact .inl h
  | cons first l ih =>
    rcases ih h with hplaced | hlater
    · rcases mem_place hplaced with rfl | hbefore
      · exact .inr List.mem_cons_self
      · exact .inl hbefore
    · exact .inr (List.mem_cons_of_mem _ hlater)

/-- Only given entries are collected. -/
lemma mem_ofList {e : κ × ν} (h : e ∈ (ofList l).entries) : e ∈ l :=
  (mem_foldl_insert h).resolve_left List.not_mem_nil

/-- Collecting onto a map lengthens it by at most the number of the entries. -/
lemma length_foldl_insert_le :
    (l.foldl (fun m e => m.insert e.1 e.2) m).entries.length ≤ m.entries.length + l.length := by
  induction l generalizing m with
  | nil => exact Nat.le_refl _
  | cons e l ih =>
    calc (l.foldl (fun m e => m.insert e.1 e.2) (m.insert e.1 e.2)).entries.length
        ≤ (m.insert e.1 e.2).entries.length + l.length := ih
      _ ≤ (m.entries.length + 1) + l.length := Nat.add_le_add_right length_place_le _
      _ = m.entries.length + (e :: l).length := by rw [List.length_cons]; omega

/-- No more entries are collected than were given. -/
lemma length_ofList_le : (ofList l).entries.length ≤ l.length := by
  calc (ofList l).entries.length
      ≤ (empty : SortedMap κ ν).entries.length + l.length := length_foldl_insert_le
    _ = l.length := Nat.zero_add _

variable [Std.LawfulEqOrd κ] [DecidableEq κ]

/-- Of several entries of a key, the last one is collected. -/
theorem get?_ofList : (ofList l).get? k = lookup k l.reverse := by
  have honto : ∀ m : SortedMap κ ν, (l.foldl (fun m e => m.insert e.1 e.2) m).get? k =
      (lookup k l.reverse).or (m.get? k) := by
    induction l with
    | nil => exact fun m => rfl
    | cons e l ih =>
      intro m
      rw [List.foldl_cons, ih, List.reverse_cons, lookup_append, Option.or_assoc, get?_insert]
      congr 1
      by_cases hkey : k = e.1
      · simp [hkey, lookup]
      · have hne : compare k e.1 ≠ .eq := fun h => hkey (Std.LawfulEqOrd.eq_of_compare h)
        simp [hkey, hne, lookup]
  rw [ofList, honto, get?_empty, Option.or_none]

end SortedMap

/-! ## Lossless codecs -/

namespace Codec

variable {α β : Type} {codec : Codec α} {a : α} {bytes rest : Bytes}

/-- What a codec without loss promises. -/
class Lossless (codec : Codec α) : Prop where
  /-- A value that fits is read back. -/
  read_write : ∀ a, codec.Fits a → codec.read (codec.write a) = some (a, [])
  /-- What is read does not depend on what follows. -/
  read_append : ∀ bytes extra a rest, codec.read bytes = some (a, rest) →
    codec.read (bytes ++ extra) = some (a, rest ++ extra)
  /-- What is read fits. -/
  fits_of_read : ∀ bytes a rest, codec.read bytes = some (a, rest) → codec.Fits a

/-- A whole byte string is decoded if it is read to its end. -/
lemma decode_eq_some : codec.decode bytes = some a ↔ codec.read bytes = some (a, []) := by
  unfold decode
  split
  · next h => rw [h, Option.some.injEq, Option.some.injEq, Prod.mk.injEq, and_iff_left rfl]
  · next h =>
    constructor
    · exact fun h' => nomatch h'
    · exact fun h' => absurd h' (h a)

section Decode

variable [hc : Lossless codec]

/-- A value that fits is read back, whatever follows it. -/
lemma read_write_append (h : codec.Fits a) (rest : Bytes) :
    codec.read (codec.write a ++ rest) = some (a, rest) :=
  hc.read_append _ rest _ _ (hc.read_write a h)

/-- A value that fits is decoded from what was written of it. -/
lemma decode_write (h : codec.Fits a) : codec.decode (codec.write a) = some a :=
  decode_eq_some.mpr (hc.read_write a h)

/-- What is decoded fits. -/
lemma fits_of_decode (h : codec.decode bytes = some a) : codec.Fits a :=
  hc.fits_of_read bytes a [] (decode_eq_some.mp h)

/-- Bytes that are decoded are not decoded with more bytes after them. -/
lemma decode_append (h : codec.decode bytes = some a) {extra : Bytes} (hextra : extra ≠ []) :
    codec.decode (bytes ++ extra) = none := by
  have hread := hc.read_append bytes extra a [] (decode_eq_some.mp h)
  refine Option.eq_none_iff_forall_ne_some.mpr fun a' ha' => hextra ?_
  rw [decode_eq_some, hread, Option.some.injEq, Prod.mk.injEq, List.nil_append] at ha'
  exact ha'.2

end Decode

/-! ### Single values -/

/-- A number is read off as many bytes as it is written in. -/
lemma read_number {width n : Nat} : (number width).read bytes = some (n, rest) ↔
    ∃ taken, taken.length = width ∧ bytes = taken ++ rest ∧ Bytes.toNat taken = n := by
  simp only [number, Option.map_eq_some_iff, Prod.exists, Bytes.split?_eq_some]
  constructor
  · rintro ⟨taken, _, ⟨hlength, rfl⟩, heq⟩
    obtain ⟨rfl, rfl⟩ := Prod.mk.inj heq
    exact ⟨taken, hlength, rfl, rfl⟩
  · rintro ⟨taken, hlength, rfl, rfl⟩
    exact ⟨taken, rest, ⟨hlength, rfl⟩, rfl⟩

/-- Numbers are lossless. -/
instance number_lossless (width : Nat) : Lossless (number width) where
  read_write n h := by
    refine read_number.mpr ⟨Bytes.ofNat width n, Bytes.length_ofNat width n, ?_, ?_⟩
    · exact (List.append_nil _).symm
    · rw [Bytes.toNat_ofNat, Nat.mod_eq_of_lt h]
  read_append bytes extra n rest h := by
    obtain ⟨taken, hlength, rfl, hn⟩ := read_number.mp h
    exact read_number.mpr ⟨taken, hlength, List.append_assoc _ _ _, hn⟩
  fits_of_read bytes n rest h := by
    obtain ⟨taken, rfl, -, rfl⟩ := read_number.mp h
    exact Bytes.toNat_lt taken

instance : Lossless byte := number_lossless 1

instance : Lossless clock := number_lossless 8

instance : Lossless amount := number_lossless 16

/-- An identifier is read off the bytes that it is written in. -/
lemma read_id {a : Id} : id.read bytes = some (a, rest) ↔ bytes = a.bytes ++ rest := by
  simp only [id, Option.bind_eq_bind, Option.bind_eq_some_iff, Prod.exists, Bytes.split?_eq_some,
    Option.pure_def, Option.some.injEq, Prod.mk.injEq]
  constructor
  · rintro ⟨taken, _, ⟨-, rfl⟩, _, htaken, rfl, rfl⟩
    rw [Id.bytes_of_ofBytes? htaken]
  · rintro rfl
    exact ⟨a.bytes, rest, ⟨Id.length_bytes a, rfl⟩, a, Id.ofBytes?_bytes a, rfl, rfl⟩

/-- Identifiers are lossless. -/
instance : Lossless id where
  read_write a _ := read_id.mpr (List.append_nil _).symm
  read_append bytes extra a rest h := by
    rw [read_id.mp h, List.append_assoc]
    exact read_id.mpr rfl
  fits_of_read _ _ _ _ := trivial

/-- A choice is read off a byte that tells the place of the value. -/
lemma read_choice [DecidableEq α] {values : List α} :
    (choice values).read bytes = some (a, rest) ↔
      ∃ tag : UInt8, values[tag.toNat]? = some a ∧ bytes = tag :: rest := by
  cases bytes with
  | nil => exact iff_of_false (fun h => nomatch h) fun ⟨_, _, h⟩ => nomatch h
  | cons tag bytes =>
    simp only [choice, Option.map_eq_some_iff, Prod.mk.injEq, List.cons.injEq]
    constructor
    · rintro ⟨_, hget, rfl, rfl⟩
      exact ⟨tag, hget, rfl, rfl⟩
    · rintro ⟨_, hget, rfl, rfl⟩
      exact ⟨a, hget, rfl, rfl⟩

/-- A choice among values that a byte can count is lossless. -/
lemma choice_lossless [DecidableEq α] {values : List α} (h : values.length ≤ 256) :
    Lossless (choice values) where
  read_write a ha := by
    have hplace : values.idxOf a < values.length := List.idxOf_lt_length_of_mem ha
    have htag : (UInt8.ofNat (values.idxOf a)).toNat = values.idxOf a :=
      UInt8.toNat_ofNat_of_lt' (Nat.lt_of_lt_of_le hplace h)
    refine read_choice.mpr ⟨UInt8.ofNat (values.idxOf a), ?_, rfl⟩
    rw [htag, List.getElem?_eq_getElem hplace, List.getElem_idxOf]
  read_append bytes extra a rest hread := by
    obtain ⟨tag, hget, rfl⟩ := read_choice.mp hread
    exact read_choice.mpr ⟨tag, hget, rfl⟩
  fits_of_read bytes a rest hread := by
    obtain ⟨tag, hget, -⟩ := read_choice.mp hread
    exact List.mem_of_getElem? hget

instance : Lossless flag := choice_lossless (by decide)

/-! ### Put together -/

section Pair

variable {first : Codec α} {second : Codec β}

/-- Two fields are read one after the other. -/
lemma read_pair {ab : α × β} : (first.pair second).read bytes = some (ab, rest) ↔
    ∃ between, first.read bytes = some (ab.1, between) ∧
      second.read between = some (ab.2, rest) := by
  simp only [pair, Option.bind_eq_bind, Option.bind_eq_some_iff, Option.pure_def, Prod.exists,
    Option.some.injEq, Prod.mk.injEq]
  constructor
  · rintro ⟨_, between, hfirst, _, _, hsecond, rfl, rfl⟩
    exact ⟨between, hfirst, hsecond⟩
  · rintro ⟨between, hfirst, hsecond⟩
    exact ⟨ab.1, between, hfirst, ab.2, rest, hsecond, rfl, rfl⟩

/-- Two lossless fields are lossless. -/
instance [hf : Lossless first] [hs : Lossless second] : Lossless (first.pair second) where
  read_write ab h :=
    read_pair.mpr ⟨second.write ab.2, read_write_append h.1 _, hs.read_write ab.2 h.2⟩
  read_append bytes extra ab rest h := by
    obtain ⟨between, hfirst, hsecond⟩ := read_pair.mp h
    exact read_pair.mpr ⟨between ++ extra, hf.read_append _ _ _ _ hfirst,
      hs.read_append _ _ _ _ hsecond⟩
  fits_of_read bytes ab rest h := by
    obtain ⟨between, hfirst, hsecond⟩ := read_pair.mp h
    exact ⟨hf.fits_of_read _ _ _ hfirst, hs.fits_of_read _ _ _ hsecond⟩

end Pair

section Record

variable {fields : Codec β} {open' : α → β} {build : β → α}

/-- A record is built from the fields that are read. -/
lemma read_record : (record fields open' build).read bytes = some (a, rest) ↔
    ∃ b, fields.read bytes = some (b, rest) ∧ build b = a := by
  simp [record, Option.map_eq_some_iff]

/-- A record of lossless fields is lossless if it is built again from its fields, and its fields fit
if those that it was built from do. -/
lemma record_lossless [hf : Lossless fields] (hbuild : ∀ a, build (open' a) = a)
    (hopen : ∀ b, fields.Fits b → fields.Fits (open' (build b))) :
    Lossless (record fields open' build) where
  read_write a h := read_record.mpr ⟨open' a, hf.read_write _ h, hbuild a⟩
  read_append bytes extra a rest h := by
    obtain ⟨b, hread, hb⟩ := read_record.mp h
    exact read_record.mpr ⟨b, hf.read_append _ _ _ _ hread, hb⟩
  fits_of_read bytes a rest h := by
    obtain ⟨b, hread, rfl⟩ := read_record.mp h
    exact hopen b (hf.fits_of_read _ _ _ hread)

end Record

/-- An optional value is read off a zero, or off a one and the value. -/
lemma read_optional {value : Option α} : (optional codec).read bytes = some (value, rest) ↔
    (value = none ∧ bytes = 0 :: rest) ∨
    ∃ a left, value = some a ∧ bytes = 1 :: left ∧ codec.read left = some (a, rest) := by
  simp only [optional]
  split
  · simp [eq_comm]
  · simp only [Option.map_eq_some_iff, Prod.exists, Prod.mk.injEq]
    constructor
    · rintro ⟨a, _, hread, rfl, rfl⟩
      exact .inr ⟨a, _, rfl, rfl, hread⟩
    · rintro (⟨-, h⟩ | ⟨a, left, rfl, h, hread⟩)
      · cases h
      · obtain ⟨-, rfl⟩ := List.cons.inj h
        exact ⟨a, rest, hread, rfl, rfl⟩
  · next hzero hone =>
    refine iff_of_false (fun h => nomatch h) ?_
    rintro (⟨-, h⟩ | ⟨a, left, -, h, -⟩)
    · exact hzero _ h
    · exact hone _ h

/-- An optional lossless value is lossless. -/
instance [hc : Lossless codec] : Lossless (optional codec) where
  read_write value h := by
    cases value with
    | none => exact read_optional.mpr (.inl ⟨rfl, rfl⟩)
    | some a => exact read_optional.mpr (.inr ⟨a, _, rfl, rfl, hc.read_write a h⟩)
  read_append bytes extra value rest h := by
    rcases read_optional.mp h with ⟨rfl, rfl⟩ | ⟨a, left, rfl, rfl, hread⟩
    · exact read_optional.mpr (.inl ⟨rfl, rfl⟩)
    · exact read_optional.mpr (.inr ⟨a, _, rfl, rfl, hc.read_append _ _ _ _ hread⟩)
  fits_of_read bytes value rest h := by
    rcases read_optional.mp h with ⟨rfl, -⟩ | ⟨a, left, rfl, -, hread⟩
    · exact trivial
    · exact hc.fits_of_read _ _ _ hread

/-! ### Lists -/

/-- The values of a list are read one after the other. -/
lemma readMany_cons {count : Nat} {as : List α} :
    codec.readMany (count + 1) bytes = some (as, rest) ↔ ∃ a as' between, as = a :: as' ∧
      codec.read bytes = some (a, between) ∧ codec.readMany count between = some (as', rest) := by
  simp only [readMany]
  split
  · next hread =>
    rw [hread]
    exact iff_of_false (fun h => nomatch h) fun ⟨_, _, _, _, h, _⟩ => nomatch h
  · next a between hread =>
    simp only [Option.map_eq_some_iff, Prod.exists, Prod.mk.injEq, hread, Option.some.injEq]
    constructor
    · rintro ⟨as', _, hmany, rfl, rfl⟩
      exact ⟨a, as', between, rfl, ⟨rfl, rfl⟩, hmany⟩
    · rintro ⟨_, as', _, rfl, ⟨rfl, rfl⟩, hmany⟩
      exact ⟨as', rest, hmany, rfl, rfl⟩

/-- Values that were written one after the other are read back. -/
lemma readMany_flatMap [Lossless codec] {as : List α} (h : ∀ a ∈ as, codec.Fits a) :
    codec.readMany as.length (as.flatMap codec.write) = some (as, []) := by
  induction as with
  | nil => rfl
  | cons a as ih =>
    refine readMany_cons.mpr ⟨a, as, as.flatMap codec.write, rfl, ?_, ih fun a' ha' =>
      h a' (List.mem_cons_of_mem _ ha')⟩
    rw [List.flatMap_cons]
    exact read_write_append (h a List.mem_cons_self) _

/-- As many values are read as were asked for, all of them fit, and what follows does not matter. -/
lemma readMany_eq_some [hc : Lossless codec] {count : Nat} {as : List α}
    (h : codec.readMany count bytes = some (as, rest)) :
    as.length = count ∧ (∀ a ∈ as, codec.Fits a) ∧
      ∀ extra, codec.readMany count (bytes ++ extra) = some (as, rest ++ extra) := by
  induction count generalizing bytes as with
  | zero =>
    obtain ⟨rfl, rfl⟩ := Prod.mk.inj (Option.some.inj h)
    exact ⟨rfl, fun _ ha => absurd ha List.not_mem_nil, fun _ => rfl⟩
  | succ count ih =>
    obtain ⟨a, as', between, rfl, hread, hmany⟩ := readMany_cons.mp h
    obtain ⟨hlength, hfits, hextra⟩ := ih hmany
    refine ⟨congrArg Nat.succ hlength, fun a' ha' => ?_, fun extra => ?_⟩
    · rcases List.mem_cons.mp ha' with rfl | ha'
      · exact hc.fits_of_read _ _ _ hread
      · exact hfits a' ha'
    · exact readMany_cons.mpr
        ⟨a, as', between ++ extra, rfl, hc.read_append _ _ _ _ hread, hextra extra⟩

/-- A list is read as its length and as many values. -/
lemma read_list {as : List α} : (list codec).read bytes = some (as, rest) ↔
    ∃ count between, (number 4).read bytes = some (count, between) ∧
      codec.readMany count between = some (as, rest) := by
  simp [list, Option.bind_eq_some_iff]

/-- A list of lossless values is lossless. -/
instance [hc : Lossless codec] : Lossless (list codec) where
  read_write as h :=
    read_list.mpr ⟨as.length, as.flatMap codec.write,
      read_write_append (show (number 4).Fits as.length from h.1) _, readMany_flatMap h.2⟩
  read_append bytes extra as rest h := by
    obtain ⟨count, between, hcount, hmany⟩ := read_list.mp h
    exact read_list.mpr ⟨count, between ++ extra,
      (number_lossless 4).read_append _ _ _ _ hcount, (readMany_eq_some hmany).2.2 extra⟩
  fits_of_read bytes as rest h := by
    obtain ⟨count, between, hcount, hmany⟩ := read_list.mp h
    obtain ⟨rfl, hfits, -⟩ := readMany_eq_some hmany
    exact ⟨(number_lossless 4).fits_of_read _ _ _ hcount, hfits⟩

section Maps

variable [Ord α] [Std.TransOrd α] {key : Codec α} {value : Codec β}

/-- A map of lossless keys and values is lossless. -/
instance [Lossless key] [Lossless value] : Lossless (sortedMap key value) :=
  record_lossless SortedMap.ofList_entries fun _ h =>
    ⟨Nat.lt_of_le_of_lt SortedMap.length_ofList_le h.1,
      fun e he => h.2 e (SortedMap.mem_ofList he)⟩

/-- A set of lossless members is lossless. -/
instance [Lossless key] : Lossless (sortedSet key) := by
  refine record_lossless SortedMap.ofList_keys fun members h => ⟨?_, fun a ha => ?_⟩
  · rw [SortedMap.keys, List.length_map]
    calc (SortedMap.ofList (members.map fun a => (a, ()))).entries.length
        ≤ (members.map fun a => (a, ())).length := SortedMap.length_ofList_le
      _ = members.length := List.length_map _
      _ < Bytes.span 4 := h.1
  · obtain ⟨e, he, rfl⟩ := List.mem_map.mp ha
    obtain ⟨a, hmember, rfl⟩ := List.mem_map.mp (SortedMap.mem_ofList he)
    exact h.2 a hmember

/-- A map is read from its entries in any order, and of several entries of a key the last one
counts. -/
theorem sortedMap_read_entries [Lossless key] [Lossless value] [Std.LawfulEqOrd α] [DecidableEq α]
    {entries : List (α × β)} (h : (list (key.pair value)).Fits entries) (rest : Bytes) :
    ∃ m, (sortedMap key value).read ((list (key.pair value)).write entries ++ rest) =
      some (m, rest) ∧ ∀ k, m.get? k = SortedMap.lookup k entries.reverse := by
  refine ⟨SortedMap.ofList entries, ?_, fun k => SortedMap.get?_ofList⟩
  unfold sortedMap
  exact read_record.mpr ⟨entries, read_write_append h rest, rfl⟩

end Maps

end Codec

end PooledCredit
