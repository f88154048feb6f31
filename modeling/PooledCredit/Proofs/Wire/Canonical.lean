import PooledCredit.Proofs.Wire.Codec

/-!
# Canonical codecs

A codec is canonical when a value is read off exactly what is written of it: whatever it reads off
the front of a byte string is what it would write, and the value fits. Then every value that fits
has one written form and different values have different ones, and bytes that are no written form
are refused. Numbers, identifiers, and choices among different values are canonical, and pairs,
records, options and branches of canonical codecs are. Maps are not, since their entries are read in
any order.
-/

namespace PooledCredit

namespace Codec

variable {α β : Type} {codec : Codec α} {a : α} {bytes rest : Bytes}

/-- What a canonical codec promises. -/
class Canonical (codec : Codec α) : Prop where
  /-- A value that fits is read off what is written of it, whatever follows, and nothing else is
  read. -/
  read_iff : ∀ {bytes : Bytes} {a : α} {rest : Bytes},
    codec.read bytes = some (a, rest) ↔ codec.Fits a ∧ bytes = codec.write a ++ rest

/-- A canonical codec is lossless. -/
lemma Canonical.lossless (h : Canonical codec) : Lossless codec where
  read_write a ha := h.read_iff.mpr ⟨ha, (List.append_nil _).symm⟩
  read_append bytes extra a rest hread := by
    obtain ⟨ha, rfl⟩ := h.read_iff.mp hread
    exact h.read_iff.mpr ⟨ha, List.append_assoc _ _ _⟩
  fits_of_read bytes a rest hread := (h.read_iff.mp hread).1

/-! ### Whole byte strings -/

section Decode

variable [hc : Canonical codec]

/-- A whole byte string is decoded exactly when it is what is written of a value that fits. -/
lemma decode_iff : codec.decode bytes = some a ↔ codec.Fits a ∧ bytes = codec.write a := by
  rw [decode_eq_some, hc.read_iff, List.append_nil]

/-- Values that fit are told apart by what is written of them. -/
lemma write_injective {a' : α} (h : codec.Fits a) (h' : codec.Fits a')
    (heq : codec.write a = codec.write a') : a = a' := by
  have hdecode : codec.decode (codec.write a) = some a := decode_iff.mpr ⟨h, rfl⟩
  have hdecode' : codec.decode (codec.write a) = some a' := decode_iff.mpr ⟨h', heq⟩
  exact Option.some.inj (hdecode.symm.trans hdecode')

/-- With more bytes after it, a written form is not decoded. -/
lemma decode_extended (h : codec.Fits a) {extra : Bytes} (hextra : extra ≠ []) :
    codec.decode (codec.write a ++ extra) = none := by
  have := hc.lossless
  exact decode_append (decode_write h) hextra

/-- A written form that is cut off is not decoded: with what was cut off after it, it is. -/
lemma decode_truncated (h : codec.Fits a) {n : Nat} (hn : n < (codec.write a).length) :
    codec.decode ((codec.write a).take n) = none := by
  refine Option.eq_none_iff_forall_ne_some.mpr fun a' hdecode => ?_
  obtain ⟨ha', hbytes⟩ := decode_iff.mp hdecode
  have hcut : (codec.write a).drop n ≠ [] := by
    rw [Ne, List.drop_eq_nil_iff]
    exact Nat.not_le_of_lt hn
  have hnone := decode_extended ha' hcut
  rw [← hbytes, List.take_append_drop, decode_iff.mpr ⟨h, rfl⟩] at hnone
  cases hnone

end Decode

/-! ### Single values -/

/-- Numbers are canonical. -/
instance number_canonical (width : Nat) : Canonical (number width) where
  read_iff {bytes n rest} := by
    rw [read_number]
    constructor
    · rintro ⟨taken, rfl, rfl, rfl⟩
      exact ⟨Bytes.toNat_lt taken, congrArg (· ++ rest) (Bytes.ofNat_toNat taken).symm⟩
    · rintro ⟨hfits, rfl⟩
      exact ⟨Bytes.ofNat width n, Bytes.length_ofNat width n, rfl, by
        rw [Bytes.toNat_ofNat, Nat.mod_eq_of_lt hfits]⟩

instance : Canonical byte := number_canonical 1

instance : Canonical clock := number_canonical 8

instance : Canonical amount := number_canonical 16

/-- Identifiers are canonical. -/
instance : Canonical id where
  read_iff := read_id.trans (and_iff_right trivial).symm

/-- A choice among different values that a byte can count is canonical. -/
lemma choice_canonical [DecidableEq α] {values : List α} (hlength : values.length ≤ 256)
    (hnodup : values.Nodup) : Canonical (choice values) where
  read_iff {bytes a rest} := by
    refine read_choice.trans ⟨?_, ?_⟩
    · rintro ⟨tag, hget, rfl⟩
      obtain ⟨hplace, rfl⟩ := List.getElem?_eq_some_iff.mp hget
      refine ⟨List.getElem_mem hplace, ?_⟩
      show tag :: rest = UInt8.ofNat (values.idxOf values[tag.toNat]) :: rest
      rw [hnodup.idxOf_getElem, UInt8.ofNat_toNat]
    · rintro ⟨hmem, rfl⟩
      have hplace : values.idxOf a < values.length := List.idxOf_lt_length_of_mem hmem
      refine ⟨UInt8.ofNat (values.idxOf a), ?_, rfl⟩
      rw [UInt8.toNat_ofNat_of_lt' (Nat.lt_of_lt_of_le hplace hlength),
        List.getElem?_eq_getElem hplace, List.getElem_idxOf]

instance : Canonical flag := choice_canonical (by decide) (by decide)

/-! ### Put together -/

/-- Two canonical fields are canonical. -/
instance {first : Codec α} {second : Codec β} [hf : Canonical first] [hs : Canonical second] :
    Canonical (first.pair second) where
  read_iff {bytes ab rest} := by
    rw [read_pair]
    simp only [hf.read_iff, hs.read_iff]
    constructor
    · rintro ⟨between, ⟨hfirst, rfl⟩, hsecond, rfl⟩
      exact ⟨⟨hfirst, hsecond⟩, (List.append_assoc _ _ _).symm⟩
    · rintro ⟨⟨hfirst, hsecond⟩, rfl⟩
      exact ⟨second.write ab.2 ++ rest, ⟨hfirst, List.append_assoc _ _ _⟩, hsecond, rfl⟩

/-- A record of canonical fields is canonical if it and its fields are made of each other. -/
lemma record_canonical {fields : Codec β} {open' : α → β} {build : β → α}
    [hf : Canonical fields] (hbuild : ∀ a, build (open' a) = a) (hopen : ∀ b, open' (build b) = b) :
    Canonical (record fields open' build) where
  read_iff {bytes a rest} := by
    rw [read_record]
    simp only [hf.read_iff]
    constructor
    · rintro ⟨b, ⟨hfits, rfl⟩, rfl⟩
      show fields.Fits (open' (build b)) ∧ _ = fields.write (open' (build b)) ++ rest
      rw [hopen]
      exact ⟨hfits, rfl⟩
    · rintro ⟨hfits, rfl⟩
      exact ⟨open' a, ⟨hfits, rfl⟩, hbuild a⟩

/-- An optional canonical value is canonical. -/
instance [hc : Canonical codec] : Canonical (optional codec) where
  read_iff {bytes value rest} := by
    rw [read_optional]
    simp only [hc.read_iff]
    constructor
    · rintro (⟨rfl, rfl⟩ | ⟨a, left, rfl, rfl, hfits, rfl⟩)
      · exact ⟨trivial, rfl⟩
      · exact ⟨hfits, rfl⟩
    · rintro ⟨hfits, rfl⟩
      cases value with
      | none => exact .inl ⟨rfl, rfl⟩
      | some a => exact .inr ⟨a, _, rfl, rfl, hfits, rfl⟩

/-! ### Branches -/

/-- A branch opens exactly the values that it makes, and its payload is canonical. -/
structure Branch.Lawful (branch : Branch α) : Prop where
  canonical : Canonical branch.codec
  open_iff : ∀ {a payload}, branch.open? a = some payload ↔ branch.make payload = a

/-- No value is made by two of the branches. -/
def Apart (branches : List (Branch α)) : Prop :=
  ∀ (i j : Nat) (branch branch' : Branch α) (payload : branch.Payload)
    (payload' : branch'.Payload), branches[i]? = some branch → branches[j]? = some branch' →
      branch.make payload = branch'.make payload' → i = j

/-- A value is written as the place of the first branch that opens it and its payload. -/
lemma writeBranch_eq {branches : List (Branch α)} {branch : Branch α} {payload : branch.Payload}
    {i : Nat} (hget : branches[i]? = some branch) (hopen : branch.open? a = some payload)
    (hfirst : ∀ j earlier, j < i → branches[j]? = some earlier → earlier.open? a = none)
    (tag : Nat) :
    writeBranch a tag branches = UInt8.ofNat (tag + i) :: branch.codec.write payload := by
  induction branches generalizing i tag with
  | nil => cases hget
  | cons head branches ih =>
    cases i with
    | zero =>
      obtain rfl := Option.some.inj hget
      simp only [writeBranch, hopen, Nat.add_zero]
    | succ i =>
      have hclosed : head.open? a = none := hfirst 0 head (Nat.succ_pos i) rfl
      have hwrites := ih hget (fun j earlier hj hearlier =>
        hfirst (j + 1) earlier (Nat.succ_lt_succ hj) hearlier) (tag + 1)
      rw [Nat.add_right_comm, Nat.add_assoc] at hwrites
      simp only [writeBranch, hclosed, hwrites]

/-- A value is read off the place of a branch and a payload of it. -/
lemma read_oneOf {branches : List (Branch α)} : (oneOf branches).read bytes = some (a, rest) ↔
    ∃ (tag : UInt8) (left : Bytes) (branch : Branch α) (payload : branch.Payload),
      bytes = tag :: left ∧ branches[tag.toNat]? = some branch ∧
      branch.codec.read left = some (payload, rest) ∧ branch.make payload = a := by
  cases bytes with
  | nil => exact iff_of_false (fun h => nomatch h) fun ⟨_, _, _, _, h, _⟩ => nomatch h
  | cons tag left =>
    simp only [oneOf]
    split
    · next hnone =>
      refine iff_of_false (fun h => nomatch h) ?_
      rintro ⟨_, _, branch, _, heq, hget, -⟩
      obtain ⟨rfl, rfl⟩ := List.cons.inj heq
      cases hnone.symm.trans hget
    · next branch hsome =>
      simp only [Option.map_eq_some_iff, Prod.exists, Prod.mk.injEq]
      constructor
      · rintro ⟨payload, _, hread, rfl, rfl⟩
        exact ⟨tag, left, branch, payload, rfl, hsome, hread, rfl⟩
      · rintro ⟨_, _, _, payload, heq, hget, hread, rfl⟩
        obtain ⟨rfl, rfl⟩ := List.cons.inj heq
        obtain rfl := Option.some.inj (hsome.symm.trans hget)
        exact ⟨payload, rest, hread, rfl, rfl⟩

section OneOf

variable {branches : List (Branch α)} (hlawful : ∀ branch ∈ branches, branch.Lawful)
variable (hapart : Apart branches)
include hlawful hapart

/-- What a branch makes is written as the place of the branch and the payload. -/
lemma write_make {i : Nat} {branch : Branch α} (hget : branches[i]? = some branch)
    (payload : branch.Payload) : (oneOf branches).write (branch.make payload) =
      UInt8.ofNat i :: branch.codec.write payload := by
  have hmember {j : Nat} {other : Branch α} (hother : branches[j]? = some other) :
      other.Lawful := hlawful other (List.mem_of_getElem? hother)
  have hopen : branch.open? (branch.make payload) = some payload :=
    (hmember hget).open_iff.mpr rfl
  have hfirst (j : Nat) (earlier : Branch α) (hj : j < i)
      (hearlier : branches[j]? = some earlier) : earlier.open? (branch.make payload) = none := by
    -- a branch before it that opened the value would have made it
    refine Option.eq_none_iff_forall_ne_some.mpr fun payload' hopen' => ?_
    have hmakes := (hmember hearlier).open_iff.mp hopen'
    exact Nat.ne_of_lt hj (hapart j i earlier branch payload' payload hearlier hget hmakes)
  have hwrites := writeBranch_eq hget hopen hfirst 0
  rwa [Nat.zero_add] at hwrites

/-- What a branch makes fits when the payload does. -/
lemma fits_make {i : Nat} {branch : Branch α} (hget : branches[i]? = some branch)
    {payload : branch.Payload} :
    (oneOf branches).Fits (branch.make payload) ↔ branch.codec.Fits payload := by
  have hmember := List.mem_of_getElem? hget
  constructor
  · rintro ⟨branch', hmember', payload', hopen', hfits⟩
    obtain ⟨j, hget'⟩ := List.mem_iff_getElem?.mp hmember'
    have hmakes := (hlawful branch' hmember').open_iff.mp hopen'
    obtain rfl := hapart j i branch' branch payload' payload hget' hget hmakes
    obtain rfl := Option.some.inj (hget'.symm.trans hget)
    rw [(hlawful branch' hmember').open_iff.mpr rfl] at hopen'
    exact Option.some.inj hopen' ▸ hfits
  · exact fun hfits => ⟨branch, hmember, payload, (hlawful branch hmember).open_iff.mpr rfl, hfits⟩

/-- Canonical branches that a byte can count are canonical together. -/
lemma oneOf_canonical (hlength : branches.length ≤ 256) : Canonical (oneOf branches) where
  read_iff {bytes a rest} := by
    refine read_oneOf.trans ⟨?_, ?_⟩
    · rintro ⟨tag, left, branch, payload, rfl, hget, hread, rfl⟩
      have hbranch := hlawful branch (List.mem_of_getElem? hget)
      obtain ⟨hfits, rfl⟩ := hbranch.canonical.read_iff.mp hread
      rw [write_make hlawful hapart hget, UInt8.ofNat_toNat]
      exact ⟨(fits_make hlawful hapart hget).mpr hfits, rfl⟩
    · rintro ⟨⟨branch, hmember, payload, hopen, hfits⟩, rfl⟩
      have hbranch := hlawful branch hmember
      obtain rfl := hbranch.open_iff.mp hopen
      obtain ⟨i, hget⟩ := List.mem_iff_getElem?.mp hmember
      obtain ⟨hplace, -⟩ := List.getElem?_eq_some_iff.mp hget
      have htag : (UInt8.ofNat i).toNat = i :=
        UInt8.toNat_ofNat_of_lt' (Nat.lt_of_lt_of_le hplace hlength)
      refine ⟨UInt8.ofNat i, branch.codec.write payload ++ rest, branch, payload, ?_, ?_, ?_, rfl⟩
      · rw [write_make hlawful hapart hget, List.cons_append]
      · rw [htag, hget]
      · exact hbranch.canonical.read_iff.mpr ⟨hfits, rfl⟩

end OneOf

end Codec

end PooledCredit
