import PooledCredit.Id
import PooledCredit.SortedMap

/-!
# Codecs

A codec writes values as bytes and reads them back from the front of a byte string. Codecs are
put together from those of numbers, flags and identifiers: fields follow one another, an
optional value is preceded by a flag, a list by its length, and a branch by its place
among the branches. A map is written in ascending key order and read in any order, the last
entry of a key winning.

Each codec comes with the values it can write without loss, `Codec.Fits`.
-/

namespace PooledCredit

/-- A way to write values of a type and to read them back. -/
structure Codec (α : Type) where
  write : α → Bytes
  /-- Reads a value off the front; returns it with the bytes that are left. -/
  read : Bytes → Option (α × Bytes)
  /-- The values that are written without loss. -/
  Fits : α → Prop

namespace Codec

variable {α β : Type}

/-- Reads a value from a whole byte string. -/
def decode (codec : Codec α) (bytes : Bytes) : Option α :=
  match codec.read bytes with
  | some (a, []) => some a
  | _ => none

/-- A number in the given count of bytes, least significant first. -/
def number (width : Nat) : Codec Nat where
  write := Bytes.ofNat width
  read bytes := (Bytes.split? width bytes).map fun (taken, rest) => (Bytes.toNat taken, rest)
  Fits n := n < Bytes.span width

/-- A small number, such as a count of decimals. -/
def byte : Codec Nat := number 1

/-- A clock reading, a count, a number of a token or loan, or a share. -/
def clock : Codec Nat := number 8

/-- An amount, a price, a rate or an index. -/
def amount : Codec Nat := number 16

/-- An identifier, most significant byte first. -/
def id : Codec Id where
  write := Id.bytes
  read bytes := do
    let (taken, rest) ← Bytes.split? 32 bytes
    return (← Id.ofBytes? taken, rest)
  Fits _ := True

/-- Two fields, one after the other. -/
def pair (first : Codec α) (second : Codec β) : Codec (α × β) where
  write ab := first.write ab.1 ++ second.write ab.2
  read bytes := do
    let (a, bytes) ← first.read bytes
    let (b, bytes) ← second.read bytes
    return ((a, b), bytes)
  Fits ab := first.Fits ab.1 ∧ second.Fits ab.2

/-- A record, written as the tuple of its fields. -/
def record (fields : Codec β) (open' : α → β) (build : β → α) : Codec α where
  write a := fields.write (open' a)
  read bytes := (fields.read bytes).map fun (b, rest) => (build b, rest)
  Fits a := fields.Fits (open' a)

/-- One of a list of values, written as its place in the list. -/
def choice [DecidableEq α] (values : List α) : Codec α where
  write a := [UInt8.ofNat (values.idxOf a)]
  read
    | [] => none
    | tag :: rest => values[tag.toNat]?.map fun a => (a, rest)
  Fits a := a ∈ values

/-- A flag: one byte, zero or one. -/
def flag : Codec Bool := choice [false, true]

/-- An optional value, preceded by a flag. -/
def optional (codec : Codec α) : Codec (Option α) where
  write
    | none => [0]
    | some a => 1 :: codec.write a
  read
    | 0 :: rest => some (none, rest)
    | 1 :: rest => (codec.read rest).map fun (a, rest) => (some a, rest)
    | _ => none
  Fits
    | none => True
    | some a => codec.Fits a

/-- Reads the given count of values, one after the other. -/
def readMany (codec : Codec α) : Nat → Bytes → Option (List α × Bytes)
  | 0, bytes => some ([], bytes)
  | count + 1, bytes =>
    match codec.read bytes with
    | none => none
    | some (a, bytes) => (readMany codec count bytes).map fun (as, rest) => (a :: as, rest)

/-- A list, preceded by its length in four bytes. -/
def list (codec : Codec α) : Codec (List α) where
  write as := Bytes.ofNat 4 as.length ++ as.flatMap codec.write
  read bytes := do
    let (count, bytes) ← (number 4).read bytes
    codec.readMany count bytes
  Fits as := as.length < Bytes.span 4 ∧ ∀ a ∈ as, codec.Fits a

/-- A map, written as the list of its entries. -/
def sortedMap [Ord α] [Std.TransOrd α] (key : Codec α) (value : Codec β) :
    Codec (SortedMap α β) :=
  record (list (key.pair value)) SortedMap.entries SortedMap.ofList

/-- A set, written as the list of its members. -/
def sortedSet [Ord α] [Std.TransOrd α] (key : Codec α) : Codec (SortedSet α) :=
  record (list key) SortedMap.keys fun members => SortedMap.ofList (members.map fun a => (a, ()))

/-- One branch of a type: the values that are made from a payload. -/
structure Branch (α : Type) where
  Payload : Type
  codec : Codec Payload
  make : Payload → α
  /-- The payload of a value of this branch. -/
  open? : α → Option Payload

/-- Writes a value as the place of its branch, counted from `tag`, and its payload. -/
def writeBranch (a : α) : Nat → List (Branch α) → Bytes
  | _, [] => []
  | tag, branch :: rest =>
    match branch.open? a with
    | some payload => UInt8.ofNat tag :: branch.codec.write payload
    | none => writeBranch a (tag + 1) rest

/-- One of several branches, written as its place among them and its payload. -/
def oneOf (branches : List (Branch α)) : Codec α where
  write a := writeBranch a 0 branches
  read
    | [] => none
    | tag :: rest =>
      match branches[tag.toNat]? with
      | none => none
      | some branch =>
        (branch.codec.read rest).map fun (payload, rest) => (branch.make payload, rest)
  Fits a := ∃ branch ∈ branches, ∃ payload, branch.open? a = some payload ∧
    branch.codec.Fits payload

end Codec

end PooledCredit
