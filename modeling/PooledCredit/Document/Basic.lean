import PooledCredit.Text.Hex

/-!
# Documents

A document is what is told of a value to the outside: a text, a flag, a list, or a record of
named fields. Numbers are told in decimal and identifiers in hexadecimal.
-/

namespace PooledCredit

/-- What is told of a value. -/
inductive Document where
  | nothing
  | flag (value : Bool)
  | text (value : String)
  | list (entries : List Document)
  | record (fields : List (String × Document))

/-- The types whose values can be told. -/
class ToDocument (α : Type) where
  toDocument : α → Document

export ToDocument (toDocument)

/-- The types of finitely many values that are told by a label. -/
class Labelled (α : Type) where
  /-- Every value. -/
  all : List α
  label : α → String

export Labelled (label)

/-- The value with the given label. -/
def Labelled.ofLabel? (α : Type) [Labelled α] (text : String) : Option α :=
  Labelled.all.find? fun a => label a == text

/-- A field of a record. -/
def Document.field {α : Type} [ToDocument α] (name : String) (a : α) : String × Document :=
  (name, toDocument a)

instance : ToDocument Document := ⟨fun document => document⟩

instance : ToDocument Unit := ⟨fun _ => .nothing⟩

instance : ToDocument Bool := ⟨.flag⟩

instance : ToDocument String := ⟨.text⟩

instance : ToDocument Nat := ⟨fun n => .text (toString n)⟩

instance : ToDocument Int := ⟨fun n => .text (toString n)⟩

instance : ToDocument Id := ⟨fun a => .text a.hex⟩

instance : ToDocument Item := ⟨fun i => .list [toDocument i.collection, toDocument i.token]⟩

instance {α : Type} [Labelled α] : ToDocument α := ⟨fun a => .text (label a)⟩

variable {α β : Type} [ToDocument α] [ToDocument β]

instance : ToDocument (Option α) := ⟨fun a => a.elim .nothing toDocument⟩

instance : ToDocument (List α) := ⟨fun as => .list (as.map toDocument)⟩

instance : ToDocument (α × β) := ⟨fun (a, b) => .list [toDocument a, toDocument b]⟩

end PooledCredit
