import KeyedContainers.Key.FixedInt

/-!
# Matching of stored values and queries

Whether a stored value matches a query is a relation of its own, which a type may choose freely
and which need not be the equality of the type. It may hold between different types. For plain
values it is equality; a text matches a slice of the same characters, in either role; and a
value in a holder matches another in the same kind of holder as the values themselves do.
-/

namespace KeyedContainers

open Text

/-- The relation by which a stored value accepts a query. -/
class Matches (α β : Type) where
  agrees : α → β → Bool

export Matches (agrees)

instance {kind : IntKind} : Matches (FixedInt kind) (FixedInt kind) := ⟨fun a b => a == b⟩

instance : Matches Bool Bool := ⟨fun a b => a == b⟩

instance : Matches Char Char := ⟨fun a b => a == b⟩

instance : Matches String String := ⟨fun a b => a == b⟩

instance : Matches String String.Slice := ⟨fun a b => a == b.copy⟩

instance : Matches String.Slice String := ⟨fun a b => a.copy == b⟩

instance : Matches String.Slice String.Slice := ⟨fun a b => a.copy == b.copy⟩

/-- The kinds of holders. -/
inductive Holder where
  /-- The value is kept elsewhere. -/
  | borrowed
  /-- The value has this holder alone. -/
  | owned
  /-- The value may have several holders. -/
  | counted
  /-- The value may have several holders in several threads. -/
  | threadCounted
deriving DecidableEq, Repr

/-- A value in a holder. -/
structure Held (holder : Holder) (α : Type) where
  content : α
deriving DecidableEq, Repr

/-- Held values match as their contents do. -/
instance {holder : Holder} {α β : Type} [Matches α β] : Matches (Held holder α) (Held holder β) :=
  ⟨fun a b => agrees a.content b.content⟩

/-- A held value feeds what its content does. -/
instance {holder : Holder} {α : Type} [Feed α] : Feed (Held holder α) :=
  ⟨fun a => Feed.feed a.content⟩

/-- A held value is listed as its content. -/
instance {holder : Holder} {α : Type} [Listed α] : Listed (Held holder α) :=
  ⟨fun a => Listed.listing a.content⟩

end KeyedContainers
