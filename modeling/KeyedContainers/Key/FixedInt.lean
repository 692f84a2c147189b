import KeyedContainers.Key.Hasher
import KeyedContainers.Text.Listing

/-!
# Integers of a fixed width

An integer kind is a width in bits and a choice of sign. Its integers are held as words of that
width, in two's complement where they are signed, and a number outside the range of the kind
is none of them.
-/

namespace KeyedContainers

open Text

/-- A width in bits, with or without a sign. -/
structure IntKind where
  signed : Bool
  width : Nat
deriving DecidableEq, Repr

/-- An integer of a kind, as a word. -/
structure FixedInt (kind : IntKind) where
  word : BitVec kind.width
deriving DecidableEq, Repr

namespace FixedInt

variable {kind : IntKind}

/-- The number that the word denotes. -/
def toInt (n : FixedInt kind) : Int :=
  if kind.signed then n.word.toInt else n.word.toNat

/-- The integer of the kind that denotes a number. -/
def ofInt? (kind : IntKind) (i : Int) : Option (FixedInt kind) :=
  let n : FixedInt kind := ⟨BitVec.ofInt kind.width i⟩
  if n.toInt = i then some n else none

/-- Integers of a kind are ordered as numbers. -/
def le (m n : FixedInt kind) : Bool := m.toInt ≤ n.toInt

/-- An integer is listed in decimal. -/
instance : Listed (FixedInt kind) := ⟨fun n => .atom n.toInt.repr⟩

/-- An integer feeds the bytes of its word. -/
instance : Feed (FixedInt kind) := ⟨fun n => littleEndian (kind.width / 8) n.word.toNat⟩

end FixedInt

end KeyedContainers
