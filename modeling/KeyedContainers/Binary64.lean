/-!
# Double-precision numbers

A number of the 64-bit binary interchange format, held as its bits: one sign bit,
eleven bits of exponent and fifty-two bits of fraction. The classes of numbers and
the comparisons are read off these fields, so they are exact and need no arithmetic.
-/

namespace KeyedContainers

/-- A double-precision number as its 64 bits. -/
structure Binary64 where
  bits : UInt64
deriving Repr, Inhabited

namespace Binary64

/-- The word in which only the sign bit is set. -/
def signBit : Nat := 0x8000000000000000

/-- The number of fractions. -/
def fractionCount : Nat := 0x10000000000000

/-- The exponent field of infinities and non-numbers, all ones. -/
def topExponent : Nat := 0x7ff

/-- Positive zero. -/
def zero : Binary64 := ⟨0⟩

/-- Whether the sign bit is set. -/
def isNegative (x : Binary64) : Bool := signBit ≤ x.bits.toNat

/-- The exponent field, which lies between the sign bit and the fraction. -/
def exponentField (x : Binary64) : Nat := x.bits.toNat % signBit / fractionCount

/-- The fraction field. -/
def fraction (x : Binary64) : Nat := x.bits.toNat % fractionCount

/-- Whether the bits denote no number. -/
def isNaN (x : Binary64) : Bool := x.exponentField == topExponent && x.fraction != 0

/-- Whether the number is one of the two infinities. -/
def isInfinite (x : Binary64) : Bool := x.exponentField == topExponent && x.fraction == 0

/-- Whether the number is one of the two zeros. -/
def isZero (x : Binary64) : Bool := x.exponentField == 0 && x.fraction == 0

/-- Whether the number is greater than zero; a non-number is not. -/
def isPositive (x : Binary64) : Bool := !x.isNegative && !x.isNaN && !x.isZero

/-- Numeric equality: the two zeros are equal, and a non-number equals nothing. -/
instance : BEq Binary64 where
  beq x y := !x.isNaN && (x.bits == y.bits || x.isZero && y.isZero)

/-- The whole number which, times a power of two, is the magnitude of a finite number. -/
def significand (x : Binary64) : Nat :=
  if x.exponentField = 0 then x.fraction else fractionCount + x.fraction

/-- The exponent of that power of two. -/
def exponent (x : Binary64) : Int :=
  max x.exponentField 1 - 1075

end Binary64

end KeyedContainers
