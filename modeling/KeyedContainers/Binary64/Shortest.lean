import KeyedContainers.Binary64

/-!
# The shortest decimal of a double-precision number

Of the decimals that read back as a given number, the shortest is the one with the
fewest digits, and of those the nearest to the number; of two equally near ones it is
the larger. Decimals are tried on grids of one, two, and up to seventeen digits. On
each grid only the two neighbours of the number matter: if any point of the grid reads
back, one of them does. All comparisons are between whole numbers, so nothing is rounded.
-/

namespace KeyedContainers

/-- The decimal fraction `coefficient · 10 ^ exponent`. -/
structure Decimal where
  coefficient : Nat
  exponent : Int
deriving DecidableEq, Repr

namespace Decimal

/-- The digits of the coefficient, the most significant first. -/
def digits (d : Decimal) : List Char := Nat.toDigits 10 d.coefficient

/-- The exponent of the leading digit. -/
def leading (d : Decimal) : Int := d.exponent + d.digits.length - 1

/-- The same fraction with a zero at the end of the coefficient moved to the exponent. -/
def dropZero (d : Decimal) : Decimal :=
  if d.coefficient % 10 = 0 then ⟨d.coefficient / 10, d.exponent + 1⟩ else d

end Decimal

/-- The decimals that read back as one number: those between two bounds around it. The
bounds and the number are fractions of a common denominator. -/
structure Neighbourhood where
  low : Nat
  centre : Nat
  high : Nat
  denominator : Nat
  /-- Whether the bounds themselves read back as the number. -/
  closed : Bool
deriving DecidableEq, Repr

namespace Neighbourhood

/-- The neighbourhood of a finite number that is not zero. The bounds lie halfway to the
adjacent numbers, and the lower one is nearer where the number is the first of its binade. A
decimal on a bound reads back as the number with the even significand. -/
def ofNumber (x : Binary64) : Neighbourhood :=
  let centre := 4 * x.significand
  let gap := if x.fraction = 0 ∧ 1 < x.exponentField then 1 else 2
  let power := x.exponent - 2
  let scale := Nat.pow 2 power.toNat
  { low := (centre - gap) * scale
    centre := centre * scale
    high := (centre + 2) * scale
    denominator := Nat.pow 2 (-power).toNat
    closed := x.significand % 2 == 0 }

/-- The exponent of the leading decimal digit of the centre. -/
def leading (n : Neighbourhood) : Int :=
  if n.denominator ≤ n.centre then
    (Nat.toDigits 10 (n.centre / n.denominator)).length - 1
  else
    -(Nat.toDigits 10 ((n.denominator - 1) / n.centre)).length

/-- Whether a decimal lies in the neighbourhood. -/
def contains (n : Neighbourhood) (d : Decimal) : Bool :=
  let point := d.coefficient * n.denominator * Nat.pow 10 d.exponent.toNat
  let scale := Nat.pow 10 (-d.exponent).toNat
  if n.closed then n.low * scale ≤ point && point ≤ n.high * scale
  else n.low * scale < point && point < n.high * scale

/-- The two neighbours of the centre among the multiples of a power of ten, and whether the upper
one is at least as near as the lower. -/
def around (n : Neighbourhood) (exponent : Int) : Decimal × Decimal × Bool :=
  let unit := n.denominator * Nat.pow 10 exponent.toNat
  let centre := n.centre * Nat.pow 10 (-exponent).toNat
  let floor := centre / unit
  (⟨floor, exponent⟩, ⟨floor + 1, exponent⟩, unit ≤ 2 * (centre - floor * unit))

/-- The nearest multiple of a power of ten that lies in the neighbourhood. -/
def nearest? (n : Neighbourhood) (exponent : Int) : Option Decimal :=
  let (lower, upper, upperNearer) := n.around exponent
  if n.contains upper && (upperNearer || !n.contains lower) then some upper
  else if n.contains lower then some lower
  else none

/-- The shortest decimal in the neighbourhood. Seventeen digits always suffice, so the last grid
answers if no earlier one does. -/
def shortest (n : Neighbourhood) : Decimal :=
  let hit? := (List.range 17).findSome? fun (digits : Nat) => n.nearest? (n.leading - digits)
  (hit?.getD (n.around (n.leading - 16)).1).dropZero

end Neighbourhood

/-- The shortest decimal that reads back as the magnitude of a finite number; zero for zero. -/
def Binary64.shortest (x : Binary64) : Decimal :=
  if x.isZero then ⟨0, 0⟩ else (Neighbourhood.ofNumber x).shortest

end KeyedContainers
