import KeyedContainers.Binary64.Shortest

/-!
# Text of double-precision numbers

A number is written by the digits of its shortest decimal. The two styles differ in
where positional writing ends and in whether a whole number keeps a point: the plain
style is always positional and has no point it does not need; the exact style turns to an
exponent for large and small numbers and otherwise shows at least one decimal place.
-/

namespace KeyedContainers.Binary64

/-- The choices in writing a number. -/
structure Style where
  /-- Whether a number whose leading digit has this exponent is written without an exponent. -/
  positional : Int → Bool
  /-- Whether a whole number ends in a point and a zero. -/
  keepsPoint : Bool

/-- Always positional, and whole numbers without a point. -/
def Style.plain : Style := ⟨fun _ => true, false⟩

/-- Positional from a ten-thousandth up to below ten to the sixteenth, with at least one place. -/
def Style.exact : Style := ⟨fun e => -4 ≤ e && e < 16, true⟩

/-- Digits with the point after the digit of exponent zero, padded with zeros up to it. -/
def positionalText (d : Decimal) (keepsPoint : Bool) : List Char :=
  let digits := d.digits
  let point := d.leading + 1
  if point ≤ 0 then '0' :: '.' :: List.replicate (-point).toNat '0' ++ digits
  else if point.toNat < digits.length then
    digits.take point.toNat ++ '.' :: digits.drop point.toNat
  else
    digits ++ List.replicate (point.toNat - digits.length) '0' ++
      if keepsPoint then ['.', '0'] else []

/-- Digits with the point after the first one, then the exponent of that digit. -/
def scientificText (d : Decimal) : List Char :=
  match d.digits with
  | [] => []
  | first :: rest =>
    first :: (if rest.isEmpty then [] else '.' :: rest) ++ 'e' :: (toString d.leading).toList

/-- The text of a number in a style. -/
def text (style : Style) (x : Binary64) : String :=
  if x.isNaN then "NaN"
  else
    let sign := if x.isNegative then "-" else ""
    if x.isInfinite then sign ++ "inf"
    else
      let d := x.shortest
      let magnitude :=
        if x.isZero || style.positional d.leading then positionalText d style.keepsPoint
        else scientificText d
      sign ++ String.ofList magnitude

end KeyedContainers.Binary64
