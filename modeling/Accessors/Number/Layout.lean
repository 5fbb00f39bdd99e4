import Accessors.Number.Shortest

/-!
# Layout of numbers

Two ways to write a floating-point number from its shortest digits: `plain` is always positional,
`scientific` keeps a point in every number and turns to an exponent for very large and very small
ones.
-/

namespace Accessors.Number

namespace Decimal

def zeros (n : Nat) : List Char := List.replicate n '0'

/-- Digits before and behind the point. -/
def parts (d : Decimal) : List Char × List Char :=
  if d.point ≤ 0 then (['0'], zeros (-d.point).toNat ++ d.digits)
  else
    let n := d.point.toNat
    (d.digits.take n ++ zeros (n - d.digits.length), d.digits.drop n)

/-- One digit before the point, and the power of ten that this takes out. -/
def powered (d : Decimal) : List Char :=
  let e := d.point - 1
  let mantissa :=
    match d.digits with
    | first :: [] => [first]
    | first :: rest => first :: '.' :: rest
    | [] => ['0']
  mantissa ++ (if e < 0 then ['e', '-'] else ['e', '+']) ++ Nat.toDigits 10 e.natAbs

end Decimal

def signOf (x : Float) : List Char := if isNegative x then ['-'] else []

/-- Positional at any size, without a point in whole numbers. A tie goes up. -/
def plain (x : Float) : String :=
  if x.isNaN then "NaN"
  else if x.isInf then (if isNegative x then "-inf" else "inf")
  else if x == 0 then .ofList (signOf x ++ ['0'])
  else
    let (whole, fraction) := (decimalOf .up x).parts
    .ofList (signOf x ++ whole ++ (if fraction.isEmpty then [] else '.' :: fraction))

/-- Positional from `1e-5` to below `1e16`, with `.0` behind whole numbers, and with an exponent
outside. A tie goes to the even digit. -/
def scientific (x : Float) : List Char :=
  if x == 0 then signOf x ++ ['0', '.', '0']
  else
    let d := decimalOf .toEven x
    if -5 < d.point && d.point ≤ 16 then
      let (whole, fraction) := d.parts
      signOf x ++ whole ++ '.' :: (if fraction.isEmpty then ['0'] else fraction)
    else signOf x ++ d.powered

end Accessors.Number
