/-!
# Shortest decimals

The fewest digits that read back as a given binary number, and of those the nearest; of two equally
near ones a `Tie` decides. `shortest` works on the exact value `m * 2 ^ q`: it tests the two
neighbours of the value on ever finer decimal grids against the interval of reals that round to it.
-/

namespace Accessors.Number

/-- Which of two equally near decimals counts: the one with an even last digit, or the greater. -/
inductive Tie where
  | toEven
  | up
  deriving DecidableEq

/-- Whether the lesser of two equally near neighbours counts. -/
def Tie.prefersBelow (tie : Tie) (below : Nat) : Bool :=
  match tie with
  | .toEven => below % 2 == 0
  | .up => false

/-- A positive decimal: the digits, and how many of them stand before the point. -/
structure Decimal where
  digits : List Char
  point : Int

/-- The reals that round to a binary number, and the number itself, over one denominator. The ends
belong to the interval when `closed` holds. -/
structure Interval where
  low : Nat
  value : Nat
  high : Nat
  den : Nat
  closed : Bool

namespace Interval

/-- The interval around `m * 2 ^ q`. Below a power of two the grid of binary numbers is twice as
fine (`narrow`). -/
def around (m : Nat) (q : Int) (narrow : Bool) : Interval :=
  let num := Nat.pow 2 (q - 2).toNat
  let den := Nat.pow 2 (2 - q).toNat
  { low := (if narrow then 4 * m - 1 else 4 * m - 2) * num
    value := 4 * m * num
    high := (4 * m + 2) * num
    den := den
    closed := m % 2 == 0 }

/-- Whether the fraction `a / b`, given over the interval's own denominator, lies inside. -/
def admits (i : Interval) (a b : Nat) : Bool :=
  if i.closed then i.low * b ≤ a && a ≤ i.high * b else i.low * b < a && a < i.high * b

/-- How often `value` must grow tenfold to reach `den`, at most `fuel` times. -/
def zeros (value den : Nat) : Nat → Nat
  | 0 => 0
  | fuel + 1 => if den ≤ value then 0 else zeros (10 * value) den fuel + 1

/-- The number of digits before the point, negative for leading zeros behind it. -/
def magnitude (i : Interval) : Int :=
  if i.den ≤ i.value then (Nat.toDigits 10 (i.value / i.den)).length
  else 1 - (zeros i.value i.den 400 : Nat)

/-- The neighbour of the value on the grid `10 ^ g` that lies in the interval: the nearer one if
both do. -/
def onGrid? (i : Interval) (tie : Tie) (g : Int) : Option Nat :=
  let up := Nat.pow 10 (-g).toNat
  let unit := i.den * Nat.pow 10 g.toNat
  let below := i.value * up / unit
  let above := below + 1
  let toBelow := i.value * up - below * unit
  let toAbove := above * unit - i.value * up
  let preferBelow := toBelow < toAbove || (toBelow == toAbove && tie.prefersBelow below)
  match i.admits (below * unit) up && below != 0, i.admits (above * unit) up with
  | true, true => some (if preferBelow then below else above)
  | true, false => some below
  | false, true => some above
  | false, false => none

end Interval

def dropTrailingZeros (ds : List Char) : List Char := (ds.reverse.dropWhile (· == '0')).reverse

/-- The digits of `n`, which counts units of `10 ^ g`. -/
def Decimal.ofUnits (n : Nat) (g : Int) : Decimal :=
  let ds := Nat.toDigits 10 n
  { digits := dropTrailingZeros ds, point := ds.length + g }

/-- The first of the grids with `17 - fuel` digits and more that has a hit. Seventeen digits always
suffice. -/
def Interval.search (i : Interval) (tie : Tie) (top : Int) : Nat → Decimal
  | 0 => .ofUnits (i.value / i.den) 0
  | fuel + 1 =>
    let g := top - (17 - fuel : Int)
    match i.onGrid? tie g with
    | some n => .ofUnits n g
    | none => i.search tie top fuel

def shortest (tie : Tie) (m : Nat) (q : Int) (narrow : Bool) : Decimal :=
  let i := Interval.around m q narrow
  i.search tie i.magnitude 17

/-- The shortest decimal of the absolute value of a finite number other than zero. -/
def decimalOf (tie : Tie) (x : Float) : Decimal :=
  let bits := x.toBits.toNat
  let fraction : Nat := bits % Nat.pow 2 52
  let biased : Nat := bits / Nat.pow 2 52 % Nat.pow 2 11
  if biased = 0 then shortest tie fraction (-1074) false
  else shortest tie (Nat.pow 2 52 + fraction) ((biased : Int) - 1075) (fraction == 0 && biased != 1)

def isNegative (x : Float) : Bool := x.toBits.toNat / Nat.pow 2 63 == 1

end Accessors.Number
