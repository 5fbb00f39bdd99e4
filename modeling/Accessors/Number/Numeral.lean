/-!
# Numerals

Numbers as texts of their own: whole numbers of 64 bits, and floating-point numbers with a point, an
exponent, or one of the names of infinity and of no number.
-/

namespace Accessors.Number

/-- The float nearest to `mantissa * 10 ^ exponent`. -/
def ofDecimal (mantissa : Nat) (exponent : Int) : Float :=
  let places : Int := (Nat.toDigits 10 mantissa).length + exponent
  if mantissa = 0 || places < -330 then 0
  else if 310 < places then 1 / 0
  else .ofScientific mantissa (exponent < 0) exponent.natAbs

def splitSign (cs : List Char) : Bool × List Char :=
  match cs with
  | '-' :: rest => (true, rest)
  | '+' :: rest => (false, rest)
  | rest => (false, rest)

def isDecimalDigit (c : Char) : Bool := '0' ≤ c && c ≤ '9'

def natOf (ds : List Char) : Nat := ds.foldl (fun n d => 10 * n + (d.toNat - '0'.toNat)) 0

/-- A signed number of 64 bits; leading zeros do not matter. -/
def int64? (text : String) : Option Int :=
  let (negative, ds) := splitSign text.toList
  if ds.isEmpty || !ds.all isDecimalDigit then none
  else
    let n : Int := if negative then -(natOf ds : Int) else natOf ds
    if -Int.pow 2 63 ≤ n && n < Int.pow 2 63 then some n else none

/-- The exponent behind the digits, which is zero where there is none. -/
def exponent? (cs : List Char) : Option Int :=
  match cs with
  | [] => some 0
  | e :: rest =>
    let (negative, ds) := splitSign rest
    if (e != 'e' && e != 'E') || ds.isEmpty || !ds.all isDecimalDigit then none
    else some (if negative then -(natOf ds : Int) else natOf ds)

/-- Digits with at most one point among them, and an exponent. -/
def unsignedFloat? (cs : List Char) : Option Float :=
  let whole := cs.takeWhile isDecimalDigit
  let rest := cs.dropWhile isDecimalDigit
  let (fraction, rest) :=
    match rest with
    | '.' :: more => (more.takeWhile isDecimalDigit, more.dropWhile isDecimalDigit)
    | _ => ([], rest)
  if whole.isEmpty && fraction.isEmpty then none
  else (exponent? rest).map fun e => ofDecimal (natOf (whole ++ fraction)) (e - fraction.length)

def float? (text : String) : Option Float :=
  let (negative, cs) := splitSign text.toList
  let name := cs.map Char.toLower
  let x :=
    if name = "inf".toList || name = "infinity".toList then some (1 / 0)
    else if name = "nan".toList then some (0 / 0)
    else unsignedFloat? cs
  x.map fun x => if negative then -x else x

end Accessors.Number
