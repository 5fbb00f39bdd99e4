import Accessors.Number.Numeral
import Accessors.Number.Shortest

/-!
# Dates and times

A date, a time of day or both, with an offset from universal time behind both. `ofChars?` gives the
text that a setting shows for them: `T` between date and time, no zeros at the end of a second's
fraction, and an offset by its sign, hours and minutes. What it gives it reads back as it is.
-/

namespace Accessors.Settings.DateTime

open Number (isDecimalDigit natOf)

/-- Matches digits (`d`) and literal characters of a pattern. -/
def fits (pattern : String) (cs : List Char) : Bool :=
  pattern.length == cs.length &&
    (pattern.toList.zip cs).all fun (p, c) => if p = 'd' then isDecimalDigit c else p == c

def field (cs : List Char) (start length : Nat) : Nat := natOf ((cs.drop start).take length)

def daysIn (year month : Nat) : Nat :=
  if month = 2 then (if year % 4 = 0 && (year % 100 != 0 || year % 400 = 0) then 29 else 28)
  else if [4, 6, 9, 11].contains month then 30
  else 31

def isDate (cs : List Char) : Bool :=
  fits "dddd-dd-dd" cs && 1 ≤ field cs 5 2 && field cs 5 2 ≤ 12 && 1 ≤ field cs 8 2 &&
    field cs 8 2 ≤ daysIn (field cs 0 4) (field cs 5 2)

/-- Without the zeros at the end of the second's fraction; at most nine digits count. -/
def trimFraction (ds : List Char) : List Char :=
  let kept := Number.dropTrailingZeros (ds.take 9)
  if kept.isEmpty then [] else '.' :: kept

/-- A time of day. A leap second is one. -/
def time? (cs : List Char) : Option (List Char) := do
  let head := cs.take 8
  if !fits "dd:dd:dd" head || field head 0 2 > 23 || field head 3 2 > 59 || field head 6 2 > 60 then
    failure
  match cs.drop 8 with
  | [] => return head
  | '.' :: ds =>
    if ds.isEmpty || !ds.all isDecimalDigit then failure else return head ++ trimFraction ds
  | _ => failure

/-- An offset from universal time. No offset is negative zero. -/
def offset? (cs : List Char) : Option (List Char) :=
  match cs with
  | ['Z'] => some ['Z']
  | ['z'] => some ['Z']
  | sign :: r =>
    if (sign == '+' || sign == '-') && fits "dd:dd" r && field r 0 2 ≤ 23 && field r 3 2 ≤ 59 then
      some ((if r = "00:00".toList then '+' else sign) :: r)
    else none
  | [] => none

def isOffsetStart (c : Char) : Bool := c == 'Z' || c == 'z' || c == '+' || c == '-'

/-- Dates, times and both, the latter with or without an offset. -/
def ofChars? (cs : List Char) : Option String :=
  match time? cs with
  | some t => some (.ofList t)
  | none => do
    let date := cs.take 10
    if !isDate date then failure
    match cs.drop 10 with
    | [] => return .ofList date
    | d :: r =>
      if d != 'T' && d != 't' && d != ' ' then failure
      let t ← time? (r.takeWhile (!isOffsetStart ·))
      match r.dropWhile (!isOffsetStart ·) with
      | [] => return .ofList (date ++ 'T' :: t)
      | o => return .ofList (date ++ 'T' :: t ++ (← offset? o))

end Accessors.Settings.DateTime
