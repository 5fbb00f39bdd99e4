import Accessors.Json.Basic

/-!
# Scalars in JSON texts

Strings and numbers at the head of a list of characters. Each can be read, which gives its value, or
passed over, which asks less of it: a surrogate may stand alone and a number may be of any size.
-/

namespace Accessors.Json

/-- How a text fails to be JSON: something in it is wrong, or it ends too early. -/
inductive Flaw where
  | malformed
  | cutShort
  deriving DecidableEq

def hexValue? (c : Char) : Option Nat :=
  if '0' ≤ c && c ≤ '9' then some (c.toNat - '0'.toNat)
  else if 'a' ≤ c && c ≤ 'f' then some (c.toNat - 'a'.toNat + 10)
  else if 'A' ≤ c && c ≤ 'F' then some (c.toNat - 'A'.toNat + 10)
  else none

/-- Four hexadecimal digits as one 16-bit unit. -/
def unit? (a b c d : Char) : Option Nat := do
  return (((← hexValue? a) * 16 + (← hexValue? b)) * 16 + (← hexValue? c)) * 16 + (← hexValue? d)

/-- A unit of fewer than four characters: the text ends, unless they fill four bytes. -/
def shortUnit (cs : List Char) : Flaw :=
  if (String.ofList cs).utf8ByteSize < 4 then .cutShort else .malformed

def escaped? : Char → Option Char
  | '"' => some '"'
  | '\\' => some '\\'
  | '/' => some '/'
  | 'b' => some '\x08'
  | 'f' => some '\x0c'
  | 'n' => some '\n'
  | 'r' => some '\r'
  | 't' => some '\t'
  | _ => none

def isHighSurrogate (n : Nat) : Bool := 0xD800 ≤ n && n ≤ 0xDBFF

def isLowSurrogate (n : Nat) : Bool := 0xDC00 ≤ n && n ≤ 0xDFFF

def paired (high low : Nat) : Char := .ofNat ((high - 0xD800) * 0x400 + (low - 0xDC00) + 0x10000)

abbrev Read (α : Type) := Except Flaw (α × List Char)

def Read.push (c : Char) (r : Read (List Char)) : Read (List Char) := r.map fun p => (c :: p.1, p.2)

/-- The characters up to the closing quote, and what follows it. -/
def readString : List Char → Read (List Char)
  | [] => .error .cutShort
  | c :: rest =>
    if c = '"' then .ok ([], rest)
    else if c = '\\' then
      match rest with
      | [] => .error .cutShort
      | e :: rest =>
        if e = 'u' then
          match rest with
          | a :: b :: c :: d :: rest =>
            match unit? a b c d with
            | none => .error .malformed
            | some n =>
              if isLowSurrogate n then .error .malformed
              else if isHighSurrogate n then
                match rest with
                | [] => .error .cutShort
                | e :: rest =>
                  if e = '\\' then
                    match rest with
                    | [] => .error .cutShort
                    | u :: rest =>
                      if u = 'u' then
                        match rest with
                        | a :: b :: c :: d :: rest =>
                          match unit? a b c d with
                          | none => .error .malformed
                          | some m =>
                            if isLowSurrogate m then (readString rest).push (paired n m)
                            else .error .malformed
                        | short => .error (shortUnit short)
                      else .error .malformed
                  else .error .malformed
              else (readString rest).push (.ofNat n)
          | short => .error (shortUnit short)
        else
          match escaped? e with
          | some c => (readString rest).push c
          | none => .error .malformed
    else if c.toNat < 32 then .error .malformed
    else (readString rest).push c

/-- What follows the closing quote of a string that nobody asks for. -/
def skipString : List Char → Except Flaw (List Char)
  | [] => .error .cutShort
  | c :: rest =>
    if c = '"' then .ok rest
    else if c = '\\' then
      match rest with
      | [] => .error .cutShort
      | e :: rest =>
        if e = 'u' then
          match rest with
          | a :: b :: c :: d :: rest =>
            if (unit? a b c d).isSome then skipString rest else .error .malformed
          | short => .error (shortUnit short)
        else if (escaped? e).isSome then skipString rest
        else .error .malformed
    else if c.toNat < 32 then .error .malformed
    else skipString rest

/-! ### Numbers -/

def isDigit (c : Char) : Bool := '0' ≤ c && c ≤ '9'

def digitValue (c : Char) : Nat := c.toNat - '0'.toNat

def splitDigits (cs : List Char) : List Char × List Char :=
  (cs.takeWhile isDigit, cs.dropWhile isDigit)

def ofDigits (ds : List Char) : Nat := ds.foldl (fun n d => 10 * n + digitValue d) 0

/-- The digits of a number as far as 64 bits hold them, and the power of ten still to apply. -/
structure Significand where
  value : Nat
  power : Int := 0

/-- Digits before the point. Once one does not fit, it and all later ones only count as places. -/
def Significand.whole (ds : List Char) : Significand :=
  ds.foldl (fun s d =>
    let n := 10 * s.value + digitValue d
    if s.power = 0 && n < Nat.pow 2 64 then { s with value := n } else { s with power := s.power + 1 })
    ⟨0, 0⟩

/-- Digits behind the point. The first one that does not fit ends the significand. -/
def Significand.fraction (s : Significand) : List Char → Significand
  | [] => s
  | d :: rest =>
    let n := 10 * s.value + digitValue d
    if n < Nat.pow 2 64 then Significand.fraction ⟨n, s.power - 1⟩ rest else s

/-- `x * 10 ^ power`, unless it is too large. Three divisions by `1e308` make any significand
zero. -/
def scaled? (x : Float) (power : Int) : Nat → Option Float
  | 0 => some x
  | fuel + 1 =>
    if power.natAbs ≤ 308 then
      let ten := Float.ofScientific 1 false power.natAbs
      if 0 ≤ power then (if (x * ten).isInf then none else some (x * ten)) else some (x / ten)
    else if x == 0 then some x
    else if 0 ≤ power then none
    else scaled? (x / 1e308) (power + 308) fuel

def Significand.toFloat? (negative : Bool) (s : Significand) : Option Float :=
  (scaled? (UInt64.ofNat s.value).toFloat s.power 4).map fun x => if negative then -x else x

def Significand.read (negative : Bool) (s : Significand) (rest : List Char) : Read Number :=
  match s.toFloat? negative with
  | some x => .ok (.float x, rest)
  | none => .error .malformed

def noDigit : List Char → Flaw
  | [] => .cutShort
  | _ => .malformed

def isExponentMark (c : Char) : Bool := c == 'e' || c == 'E'

def readExponent (negative : Bool) (s : Significand) (cs : List Char) : Read Number :=
  let (down, cs) :=
    match cs with
    | '-' :: rest => (true, rest)
    | '+' :: rest => (false, rest)
    | _ => (false, cs)
  let (ds, rest) := splitDigits cs
  if ds.isEmpty then .error (noDigit rest)
  else
    let e : Int := ofDigits ds
    Significand.read negative { s with power := if down then s.power - e else s.power + e } rest

def readFraction (negative : Bool) (s : Significand) (cs : List Char) : Read Number :=
  let (ds, rest) := splitDigits cs
  if ds.isEmpty then .error (noDigit rest)
  else
    let s := s.fraction ds
    match rest with
    | c :: after => if isExponentMark c then readExponent negative s after else s.read negative rest
    | [] => s.read negative rest

/-- A number behind its sign. Whole numbers that 64 bits hold stay whole, but for `-0`. -/
def readUnsigned (negative : Bool) (cs : List Char) : Read Number :=
  let (ds, rest) := splitDigits cs
  if ds.isEmpty then .error (noDigit rest)
  else if ds.head? == some '0' && ds.length != 1 then .error .malformed
  else
    let s := Significand.whole ds
    let plain : Read Number :=
      if s.power = 0 && !negative then .ok (.int s.value, rest)
      else if s.power = 0 && s.value != 0 && s.value ≤ Nat.pow 2 63 then .ok (.int (-s.value), rest)
      else s.read negative rest
    match rest with
    | c :: after =>
      if c = '.' then readFraction negative s after
      else if isExponentMark c then readExponent negative s after
      else plain
    | [] => plain

def readNumber : List Char → Read Number
  | '-' :: rest => readUnsigned true rest
  | cs => readUnsigned false cs

def skipExponent (cs : List Char) : Except Flaw (List Char) :=
  let cs :=
    match cs with
    | '-' :: rest => rest
    | '+' :: rest => rest
    | _ => cs
  let (ds, rest) := splitDigits cs
  if ds.isEmpty then .error .malformed else .ok rest

def skipFraction (cs : List Char) : Except Flaw (List Char) :=
  let (ds, rest) := splitDigits cs
  if ds.isEmpty then .error .malformed
  else
    match rest with
    | c :: after => if isExponentMark c then skipExponent after else .ok rest
    | [] => .ok rest

def skipUnsigned (cs : List Char) : Except Flaw (List Char) :=
  let (ds, rest) := splitDigits cs
  if ds.isEmpty then .error .malformed
  else if ds.head? == some '0' && ds.length != 1 then .error .malformed
  else
    match rest with
    | c :: after =>
      if c = '.' then skipFraction after
      else if isExponentMark c then skipExponent after
      else .ok rest
    | [] => .ok rest

/-- What follows a number that nobody asks for. -/
def skipNumber : List Char → Except Flaw (List Char)
  | '-' :: rest => skipUnsigned rest
  | cs => skipUnsigned cs

end Accessors.Json
