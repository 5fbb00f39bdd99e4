import Accessors.Json.Basic
import Accessors.Number.Layout

/-!
# Writing JSON

`compact` has no blanks at all; `pretty` puts every item and member on a line of its own, two
blanks deeper than its container.
-/

namespace Accessors.Json

def hexDigit (n : Nat) : Char := Nat.digitChar n

/-- A character inside quotes: controls, quotes and backslashes are escaped. -/
def escapeChar (c : Char) : List Char :=
  if c = '"' then ['\\', '"']
  else if c = '\\' then ['\\', '\\']
  else if c.toNat = 8 then ['\\', 'b']
  else if c.toNat = 12 then ['\\', 'f']
  else if c = '\n' then ['\\', 'n']
  else if c = '\r' then ['\\', 'r']
  else if c = '\t' then ['\\', 't']
  else if c.toNat < 32 then ['\\', 'u', '0', '0', hexDigit (c.toNat / 16), hexDigit (c.toNat % 16)]
  else [c]

def stringChars (s : String) : List Char := '"' :: s.toList.flatMap escapeChar ++ ['"']

def intChars (n : Int) : List Char :=
  if n < 0 then '-' :: Nat.toDigits 10 n.natAbs else Nat.toDigits 10 n.natAbs

def Number.chars : Number → List Char
  | .int n => intChars n
  | .float x => Accessors.Number.scientific x

def boolChars (b : Bool) : List Char :=
  if b then ['t', 'r', 'u', 'e'] else ['f', 'a', 'l', 's', 'e']

mutual

def compactChars : Json → List Char
  | .null => ['n', 'u', 'l', 'l']
  | .bool b => boolChars b
  | .num n => n.chars
  | .str s => stringChars s
  | .arr items => '[' :: compactItems true items ++ [']']
  | .obj members => '{' :: compactMembers true members ++ ['}']

def compactItems (first : Bool) : List Json → List Char
  | [] => []
  | v :: rest => (if first then [] else [',']) ++ compactChars v ++ compactItems false rest

def compactMembers (first : Bool) : List (String × Json) → List Char
  | [] => []
  | (k, v) :: rest =>
    (if first then [] else [',']) ++ stringChars k ++ ':' :: compactChars v ++
      compactMembers false rest

end

def compact (v : Json) : String := .ofList (compactChars v)

def newline (depth : Nat) : List Char := '\n' :: List.replicate (2 * depth) ' '

mutual

def prettyChars (depth : Nat) : Json → List Char
  | .null => ['n', 'u', 'l', 'l']
  | .bool b => boolChars b
  | .num n => n.chars
  | .str s => stringChars s
  | .arr [] => ['[', ']']
  | .arr (v :: rest) =>
    '[' :: prettyItems (depth + 1) true (v :: rest) ++ newline depth ++ [']']
  | .obj [] => ['{', '}']
  | .obj (m :: rest) =>
    '{' :: prettyMembers (depth + 1) true (m :: rest) ++ newline depth ++ ['}']

def prettyItems (depth : Nat) (first : Bool) : List Json → List Char
  | [] => []
  | v :: rest =>
    (if first then [] else [',']) ++ newline depth ++ prettyChars depth v ++
      prettyItems depth false rest

def prettyMembers (depth : Nat) (first : Bool) : List (String × Json) → List Char
  | [] => []
  | (k, v) :: rest =>
    (if first then [] else [',']) ++ newline depth ++ stringChars k ++ ':' :: ' ' ::
      prettyChars depth v ++ prettyMembers depth false rest

end

def pretty (v : Json) : String := .ofList (prettyChars 0 v)

end Accessors.Json
