import Accessors.Text.Casing
import Accessors.Text.GlyphTable

/-!
# Quoted texts

A text as an error message shows it: in double quotes, with a backslash before quotes and
backslashes, and characters that show no glyph of their own as `\u{…}` in hexadecimal.
-/

namespace Accessors.Text

def hex (n : Nat) : List Char := Nat.toDigits 16 n

def escapesGlyph (c : Char) : Bool :=
  inRanges graphemeExtendRanges c || inRanges unprintableRanges c

def quoteChar (c : Char) : List Char :=
  match c with
  | '\x00' => ['\\', '0']
  | '\t' => ['\\', 't']
  | '\r' => ['\\', 'r']
  | '\n' => ['\\', 'n']
  | '\\' => ['\\', '\\']
  | '"' => ['\\', '"']
  | c => if escapesGlyph c then ['\\', 'u', '{'] ++ hex c.toNat ++ ['}'] else [c]

def quote (s : String) : String := .ofList ('"' :: s.toList.flatMap quoteChar ++ ['"'])

end Accessors.Text
