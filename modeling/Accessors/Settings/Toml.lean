import Accessors.Number.Numeral
import Accessors.Settings.DateTime
import Accessors.Settings.Value

/-!
# TOML

Reads a TOML document as a table of settings. A table may be opened once by a header; dotted keys
extend only tables that dotted keys have made. Dates and times are kept as text. While a document is
read a date is a table with one member of a name of its own, which a document may spell out too.
-/

namespace Accessors.Settings.Toml

/-- How a table came to be: by a path through it, by dotted keys, or by a header of its own. -/
inductive Origin where
  | implied
  | dotted
  | header
  deriving DecidableEq

inductive Node where
  | value (v : Value)
  | table (origin : Origin) (members : List (String × Node))
  /-- The tables of one `[[name]]`, the last one first. -/
  | tables (items : List (List (String × Node)))

abbrev Members := List (String × Node)

mutual

def Node.toValue : Node → Value
  | .value v => v
  | .table _ ms => .table (membersValue ms)
  | .tables items => .array (itemsValue items).reverse

def membersValue : List (String × Node) → List (String × Value)
  | [] => []
  | (k, n) :: rest => (k, n.toValue) :: membersValue rest

def itemsValue : List (List (String × Node)) → List Value
  | [] => []
  | ms :: rest => .table (membersValue ms) :: itemsValue rest

end

def setNode (key : String) (n : Node) : Members → Members
  | [] => [(key, n)]
  | (k, m) :: rest => if k = key then (k, n) :: rest else (k, m) :: setNode key n rest

/-! ### Text -/

def dropGaps (cs : List Char) : List Char := cs.dropWhile isGap

/-- Characters that may stand in comments and in strings as they are. -/
def isPlain (c : Char) : Bool := c == '\t' || (32 ≤ c.toNat && c.toNat != 127)

/-- Gaps, a comment and the end of the line; nothing if something else is there. -/
def endOfLine? (cs : List Char) : Option (List Char) :=
  let cs := dropGaps cs
  let cs :=
    match cs with
    | '#' :: rest => rest.dropWhile isPlain
    | cs => cs
  match cs with
  | [] => some []
  | '\n' :: rest => some rest
  | '\r' :: '\n' :: rest => some rest
  | _ => none

/-- Gaps, comments and line breaks. -/
def dropLines : Nat → List Char → List Char
  | 0, cs => cs
  | fuel + 1, cs =>
    match dropGaps cs with
    | [] => []
    | cs =>
      match endOfLine? cs with
      | some rest => if rest.length < cs.length then dropLines fuel rest else cs
      | none => cs

def hexValue? (c : Char) : Option Nat :=
  if '0' ≤ c && c ≤ '9' then some (c.toNat - 48)
  else if 'a' ≤ c && c ≤ 'f' then some (c.toNat - 87)
  else if 'A' ≤ c && c ≤ 'F' then some (c.toNat - 55)
  else none

/-- A character given by `n` hexadecimal digits. -/
def unicode? (n : Nat) (cs : List Char) : Option (Char × List Char) := do
  let ds ← (cs.take n).mapM hexValue?
  if ds.length ≠ n then failure
  let code := ds.foldl (fun a d => 16 * a + d) 0
  if code < 0xD800 || (0xDFFF < code && code < 0x110000) then return (.ofNat code, cs.drop n)
  else failure

def escape? : List Char → Option (Char × List Char)
  | 'b' :: r => some ('\x08', r)
  | 't' :: r => some ('\t', r)
  | 'n' :: r => some ('\n', r)
  | 'f' :: r => some ('\x0c', r)
  | 'r' :: r => some ('\r', r)
  | '"' :: r => some ('"', r)
  | '\\' :: r => some ('\\', r)
  | 'u' :: r => unicode? 4 r
  | 'U' :: r => unicode? 8 r
  | _ => none

def push (c : Char) (p : Option (List Char × List Char)) : Option (List Char × List Char) :=
  p.map fun (s, r) => (c :: s, r)

def basic : Nat → List Char → Option (List Char × List Char)
  | 0, _ => none
  | _, [] => none
  | fuel + 1, c :: r =>
    if c = '"' then some ([], r)
    else if c = '\\' then do
      let (d, r) ← escape? r
      push d (basic fuel r)
    else if isPlain c then push c (basic fuel r)
    else none

def literal : List Char → Option (List Char × List Char)
  | [] => none
  | c :: r =>
    if c = '\'' then some ([], r) else if isPlain c then push c (literal r) else none

def isBreak (c : Char) : Bool := c == '\n' || c == '\r'

/-- The end of a string over several lines: up to two quotes may precede the closing three. -/
def closing? (q : Char) (cs : List Char) : Option (List Char × List Char) :=
  let n := (cs.takeWhile (· == q)).length
  if n < 3 then none
  else
    let kept := min (n - 3) 2
    some (List.replicate kept q, cs.drop (kept + 3))

/-- Without gaps and line breaks at the head. -/
def dropBreaks : List Char → List Char
  | '\r' :: '\n' :: r => dropBreaks r
  | c :: r => if isGap c || c == '\n' then dropBreaks r else c :: r
  | [] => []

/-- A string over several lines behind its three quotes; only basic ones have escapes. -/
def multiline (q : Char) : Nat → List Char → Option (List Char × List Char)
  | 0, _ => none
  | _, [] => none
  | fuel + 1, c :: r =>
    match closing? q (c :: r) with
    | some end_ => some end_
    | none =>
      if c = '\\' && q == '"' then
        match endOfLine? (r.dropWhile isGap), (r.dropWhile isGap).head? with
        | some rest, some d =>
          if isBreak d then multiline q fuel (dropBreaks rest)
          else none
        | _, _ => do
          let (d, r) ← escape? r
          push d (multiline q fuel r)
      else if c = '\r' then
        match r with
        | '\n' :: r => push '\n' (multiline q fuel r)
        | _ => none
      else if isPlain c || c = '\n' then push c (multiline q fuel r)
      else none

/-- Without the line break that directly follows the opening quotes. -/
def dropBreak : List Char → List Char
  | '\n' :: r => r
  | '\r' :: '\n' :: r => r
  | r => r

def string? (cs : List Char) : Option (String × List Char) :=
  let text (p : Option (List Char × List Char)) : Option (String × List Char) :=
    p.map fun (s, r) => (.ofList s, r)
  match cs with
  | '"' :: '"' :: '"' :: r => text (multiline '"' (r.length + 1) (dropBreak r))
  | '\'' :: '\'' :: '\'' :: r => text (multiline '\'' (r.length + 1) (dropBreak r))
  | '"' :: r => text (basic (r.length + 1) r)
  | '\'' :: r => text (literal r)
  | _ => none

/-! ### Numbers and dates -/

def isDigit (c : Char) : Bool := '0' ≤ c && c ≤ '9'

/-- Digits with single underscores between them; at least one. -/
def digits? (ok : Char → Bool) (cs : List Char) : Option (List Char) :=
  let rec go (after : Bool) : List Char → Option (List Char)
    | [] => if after then some [] else none
    | c :: r =>
      if ok c then (go true r).map (c :: ·)
      else if c = '_' && after && (r.head?.map ok).getD false then go false r
      else none
  go false cs

def ofBase (base : Nat) (ds : List Char) : Nat :=
  ds.foldl (fun n d => base * n + (hexValue? d).getD 0) 0

def word? (n : Int) : Option Value :=
  if -Int.pow 2 63 ≤ n && n < Int.pow 2 63 then some (.int n) else none

def unsigned? (base : Nat) (ok : Char → Bool) (cs : List Char) : Option Value := do
  word? (ofBase base (← digits? ok cs))

def hasLeadingZero (ds : List Char) : Bool := ds.head? == some '0' && ds.length != 1

/-- A decimal whole number or floating-point number behind its sign. A positive one must not be too
large for a float, a negative one may be. -/
def decimal? (negative : Bool) (cs : List Char) : Option Value := do
  let isMark (c : Char) : Bool := c == 'e' || c == 'E'
  let whole ← digits? isDigit (cs.takeWhile fun c => c != '.' && !isMark c)
  if hasLeadingZero whole then failure
  let rest := cs.dropWhile fun c => c != '.' && !isMark c
  if rest.isEmpty then word? (if negative then -(ofBase 10 whole : Int) else ofBase 10 whole)
  else
    let fraction ←
      match rest with
      | '.' :: r => digits? isDigit (r.takeWhile (!isMark ·))
      | _ => some []
    let exponent : Int ←
      match rest.dropWhile (!isMark ·) with
      | [] => some 0
      | _ :: '-' :: r => (digits? isDigit r).map fun ds => -(ofBase 10 ds : Int)
      | _ :: '+' :: r => (digits? isDigit r).map fun ds => (ofBase 10 ds : Int)
      | _ :: r => (digits? isDigit r).map fun ds => (ofBase 10 ds : Int)
    let x := Accessors.Number.ofDecimal (ofBase 10 (whole ++ fraction)) (exponent - fraction.length)
    if x.isInf && !negative then failure
    return .float (if negative then -x else x)

def number? (cs : List Char) : Option Value :=
  match cs with
  | '0' :: 'x' :: r => unsigned? 16 (fun c => (hexValue? c).isSome) r
  | '0' :: 'o' :: r => unsigned? 8 (fun c => '0' ≤ c && c ≤ '7') r
  | '0' :: 'b' :: r => unsigned? 2 (fun c => c == '0' || c == '1') r
  | ['i', 'n', 'f'] => some (.float (1 / 0))
  | ['+', 'i', 'n', 'f'] => some (.float (1 / 0))
  | ['-', 'i', 'n', 'f'] => some (.float (-1 / 0))
  | ['n', 'a', 'n'] => some (.float (0 / 0))
  | ['+', 'n', 'a', 'n'] => some (.float (0 / 0))
  | ['-', 'n', 'a', 'n'] => some (.float (0 / 0))
  | '+' :: r => decimal? false r
  | '-' :: r => decimal? true r
  | r => decimal? false r

/-- The name of a member that makes its table a date. -/
def dateKey : String := "$__toml_private_datetime"

def date (text : String) : Value := .table [(dateKey, .str text)]

def isScalarChar (c : Char) : Bool :=
  c.isAlphanum || c == '+' || c == '-' || c == '_' || c == '.' || c == ':'

/-- Everything but strings and containers. A date and a time may have one blank between them. -/
def scalar? (cs : List Char) : Option (Value × List Char) := do
  let token := cs.takeWhile isScalarChar
  let rest := cs.dropWhile isScalarChar
  if token = ['t', 'r', 'u', 'e'] then return (.bool true, rest)
  if token = ['f', 'a', 'l', 's', 'e'] then return (.bool false, rest)
  if DateTime.isDate token then
    match rest with
    | ' ' :: more =>
      let time := more.takeWhile isScalarChar
      if (time.head?.map isDigit).getD false then
        let text ← DateTime.ofChars? (token ++ ' ' :: time)
        return (date text, more.dropWhile isScalarChar)
    | _ => pure ()
  match DateTime.ofChars? token with
  | some text => return (date text, rest)
  | none => return (← number? token, rest)

/-! ### Keys and tables -/

def isBareChar (c : Char) : Bool := c.isAlphanum || c == '_' || c == '-'

def simpleKey? (cs : List Char) : Option (String × List Char) :=
  match cs with
  | '"' :: r => (basic (r.length + 1) r).map fun (s, r) => (.ofList s, r)
  | '\'' :: r => (literal r).map fun (s, r) => (.ofList s, r)
  | cs =>
    let name := cs.takeWhile isBareChar
    if name.isEmpty then none else some (.ofList name, cs.dropWhile isBareChar)

/-- Keys have fewer parts than this, and values stand in fewer containers. -/
def nestingLimit : Nat := 80

/-- A key with at most so many parts between its dots. -/
def keyParts? : Nat → List Char → Option (List String × List Char)
  | 0, _ => none
  | parts + 1, cs => do
    let (k, r) ← simpleKey? (dropGaps cs)
    match dropGaps r with
    | '.' :: r => do
      let (ks, r) ← keyParts? parts r
      return (k :: ks, r)
    | r => return ([k], r)

def key? (cs : List Char) : Option (List String × List Char) := keyParts? (nestingLimit - 1) cs

/-- Sets a dotted key. Past the first name (`inner`) only tables made by dotted keys (`dotted`) take
new members. -/
def assign (v : Node) (inner dotted : Bool) : List String → Members → Option Members
  | [], _ => none
  | [k], ms => if inner != dotted || (ms.lookup k).isSome then none else some (setNode k v ms)
  | k :: ks, ms =>
    match ms.lookup k with
    | none => do return setNode k (.table .dotted (← assign v true true ks [])) ms
    | some (.table origin inside) =>
      if origin = .header then none
      else do return setNode k (.table origin (← assign v true (origin = .dotted) ks inside)) ms
    | some (.tables (last :: others)) => do
      return setNode k (.tables ((← assign v true false ks last) :: others)) ms
    | some _ => none

/-- Changes the table that a header's path leads to, making those on the way. -/
def descend (f : Members → Option Members) : List String → Members → Option Members
  | [], ms => f ms
  | k :: ks, ms =>
    match ms.lookup k with
    | none => do return setNode k (.table .implied (← descend f ks [])) ms
    | some (.table origin inner) => do return setNode k (.table origin (← descend f ks inner)) ms
    | some (.tables (last :: others)) => do
      return setNode k (.tables ((← descend f ks last) :: others)) ms
    | some _ => none

/-- Opens the table of a `[header]`. A table that paths have led through moves to the end. -/
def openTable (k : String) (ms : Members) : Option Members :=
  match ms.lookup k with
  | none => some (ms ++ [(k, .table .header [])])
  | some (.table .implied inner) =>
    some (ms.filter (fun m => m.1 != k) ++ [(k, .table .header inner)])
  | some _ => none

/-- Adds a table for a `[[header]]`. -/
def pushTable (k : String) (ms : Members) : Option Members :=
  match ms.lookup k with
  | none => some (setNode k (.tables [[]]) ms)
  | some (.tables items) => some (setNode k (.tables ([] :: items)) ms)
  | some _ => none

mutual

/-- A value in containers, of which it may open `room` more. -/
def value? : Nat → Nat → List Char → Option (Value × List Char)
  | 0, _, _ => none
  | fuel + 1, room, cs =>
    match cs, room with
    | '[' :: _, 0 => none
    | '{' :: _, 0 => none
    | '[' :: r, room + 1 => (items? fuel room r).map fun (vs, r) => (.array vs, r)
    | '{' :: r, room + 1 =>
      match dropGaps r with
      | '}' :: r => some (.table [], r)
      | r => (inline? fuel room [] r).map fun (ms, r) => (.table (membersValue ms), r)
    | cs, _ =>
      match cs.head? with
      | some '"' => (string? cs).map fun (s, r) => (.str s, r)
      | some '\'' => (string? cs).map fun (s, r) => (.str s, r)
      | _ => scalar? cs

/-- The items of an array; a comma may follow the last one. -/
def items? : Nat → Nat → List Char → Option (List Value × List Char)
  | 0, _, _ => none
  | fuel + 1, room, cs =>
    match dropLines cs.length cs with
    | ']' :: r => some ([], r)
    | cs => do
      let (v, r) ← value? fuel room cs
      match dropLines r.length r with
      | ',' :: r => do
        let (vs, r) ← items? fuel room r
        return (v :: vs, r)
      | ']' :: r => return ([v], r)
      | _ => failure

/-- The members of an inline table, all on one line. -/
def inline? : Nat → Nat → Members → List Char → Option (Members × List Char)
  | 0, _, _, _ => none
  | fuel + 1, room, ms, cs => do
    let (ks, r) ← key? cs
    match dropGaps r with
    | '=' :: r => do
      let (v, r) ← value? fuel room (dropGaps r)
      let ms ← assign (.value v) false false ks ms
      match dropGaps r with
      | ',' :: r => inline? fuel room ms r
      | '}' :: r => return (ms, r)
      | _ => failure
    | _ => failure

end

/-- A document as read so far, and the path of the table that the next keys belong to. -/
structure Document where
  root : Members := []
  current : List String := []

def header? (nested : Bool) (d : Document) (cs : List Char) : Option (Document × List Char) := do
  let (ks, r) ← key? cs
  let k ← ks.getLast?
  let r ←
    match nested, dropGaps r with
    | true, ']' :: ']' :: r => some r
    | false, ']' :: r => some r
    | _, _ => none
  let root ← descend (if nested then pushTable k else openTable k) ks.dropLast d.root
  return ({ root, current := ks }, ← endOfLine? r)

def entry? (d : Document) (cs : List Char) : Option (Document × List Char) := do
  let (ks, r) ← key? cs
  match dropGaps r with
  | '=' :: r => do
    let r := dropGaps r
    let (v, r) ← value? (r.length + 1) (nestingLimit - 1) r
    let root ← descend (assign (.value v) false false ks) d.current d.root
    return ({ d with root }, ← endOfLine? r)
  | _ => failure

def lines? : Nat → Document → List Char → Option Document
  | 0, _, _ => none
  | fuel + 1, d, cs =>
    match dropLines cs.length cs with
    | [] => some d
    | '[' :: '[' :: r => do
      let (d, r) ← header? true d r
      lines? fuel d r
    | '[' :: r => do
      let (d, r) ← header? false d r
      lines? fuel d r
    | cs => do
      let (d, r) ← entry? d cs
      lines? fuel d r

/-! ### Dates -/

mutual

/-- The value with the texts of dates in place of the tables whose first member is named as a date.
The member must hold the text of one; the others do not count. -/
def dated? : Value → Option Value
  | .table ((k, v) :: rest) =>
    if k = dateKey then
      match v with
      | .str text => (DateTime.ofChars? text.toList).map .str
      | _ => none
    else do
      let v ← dated? v
      return .table ((k, v) :: (← datedMembers? rest))
  | .array items => do return .array (← datedItems? items)
  | v => some v

def datedItems? : List Value → Option (List Value)
  | [] => some []
  | v :: rest => do
    let v ← dated? v
    return v :: (← datedItems? rest)

def datedMembers? : List (String × Value) → Option (List (String × Value))
  | [] => some []
  | (k, v) :: rest => do
    let v ← dated? v
    return (k, v) :: (← datedMembers? rest)

end

def parse? (text : String) : Option (List (String × Value)) := do
  let cs := text.toList
  let d ← lines? (cs.length + 1) {} cs
  match ← dated? (.table (membersValue d.root)) with
  | .table ms => return ms
  | _ => failure

end Accessors.Settings.Toml
