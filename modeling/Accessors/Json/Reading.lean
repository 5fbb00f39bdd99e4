import Accessors.Json.Scalar

/-!
# Readings of JSON texts

A `Reading` is what reading a text from left to right meets: values, and the place where the text
goes wrong. The kind of value that is asked for decides how much of the text is looked at, and hence
which problem is the first, so a flaw stays in the tree until somebody reaches it.
`Reading.ofText` reads a text, `Reading.value` asks for all of it, `Reading.skip` for as little as
possible.
-/

namespace Accessors.Json

/-- How a container ends: with its bracket, or with a flaw, which may follow a comma. Of two flaws
the first is for readers and the second for those who pass over the container. -/
inductive Close where
  | closed
  | flawed (asked skipped : Flaw)
  | dangling (asked skipped : Flaw)

inductive Reading where
  | null
  | bool (b : Bool)
  | num (n : Except Flaw Number)
  | str (s : Except Flaw String)
  | arr (items : List Reading) (close : Close)
  | obj (members : List (Except Flaw String × Reading)) (close : Close)
  /-- An object whose first key is not a string. -/
  | unkeyed
  /-- The text ends where a value is due. -/
  | missing
  /-- A string without an end. -/
  | unclosed (asked skipped : Flaw)
  | broken (asked skipped : Flaw)

def isSpace (c : Char) : Bool := c == ' ' || c == '\n' || c == '\t' || c == '\r'

def dropSpace (cs : List Char) : List Char := cs.dropWhile isSpace

/-- A value and the text behind it; nothing is behind a value that does not end. -/
abbrev Step (α : Type) := α × Option (List Char)

def readWord (word : List Char) (value : Reading) (cs : List Char) : Step Reading :=
  match word, cs with
  | [], cs => (value, some cs)
  | _ :: _, [] => (.broken .cutShort .cutShort, none)
  | w :: word, c :: cs =>
    if w = c then readWord word value cs else (.broken .malformed .malformed, none)

def readText (cs : List Char) : Step (Except (Flaw × Flaw) (Except Flaw String)) :=
  match readString cs with
  | .ok (s, rest) => (.ok (.ok (.ofList s)), some rest)
  | .error asked =>
    match skipString cs with
    | .ok rest => (.ok (.error asked), some rest)
    | .error skipped => (.error (asked, skipped), none)

def readStringValue (cs : List Char) : Step Reading :=
  match readText cs with
  | (.ok s, rest) => (.str s, rest)
  | (.error (asked, skipped), rest) => (.unclosed asked skipped, rest)

def readNumberValue (cs : List Char) : Step Reading :=
  match readNumber cs with
  | .ok (n, rest) => (.num (.ok n), some rest)
  | .error asked =>
    match skipNumber cs with
    | .ok rest => (.num (.error asked), some rest)
    | .error skipped => (.broken asked skipped, none)

mutual

/-- One value. `fuel` bounds the nesting and the number of items; the length of the text is
enough. -/
def readValue : Nat → List Char → Step Reading
  | 0, _ => (.missing, none)
  | fuel + 1, cs =>
    match dropSpace cs with
    | [] => (.missing, none)
    | c :: rest =>
      if c = 'n' then readWord ['u', 'l', 'l'] .null rest
      else if c = 't' then readWord ['r', 'u', 'e'] (.bool true) rest
      else if c = 'f' then readWord ['a', 'l', 's', 'e'] (.bool false) rest
      else if c = '"' then readStringValue rest
      else if c = '[' then
        match readItems fuel true rest with
        | (items, close, rest) => (.arr items close, rest)
      else if c = '{' then
        match dropSpace rest with
        | [] => (.obj [] (.flawed .cutShort .cutShort), none)
        | d :: _ =>
          if d = '"' || d = '}' then
            match readMembers fuel true rest with
            | (members, close, rest) => (.obj members close, rest)
          else (.unkeyed, none)
      else if c = '-' || isDigit c then readNumberValue (c :: rest)
      else (.broken .malformed .malformed, none)

/-- The items up to the closing bracket, from the first or from behind an item. -/
def readItems : Nat → Bool → List Char → List Reading × Close × Option (List Char)
  | 0, _, _ => ([], .flawed .cutShort .cutShort, none)
  | fuel + 1, first, cs =>
    match dropSpace cs with
    | [] => ([], .flawed .cutShort .cutShort, none)
    | c :: rest =>
      if c = ']' then ([], .closed, some rest)
      else if first then readItem fuel (c :: rest)
      else if c = ',' then
        match dropSpace rest with
        | [] => ([], .dangling .cutShort .cutShort, none)
        | d :: rest =>
          if d = ']' then ([], .dangling .malformed .malformed, none)
          else readItem fuel (d :: rest)
      else ([], .flawed .malformed .malformed, none)

def readItem : Nat → List Char → List Reading × Close × Option (List Char)
  | 0, _ => ([], .flawed .cutShort .cutShort, none)
  | fuel + 1, cs =>
    match readValue fuel cs with
    | (v, none) => ([v], .flawed .malformed .malformed, none)
    | (v, some rest) =>
      match readItems fuel false rest with
      | (items, close, rest) => (v :: items, close, rest)

/-- The members up to the closing brace, from the first or from behind a member. -/
def readMembers : Nat → Bool → List Char →
    List (Except Flaw String × Reading) × Close × Option (List Char)
  | 0, _, _ => ([], .flawed .cutShort .cutShort, none)
  | fuel + 1, first, cs =>
    match dropSpace cs with
    | [] => ([], .flawed .cutShort .cutShort, none)
    | c :: rest =>
      if c = '}' then ([], .closed, some rest)
      else if first then readMember fuel true (c :: rest)
      else if c = ',' then
        match dropSpace rest with
        | [] => ([], .dangling .cutShort .cutShort, none)
        | d :: rest => readMember fuel false (d :: rest)
      else ([], .flawed .malformed .malformed, none)

def readMember : Nat → Bool → List Char →
    List (Except Flaw String × Reading) × Close × Option (List Char)
  | 0, _, _ => ([], .flawed .cutShort .cutShort, none)
  | fuel + 1, first, cs =>
    match cs with
    | [] => ([], .flawed .cutShort .cutShort, none)
    | c :: rest =>
      if c = '"' then
        match readText rest with
        | (.error (asked, skipped), _) =>
          ([], if first then .flawed asked skipped else .dangling asked skipped, none)
        | (.ok key, none) => ([(key, .missing)], .flawed .cutShort .cutShort, none)
        | (.ok key, some rest) =>
          match dropSpace rest with
          | [] => ([(key, .missing)], .flawed .cutShort .cutShort, none)
          | d :: rest =>
            if d = ':' then
              match readValue fuel rest with
              | (v, none) => ([(key, v)], .flawed .malformed .malformed, none)
              | (v, some rest) =>
                match readMembers fuel false rest with
                | (members, close, rest) => ((key, v) :: members, close, rest)
            else ([(key, .broken .malformed .malformed)], .flawed .malformed .malformed, none)
      else ([], .dangling .malformed .malformed, none)

end

/-- The value of a text, and whether only blanks follow it. -/
def Reading.ofText (cs : List Char) : Reading × Bool :=
  match readValue (3 * cs.length + 3) cs with
  | (v, none) => (v, true)
  | (v, some rest) => (v, (dropSpace rest).isEmpty)

/-! ### Asking for all and for nothing -/

def Close.asked : Close → Except Flaw Unit
  | .closed => .ok ()
  | .flawed asked _ => .error asked
  | .dangling asked _ => .error asked

def Close.skipped : Close → Except Flaw Unit
  | .closed => .ok ()
  | .flawed _ skipped => .error skipped
  | .dangling _ skipped => .error skipped

/-- The number of containers that may stand inside one another. -/
def maxDepth : Nat := 127

mutual

/-- The whole value, which stands inside `depth` containers. -/
def Reading.value (depth : Nat) : Reading → Except Flaw Json
  | .null => .ok .null
  | .bool b => .ok (.bool b)
  | .num n => n.map .num
  | .str s => s.map .str
  | .arr items close =>
    if maxDepth ≤ depth then .error .malformed
    else do
      let vs ← Reading.values (depth + 1) items
      close.asked
      return .arr vs
  | .obj members close =>
    if maxDepth ≤ depth then .error .malformed
    else do
      let ms ← Reading.fields (depth + 1) members
      close.asked
      return .obj ms
  | .unkeyed => .error .malformed
  | .missing => .error .cutShort
  | .unclosed asked _ => .error asked
  | .broken asked _ => .error asked

def Reading.values (depth : Nat) : List Reading → Except Flaw (List Json)
  | [] => .ok []
  | r :: rest => do
    let v ← Reading.value depth r
    let vs ← Reading.values depth rest
    return v :: vs

def Reading.fields (depth : Nat) :
    List (Except Flaw String × Reading) → Except Flaw (List (String × Json))
  | [] => .ok []
  | (key, r) :: rest => do
    let k ← key
    let v ← Reading.value depth r
    let ms ← Reading.fields depth rest
    return (k, v) :: ms

end

mutual

def Reading.skip : Reading → Except Flaw Unit
  | .arr items close => do
    Reading.skipItems items
    close.skipped
  | .obj members close => do
    Reading.skipMembers members
    close.skipped
  | .unkeyed => .error .malformed
  | .missing => .error .cutShort
  | .unclosed _ skipped => .error skipped
  | .broken _ skipped => .error skipped
  | _ => .ok ()

def Reading.skipItems : List Reading → Except Flaw Unit
  | [] => .ok ()
  | r :: rest => do
    Reading.skip r
    Reading.skipItems rest

def Reading.skipMembers : List (Except Flaw String × Reading) → Except Flaw Unit
  | [] => .ok ()
  | (_, r) :: rest => do
    Reading.skip r
    Reading.skipMembers rest

end

/-- The value of a text that holds nothing else. -/
def parse (text : String) : Except Flaw Json := do
  let (r, alone) := Reading.ofText text.toList
  let v ← r.value 0
  if alone then return v else .error .malformed

end Accessors.Json
