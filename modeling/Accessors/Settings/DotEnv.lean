import Accessors.Text.Alphanumeric
import Accessors.Text.Blank

/-!
# Files of variables

Reads the lines `NAME=value` of a `.env` file. Values may be quoted, span several lines, and refer
to other variables. Reading stops at the first line that is wrong; the variables before it count. A
variable that the environment has already keeps its value. The environment cannot hold a zero
character, so the file is refused as a whole where a variable would get one.
-/

namespace Accessors.Settings.DotEnv

/-! ### Lines -/

/-- Where a line stands between its characters. -/
inductive Lexical where
  | complete
  | escape
  | strong
  | strongEscape
  | weak
  | weakEscape
  | comment
  | blank
  deriving DecidableEq

/-- The state after a character outside quotes. -/
def Lexical.plain (c : Char) : Lexical :=
  if c = '\\' then .escape else if c = '"' then .weak else if c = '\'' then .strong else .complete

def Lexical.step (s : Lexical) (c : Char) : Lexical :=
  match s with
  | .blank => if c = '#' then .comment else .plain c
  | .escape => .complete
  | .complete => if Text.isBlank c && c != '\n' && c != '\r' then .blank else .plain c
  | .weak => if c = '\\' then .weakEscape else if c = '"' then .complete else .weak
  | .weakEscape => .weak
  | .strong => if c = '\\' then .strongEscape else if c = '\'' then .complete else .strong
  | .strongEscape => .strong
  | .comment => .comment

/-- The state at the end of a physical line, and its characters before a comment. -/
def scan (s : Lexical) : List Char → Lexical × List Char
  | [] => (s, [])
  | c :: rest =>
    match s.step c with
    | .comment => (.comment, [])
    | s =>
      let (s, kept) := scan s rest
      (s, c :: kept)

/-- The next physical line with its line break, and the rest. -/
def splitLine (cs : List Char) : List Char × List Char :=
  match cs.dropWhile (· != '\n') with
  | [] => (cs, [])
  | b :: rest => (cs.takeWhile (· != '\n') ++ [b], rest)

def dropLineEnd (cs : List Char) : List Char :=
  match cs.reverse with
  | '\n' :: '\r' :: rest => rest.reverse
  | '\n' :: rest => rest.reverse
  | _ => cs

/-- The logical lines, up to one that does not end. Lines are joined while quotes are open; a
comment is left out. -/
def logicalLines : Nat → Lexical → List Char → List Char → List (List Char)
  | 0, _, _, _ => []
  | fuel + 1, s, joined, cs =>
    if cs.isEmpty then []
    else
      let (line, rest) := splitLine cs
      let whole := joined ++ line
      let next := logicalLines fuel .complete [] rest
      if (Text.dropBlanks whole).head? = some '#' then [] :: next
      else
        match scan s line with
        | (.complete, _) => dropLineEnd whole :: next
        | (.comment, kept) => (joined ++ kept) :: next
        | (s, _) => logicalLines fuel s whole rest

/-! ### Values -/

abbrev Variables := List (String × String)

/-- What stands behind a head, if a list starts with it. -/
def behind? (head cs : List Char) : Option (List Char) :=
  if head.isPrefixOf cs then some (cs.drop head.length) else none

/-- The value that a reference stands for; an unknown variable is empty. The name is looked for at
the head of the entries `NAME=value`, so it may reach into a value. -/
def resolve (environment : Variables) (name : List Char) : List Char :=
  let entry (v : String × String) : List Char := v.1.toList ++ '=' :: v.2.toList
  if name.isEmpty || name.contains '\x00' then []
  else (environment.findSome? fun v => behind? (name ++ ['=']) (entry v)).getD []

/-- Whether a reference is being read, and whether it is in braces. -/
inductive Reference where
  | none
  | bare
  | braced
  deriving DecidableEq

structure Scanner where
  strong : Bool := false
  weak : Bool := false
  escaped : Bool := false
  /-- Only blanks and a comment may follow. -/
  ended : Bool := false
  reference : Reference := .none
  /-- The name of the reference so far, backwards. -/
  name : List Char := []
  /-- The value so far, backwards. -/
  output : List Char := []

def escapedChar? (c : Char) : Option Char :=
  if ['\\', '\'', '"', '$', ' '].contains c then some c else if c = 'n' then some '\n' else none

namespace Scanner

def emit (s : Scanner) (c : Char) : Scanner := { s with output := c :: s.output }

def substitute (lookup : List Char → List Char) (s : Scanner) : Scanner :=
  { s with output := (lookup s.name.reverse).reverse ++ s.output, name := [], reference := .none }

def inReference (lookup : List Char → List Char) (s : Scanner) (c : Char) : Scanner :=
  if Text.isAlphanumeric c then { s with name := c :: s.name }
  else
    match s.reference with
    | .braced =>
      if c = '}' then s.substitute lookup else { s with name := c :: s.name }
    | _ =>
      if c = '{' && s.name.isEmpty then { s with reference := .braced }
      else if c = '$' then { s.substitute lookup with reference := .bare }
      else (s.substitute lookup).emit c

/-- One character of a value; nothing if it must not stand there. -/
def step (lookup : List Char → List Char) (s : Scanner) (c : Char) : Option Scanner :=
  if s.escaped then (escapedChar? c).map fun d => { s.emit d with escaped := false }
  else if s.strong then some (if c = '\'' then { s with strong := false } else s.emit c)
  else if s.reference != .none then some (s.inReference lookup c)
  else if c = '$' then some { s with reference := .bare }
  else if s.weak then
    some (if c = '"' then { s with weak := false }
      else if c = '\\' then { s with escaped := true }
      else s.emit c)
  else if c = '\'' then some { s with strong := true }
  else if c = '"' then some { s with weak := true }
  else if c = '\\' then some { s with escaped := true }
  else if c = ' ' || c = '\t' then some { s with ended := true }
  else some (s.emit c)

/-- Reads a value to its end. Quotes and braces must be closed. -/
def run (lookup : List Char → List Char) : Scanner → List Char → Option (List Char)
  | s, [] =>
    if s.reference = .braced || s.strong || s.weak then none
    else some (if s.reference = .bare then s.substitute lookup else s).output.reverse
  | s, c :: rest =>
    if s.ended then
      if c = ' ' || c = '\t' then run lookup s rest
      else if c = '#' then run lookup s []
      else none
    else (s.step lookup c).bind fun s => run lookup s rest

end Scanner

/-! ### Assignments -/

/-- A name and what follows it. -/
def name? (cs : List Char) : Option (String × List Char) :=
  let ok (c : Char) : Bool := c.isAlphanum || c == '_' || c == '.'
  match cs with
  | c :: _ =>
    if c.isAlpha || c = '_' then some (.ofList (cs.takeWhile ok), cs.dropWhile ok) else none
  | [] => none

/-- A name with the equals sign behind it. The word `export` may stand before the name. -/
def target? (cs : List Char) : Option (String × List Char) := do
  let (name, rest) ← name? cs
  match Text.dropBlanks rest with
  | '=' :: rest => return (name, rest)
  | rest =>
    if name ≠ "export" then failure
    let (name, rest) ← name? rest
    match Text.dropBlanks rest with
    | '=' :: rest => return (name, rest)
    | _ => failure

/-- What a logical line holds: nothing, or a variable; no answer for a line that is wrong. -/
def assignment? (environment : Variables) (line : List Char) :
    Option (Option (String × String)) := do
  let cs := Text.trim line
  if cs.isEmpty || cs.head? = some '#' then return none
  let (name, rest) ← target? cs
  let cs := Text.dropBlanks rest
  if cs.isEmpty || cs.head? = some '#' then return some (name, "")
  let value ← Scanner.run (resolve environment) {} cs
  return some (name, .ofList value)

/-- Sets a variable, unless the environment has it. No value may hold a zero character. -/
def set? (environment : Variables) (name value : String) : Option Variables :=
  if (environment.lookup name).isSome then some environment
  else if value.toList.contains '\x00' then none
  else some (environment ++ [(name, value)])

def addLines? : Variables → List (List Char) → Option Variables
  | environment, [] => some environment
  | environment, line :: rest =>
    match assignment? environment line with
    | none => some environment
    | some none => addLines? environment rest
    | some (some (name, value)) => do addLines? (← set? environment name value) rest

def load? (environment : Variables) (text : String) : Option Variables :=
  let cs :=
    match text.toList with
    | '\uFEFF' :: rest => rest
    | cs => cs
  addLines? environment (logicalLines (cs.length + 1) .complete [] cs)

end Accessors.Settings.DotEnv
