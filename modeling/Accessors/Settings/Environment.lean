import Accessors.Number.Numeral
import Accessors.Settings.Value

/-!
# Settings from the environment

A variable such as `GETSET_MODEL__PATH` sets the value of a path. Its value is taken as a boolean or
a number where it reads as one, and otherwise as text; the selection is a list.
-/

namespace Accessors.Settings

/-- Puts `.` for every pair of underscores. -/
def dotted : List Char → List Char
  | '_' :: '_' :: rest => '.' :: dotted rest
  | c :: rest => c :: dotted rest
  | [] => []

def variableKey? (name : String) : Option String :=
  let start := "getset_".toList
  let cs := (Text.lower name).toList
  if start.isPrefixOf cs then some (.ofList (dotted (cs.drop start.length))) else none

def splitCommas (cs : List Char) : List (List Char) :=
  match cs with
  | [] => [[]]
  | c :: rest =>
    match splitCommas rest with
    | part :: parts => if c = ',' then [] :: part :: parts else (c :: part) :: parts
    | [] => [[c]]

def bool? (text : String) : Option Bool :=
  let word := Text.lower text
  if word = "true" then some true else if word = "false" then some false else none

def variableValue (key text : String) : Value :=
  match bool? text, Number.int64? text, Number.float? text with
  | some b, _, _ => .bool b
  | _, some n, _ => .int n
  | _, _, some x => .float x
  | _, _, _ =>
    if key = "model.selection" then
      .array ((splitCommas text.toList).map fun part => .str (.ofList part))
    else .str text

def environmentLayer (environment : List (String × String)) : List (String × Value) :=
  environment.filterMap fun (name, text) =>
    (variableKey? name).map fun key => (key, variableValue key text)

end Accessors.Settings
