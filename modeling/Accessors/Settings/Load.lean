import Accessors.Files
import Accessors.Json.Reading
import Accessors.Settings.Basic
import Accessors.Settings.Environment
import Accessors.Settings.Toml

/-!
# Layers of settings

The environment goes over the file, and the file over the defaults.
-/

namespace Accessors.Settings

/-- Why there are no settings. -/
inductive LoadError where
  /-- The file is malformed, or a value has not the type of its setting. -/
  | invalid
  /-- An index leads to no place of its list. -/
  | misplaced
  deriving DecidableEq

mutual

def Value.ofJson : Json → Value
  | .null => .nil
  | .bool b => .bool b
  | .num (.int n) => if n < Int.pow 2 63 then .int n else .float (Number.ofDecimal n.toNat 0)
  | .num (.float x) => .float x
  | .str s => .str s
  | .arr items => .array (Value.ofItems items)
  | .obj members => .table (Value.ofMembers members)

def Value.ofItems : List Json → List Value
  | [] => []
  | v :: rest => Value.ofJson v :: Value.ofItems rest

def Value.ofMembers : List (String × Json) → List (String × Value)
  | [] => []
  | (k, v) :: rest => (k, Value.ofJson v) :: Value.ofMembers rest

end

/-- The layer of a JSON file, which holds an object. Of repeated keys the last one counts. -/
def jsonLayer? (text : String) : Option (List (String × Value)) :=
  match Json.parse text with
  | .ok v =>
    match Value.ofJson v.canonical with
    | .table ms => some ms
    | _ => none
  | .error _ => none

def dropByteOrderMark (text : String) : String :=
  match text.toList with
  | '\uFEFF' :: rest => .ofList rest
  | _ => text

/-- The layer of a TOML file, which may begin with a byte order mark. -/
def tomlLayer? (text : String) : Option (List (String × Value)) :=
  Toml.parse? (dropByteOrderMark text)

/-- The defaults with the layers over them. -/
def layered? (file environment : List (String × Value)) : Option Value := do
  (← defaults.addLayer? file).addLayer? environment

/-- Settings from the layers, if every index has its place and every value its type. -/
def ofLayers (file environment : List (String × Value)) : Except LoadError Settings :=
  match layered? file environment with
  | none => .error .misplaced
  | some v =>
    match ofValue? v with
    | none => .error .invalid
    | some settings => .ok settings

/-- The layer of the file of settings. Only the two documented formats are read, TOML before JSON; a
file named just `config` hides both. -/
def fileLayer {m : Type → Type} [Monad m] (storage : Storage m) :
    m (Option (List (String × Value))) := do
  match ← storage.read "config" with
  | .ok _ => return some []
  | .error _ =>
    match ← storage.read "config.toml" with
    | .ok text => return tomlLayer? text
    | .error _ =>
      match ← storage.read "config.json" with
      | .ok text => return jsonLayer? text
      | .error _ => return some []

/-- The settings of an environment and the file of settings. -/
def load {m : Type → Type} [Monad m] (storage : Storage m) (environment : List (String × String)) :
    m (Except LoadError Settings) := do
  match ← fileLayer storage with
  | some file => return ofLayers file (environmentLayer environment)
  | none => return .error .invalid

end Accessors.Settings
