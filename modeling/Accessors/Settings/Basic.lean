import Accessors.Generation.Codec
import Accessors.Number.Layout
import Accessors.Settings.Value

/-!
# Settings

What a run is told: how to generate, what the repository accepts, and where the model is. Settings
are read from a tree of values, where scalars are converted to the type that is asked for.
-/

namespace Accessors

namespace Settings

structure Model where
  /-- The model to load; the sample project where none is given. -/
  path : Option String := none
  /-- Where the model goes; to the standard output where nothing is given. -/
  outputPath : Option String := none
  /-- Paths of elements; all entities where there are none. -/
  selection : List String := []
  deriving DecidableEq

end Settings

structure Settings where
  generator : Options := {}
  repository : Policy := {}
  model : Settings.Model := {}
  deriving DecidableEq

namespace Settings

def selectionLabel (s : Settings) : String :=
  match s.model.selection with
  | [] => "all entities"
  | paths => String.intercalate ", " paths

/-! ### JSON -/

open Json (Decoder Schema)

def Model.toJson (m : Model) : Json :=
  .obj [("path", .ofOption .str m.path), ("output_path", .ofOption .str m.outputPath),
    ("selection", .ofStrings m.selection)]

def Model.schema := Schema.field "path" (.optional .string) (.unlessListed none) <|
  .field "output_path" (.optional .string) (.unlessListed none) <|
  .field "selection" (.list .string) (.value []) .done

def Model.decoder : Decoder Model :=
  .map (fun (path, outputPath, selection, ()) => { path, outputPath, selection })
    (Model.schema.decoder "ModelConfig")

def toJson (s : Settings) : Json :=
  .obj [("generator", s.generator.toJson), ("repository", s.repository.toJson),
    ("model", s.model.toJson)]

def schema := Schema.field "generator" Options.decoder .required <|
  .field "repository" Policy.decoder .required <|
  .field "model" Model.decoder .required .done

def decoder : Decoder Settings :=
  .map (fun (generator, repository, model, ()) => { generator, repository, model })
    (schema.decoder "AppConfig")

/-! ### Values -/

namespace Value

/-- Booleans and numbers are written out. -/
def text? : Value → Option String
  | .str s => some s
  | .bool b => some (if b then "true" else "false")
  | .int n => some (.ofList (Json.intChars n))
  | .float x => some (Number.plain x)
  | _ => none

/-- Numbers other than zero are true, and some words are either. -/
def bool? : Value → Option Bool
  | .bool b => some b
  | .int n => some (n != 0)
  | .float x => some (x != 0)
  | .str s =>
    if ["1", "true", "on", "yes"].contains (Text.lower s) then some true
    else if ["0", "false", "off", "no"].contains (Text.lower s) then some false
    else none
  | _ => none

def optionalText? : Value → Option (Option String)
  | .nil => some none
  | v => v.text?.map some

def texts? : Value → Option (List String)
  | .array vs => vs.mapM text?
  | _ => none

/-- One of several names in any case, as a string or as the only key of a table. -/
def choice? {α : Type} (variants : List (String × α)) (v : Value) : Option α :=
  let named (s : String) : Option α :=
    (variants.find? fun n => Text.lower n.1 == Text.lower s).map (·.2)
  match v with
  | .str s => named s
  | .table [(s, _)] => named s
  | _ => none

/-- The field of a record that is a table, or an array of the fields in order. -/
def field? (v : Value) (index : Nat) (name : String) : Option (Option Value) :=
  match v with
  | .table ms => some (ms.lookup name)
  | .array vs => some vs[index]?
  | _ => none

/-- A field that may be left out. -/
def fieldOr {α : Type} (v : Value) (index : Nat) (name : String) (read : Value → Option α)
    (default : α) : Option α := do
  match ← v.field? index name with
  | some w => read w
  | none => return default

/-- A field that must be there. -/
def field {α : Type} (v : Value) (index : Nat) (name : String) (read : Value → Option α) :
    Option α := do
  read (← (← v.field? index name))

/-- A field that only tables may leave out. -/
def tableField {α : Type} (v : Value) (index : Nat) (name : String) (read : Value → Option α)
    (default : α) : Option α :=
  match v with
  | .table _ => v.fieldOr index name read default
  | _ => v.field index name read

end Value

def options? (v : Value) : Option Options := do
  let constructorPolicy ← v.fieldOr 0 "constructor_policy"
    (Value.choice? ([.requireMandatory, .always].map fun p => (ConstructorPolicy.name p, p)))
    .requireMandatory
  let granularity ← v.fieldOr 1 "granularity"
    (Value.choice? ([.perRequest, .perMember].map fun g => (Granularity.name g, g))) .perRequest
  return { constructorPolicy, granularity }

def policy? (v : Value) : Option Policy := do
  return { rejectDuplicateOperations := ← v.field 0 "reject_duplicate_operations" Value.bool? }

def model? (v : Value) : Option Model := do
  let path ← v.tableField 0 "path" Value.optionalText? none
  let outputPath ← v.tableField 1 "output_path" Value.optionalText? none
  let selection ← v.fieldOr 2 "selection" Value.texts? []
  return { path, outputPath, selection }

def ofValue? (v : Value) : Option Settings := do
  return { generator := ← v.field 0 "generator" options?
           repository := ← v.field 1 "repository" policy?
           model := ← v.field 2 "model" model? }

/-- The tree that settings come from where nothing is given. -/
def defaults : Value :=
  .table [
    ("generator", .table [("constructor_policy", .str "require-mandatory"),
      ("granularity", .str "per-request")]),
    ("repository", .table [("reject_duplicate_operations", .bool true)]),
    ("model", .table [("path", .nil), ("output_path", .nil)])]

end Settings

end Accessors
