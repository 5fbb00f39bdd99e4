import Accessors.Registry
import Accessors.Sample
import Accessors.Settings.Load

/-!
# Runs

A run loads a model, generates the members that the settings ask for, and writes the model. Nothing
is written unless all of the generation succeeds.
-/

namespace Accessors

inductive RunError where
  | reading (path : String) (cause : Refusal)
  | parsing (path : String) (cause : Json.Fault)
  | generating (cause : GenerateError)
  | writing (path : String) (cause : Refusal)

def RunError.message : RunError → String
  | .reading path _ => "reading model file '" ++ path ++ "'"
  | .parsing path _ => "parsing model file '" ++ path ++ "'"
  | .generating cause => cause.message
  | .writing path _ => "writing model file '" ++ path ++ "'"

/-- What lies behind a failure, where there is more to say. -/
def RunError.cause? : RunError → Option String
  | .reading _ cause => some cause.message
  | .parsing _ cause => some cause.message
  | .generating (.rejected _ _ source) => some source.message
  | .generating (.unknownCommand _) => none
  | .writing _ cause => some cause.message

namespace Run

/-- The model of a text; the sample project where there is none. -/
def model (source : Option (String × String)) (supply : Supply) :
    Except RunError (Project × Supply) :=
  match source with
  | none => .ok (Sample.project, supply)
  | some (path, text) => (Project.ofText text supply).mapError (.parsing path)

/-- The repository of a model, with the elements selected that the settings name. -/
def repository (settings : Settings) (p : Project) : Repository :=
  let r := Repository.ofProject p settings.repository
  match settings.model.selection with
  | [] => r.select r.project.selectAll
  | paths => (r.selectPaths paths).2

def generate (settings : Settings) (p : Project) (supply : Supply) :
    Except RunError (Report × Project) :=
  let registry := ({} : Registry).withGenerate settings.generator
  match registry.execute generateCommand { repository := repository settings p, supply } with
  | (.ok report, h) => .ok (report, h.repository.project)
  | (.error e, _) => .error (.generating e)

/-- From the text of a model to the report and the text to write. -/
def process (settings : Settings) (source : Option (String × String)) (supply : Supply) :
    Except RunError (Report × String) := do
  let (p, supply) ← model source supply
  let (report, p) ← generate settings p supply
  return (report, p.toText)

variable {m : Type → Type} [Monad m]

/-- The path and the text of the model, if the settings name one. -/
def source (storage : Storage m) (settings : Settings) :
    m (Except RunError (Option (String × String))) := do
  match settings.model.path with
  | none => return .ok none
  | some path =>
    match ← storage.read path with
    | .ok text => return .ok (some (path, text))
    | .error e => return .error (.reading path e)

/-- The report, and the text for the standard output where no file is to be written. -/
def execute (storage : Storage m) (settings : Settings) (supply : Supply) :
    m (Except RunError (Report × Option String)) := do
  match ← source storage settings with
  | .error e => return .error e
  | .ok source =>
    match process settings source supply with
    | .error e => return .error e
    | .ok (report, text) =>
      match settings.model.outputPath with
      | none => return .ok (report, some text)
      | some path =>
        match ← storage.write path text with
        | .ok () => return .ok (report, none)
        | .error e => return .error (.writing path e)

end Run

end Accessors
