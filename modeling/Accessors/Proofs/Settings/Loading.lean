import Accessors.Proofs.Settings.Entries
import Accessors.Proofs.Settings.Variables

/-!
# Settings from all layers

A file of settings gives some settings, and variables give some. Then there are settings, and each of
them is that of its variable, else that of the file, else the default (`load_given`). What is given
for one setting has no part in another.
-/

namespace Accessors

open Settings (Value Plain Pieces variableValue bool?)

namespace Setting

variable {s : Setting} {x : s.Of} {given : Given}

def Spelled (text : String) : (s : Setting) → s.Of → Prop
  | constructorPolicy, p => Plain text ∧ Text.lower text = p.name
  | granularity, g => Plain text ∧ Text.lower text = g.name
  | rejectDuplicateOperations, b => Text.lower text = if b then "true" else "false"
  | path, p => Plain text ∧ p = some text
  | outputPath, p => Plain text ∧ p = some text
  | selection, parts => Plain text ∧ Pieces text parts

theorem bool?_word {text : String} {b : Bool} (word : Text.lower text = if b then "true" else "false") :
    bool? text = some b := by
  simp only [bool?, word]
  cases b <;> decide

theorem spelled_reads {text : String} (spelled : Spelled text s x) :
    s.read? (variableValue s.key text) = some x := by
  cases s with
  | constructorPolicy =>
    obtain ⟨plain, named⟩ := spelled
    rw [plain.variableValue (by decide)]
    exact choice?_policy named
  | granularity =>
    obtain ⟨plain, named⟩ := spelled
    rw [plain.variableValue (by decide)]
    exact choice?_granularity named
  | rejectDuplicateOperations =>
    simp only [variableValue, bool?_word spelled]
    rfl
  | path =>
    obtain ⟨plain, rfl⟩ := spelled
    rw [plain.variableValue (by decide)]
    rfl
  | outputPath =>
    obtain ⟨plain, rfl⟩ := spelled
    rw [plain.variableValue (by decide)]
    rfl
  | selection =>
    obtain ⟨plain, pieces⟩ := spelled
    exact Settings.texts?_pieces plain pieces

/-! ### What is given -/

/-- The file of settings in a directory, if there is one, gives these settings and no others. -/
inductive Configures (d : Directory) (given : Given) : Prop
  | absent (missing : Settings.NoFile d) (nothing : ∀ s, given s = none)
  | toml {text : String} {members : List (String × Value)} (bare : Settings.Unread d "config")
    (read : d.read "config.toml" = .ok text) (parsed : Settings.tomlLayer? text = some members)
    (nested : Nested valueFormat given members)
  | json {text : String} {members : List (String × Json)} (bare : Settings.Unread d "config")
    (toml : Settings.Unread d "config.toml") (read : d.read "config.json" = .ok text)
    (parsed : Json.parse text = .ok (.obj members)) (nested : Nested jsonFormat given members)

/-- The variables of an environment give these settings and no others. -/
structure Sets (environment : List (String × String)) (given : Given) : Prop where
  separate : Settings.Separate environment
  spelled : ∀ s, Option.Rel (fun text x => Spelled text s x) (environment.lookup s.variableName) (given s)

theorem Sets.reads {environment : List (String × String)} (set : Sets environment given) (s : Setting) :
    s.Reads (Settings.ofVariable? s environment) (given s) := by
  have spelled := set.spelled s
  rw [Settings.ofVariable?]
  -- the relation is taken apart only once neither side depends on the setting's name
  generalize environment.lookup s.variableName = found, given s = x at spelled ⊢
  cases spelled with
  | none => exact .none
  | some spelled => exact .some (spelled_reads spelled)

theorem Configures.layer {d : Directory} (configured : Configures d given) :
    ∃ file, Settings.fileLayer Directory.storage d = (some file, d) ∧ Nested valueFormat given file := by
  cases configured with
  | absent missing nothing =>
    refine ⟨[], Settings.fileLayer_noFile missing, .nil, by simp, fun s present => ?_⟩
    rw [nothing] at present
    cases present
  | toml bare read parsed nested =>
    obtain ⟨_, bare⟩ := bare
    refine ⟨_, ?_, nested⟩
    simp only [Settings.fileLayer, Directory.storage, bind, StateT.bind, bare, read, parsed]
    rfl
  | json bare toml read parsed nested =>
    obtain ⟨_, bare⟩ := bare
    obtain ⟨_, toml⟩ := toml
    refine ⟨_, ?_, nested.ofJson⟩
    simp only [Settings.fileLayer, Directory.storage, bind, StateT.bind, bare, toml, read,
      Settings.jsonLayer?, parsed]
    rfl

end Setting

namespace Settings

open Setting (Given Configures Sets)

/-! ### Files by their strings -/

/-- The strings of a file with one entry for the generator and three for the model. -/
def jsonStrings : Json → List String
  | .obj [(a, .obj [(b, .str c)]), (d, .obj []),
      (e, .obj [(f, .str g), (h, .null), (i, .arr [.str j])])] => [a, b, c, d, e, f, g, h, i, j]
  | _ => []

/-- The strings of a file with one entry for the generator. -/
def tomlStrings : List (String × Value) → List String
  | [(a, .table [(b, .str c)]), (d, .table []), (e, .table [])] => [a, b, c, d, e]
  | _ => []

-- a match on the strings themselves would be too large to evaluate, so they are compared as a list
theorem ok_of_jsonStrings {ε : Type} {parsed : Except ε Json} {a b c d e f g h i j : String}
    (strings : parsed.toOption.map jsonStrings = some [a, b, c, d, e, f, g, h, i, j]) :
    parsed = .ok (.obj [(a, .obj [(b, .str c)]), (d, .obj []),
      (e, .obj [(f, .str g), (h, .null), (i, .arr [.str j])])]) := by
  cases parsed with
  | error _ => cases strings
  | ok v =>
    replace strings : jsonStrings v = _ := Option.some.inj strings
    unfold jsonStrings at strings
    split at strings
    · cases strings
      rfl
    · cases strings

theorem some_of_tomlStrings {parsed : Option (List (String × Value))} {a b c d e : String}
    (strings : parsed.map tomlStrings = some [a, b, c, d, e]) :
    parsed = some [(a, .table [(b, .str c)]), (d, .table []), (e, .table [])] := by
  cases parsed with
  | none => cases strings
  | some members =>
    replace strings : tomlStrings members = _ := Option.some.inj strings
    unfold tomlStrings at strings
    split at strings
    · cases strings
      rfl
    · cases strings

/-! ### Settings of all layers -/

variable {d : Directory} {environment : List (String × String)} {inFile inVariables : Given}

def effective (inFile inVariables : Given) (s : Setting) : s.Of :=
  ((inVariables s).or (inFile s)).getD (s.get {})

theorem load_effective (configured : Configures d inFile) (set : Sets environment inVariables) :
    load Directory.storage environment d =
      (.ok (Setting.assemble (effective inFile inVariables)), d) := by
  obtain ⟨members, read, nested⟩ := configured.layer
  rw [load_layer read]
  refine congrArg (·, d) ((ofLayers_grouped nested.tabled set.separate).1 _ fun s => ?_)
  rw [uppermost?, effective, Option.getD_or]
  exact Setting.readAt_or (set.reads s) (Setting.readAt_or (nested.reads s) (defaults_reads s))

/-- There are settings whatever a file and variables give. Each is that of its variable, else that of
the file, else the default, and it is the same wherever the file and the variables give the same for
this setting alone. -/
theorem load_given (configured : Configures d inFile) (set : Sets environment inVariables) :
    ∃ settings, load Directory.storage environment d = (.ok settings, d) ∧
      (∀ s : Setting, s.get settings = ((inVariables s).or (inFile s)).getD (s.get {})) ∧
      ∀ d' environment' inFile' inVariables',
        Configures d' inFile' → Sets environment' inVariables' →
        ∃ settings', load Directory.storage environment' d' = (.ok settings', d') ∧
          ∀ s : Setting, inFile' s = inFile s → inVariables' s = inVariables s →
            s.get settings' = s.get settings := by
  refine ⟨_, load_effective configured set, Setting.get_assemble _, ?_⟩
  intro d' environment' inFile' inVariables' configured' set'
  refine ⟨_, load_effective configured' set', fun s sameFile sameVariable => ?_⟩
  rw [Setting.get_assemble, Setting.get_assemble, effective, effective, sameFile, sameVariable]

/-- A JSON file below variables, and a TOML file with the same granularity and nothing else. -/
theorem load_given_sample :
    let json := "\x7b\"generator\": \x7b\"granularity\": \"per-member\"\x7d, \"repository\": \x7b\x7d,
      \"model\": \x7b\"path\": \"shop.json\", \"output_path\": null, \"selection\": [\"Order\"]\x7d\x7d"
    let toml := "[generator]\ngranularity = 'per-member'\n[repository]\n[model]\n"
    let d : Directory := { files := [(["config.json"], json)] }
    let d' : Directory := { files := [(["config.toml"], toml)] }
    let environment := [("HOME", "/"), ("GETSET_MODEL__SELECTION", "Car,Car.age"),
      ("GETSET_REPOSITORY__REJECT_DUPLICATE_OPERATIONS", "False")]
    let inJson : Given := fun
      | .path => some (some "shop.json")
      | .outputPath => some none
      | .selection => some ["Order"]
      | .granularity => some .perMember
      | _ => none
    let inToml : Given := fun
      | .granularity => some .perMember
      | _ => none
    let inVariables : Given := fun
      | .selection => some ["Car", "Car.age"]
      | .rejectDuplicateOperations => some false
      | _ => none
    Configures d inJson ∧ Configures d' inToml ∧ Sets environment inVariables ∧
      ∃ settings settings', load Directory.storage environment d = (.ok settings, d) ∧
        load Directory.storage environment d' = (.ok settings', d') ∧
        settings.model.selection = ["Car", "Car.age"] ∧ settings.model.path = some "shop.json" ∧
        settings.generator.granularity = .perMember ∧
        settings'.generator.granularity = settings.generator.granularity := by
  intro json toml d d' environment inJson inToml inVariables
  have jsonWords : (Json.parse json).toOption.map jsonStrings = some ["generator", "granularity",
      "per-member", "repository", "model", "path", "shop.json", "output_path", "selection",
      "Order"] := by
    decide +kernel
  have tomlWords : (tomlLayer? toml).map tomlStrings =
      some ["generator", "granularity", "per-member", "repository", "model"] := by
    decide +kernel
  have readJson : Json.parse json = .ok (.obj (Setting.tables Setting.jsonFormat inJson)) :=
    ok_of_jsonStrings jsonWords
  have readToml : tomlLayer? toml = some (Setting.tables Setting.valueFormat inToml) :=
    some_of_tomlStrings tomlWords
  have jsonGiven : Configures d inJson :=
    .json ⟨_, rfl⟩ ⟨_, rfl⟩ rfl readJson (Setting.tables_nested _ inJson)
  have tomlGiven : Configures d' inToml :=
    .toml ⟨_, rfl⟩ rfl readToml (Setting.tables_nested _ inToml)
  have plain : Plain "Car,Car.age" :=
    ⟨by decide +kernel, by decide +kernel, Option.isNone_iff_eq_none.mp (by decide +kernel)⟩
  have set : Sets environment inVariables := by
    refine ⟨⟨by decide, ?_⟩, fun s => ?_⟩
    · simp only [environment, List.forall_mem_cons]
      exact ⟨.inl (by decide +kernel), .inr ⟨.selection, rfl⟩,
        .inr ⟨.rejectDuplicateOperations, rfl⟩, List.forall_mem_nil _⟩
    · cases s with
      | selection => exact .some ⟨plain, pieces_iff.mpr rfl⟩
      | rejectDuplicateOperations => exact .some (show Text.lower "False" = "false" by decide +kernel)
      | _ => exact .none
  obtain ⟨settings, loaded, values, others⟩ := load_given jsonGiven set
  obtain ⟨settings', loaded', same⟩ := others d' environment inToml inVariables tomlGiven set
  exact ⟨jsonGiven, tomlGiven, set, settings, settings', loaded, loaded', values .selection,
    values .path, values .granularity, same .granularity rfl rfl⟩

end Settings

end Accessors
