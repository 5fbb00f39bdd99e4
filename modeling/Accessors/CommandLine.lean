import Accessors.Run
import Accessors.Settings.DotEnv

/-!
# The command line

What the program prints and how it exits. Its only input is the environment, which a `.env` file may
add to.
-/

namespace Accessors

inductive CommandLine.Failure where
  /-- The file of variables sets one that the environment cannot hold. -/
  | variables
  | settings (e : Settings.LoadError)
  | run (e : RunError)

structure CommandLine.Result where
  exitCode : UInt32
  output : String
  errors : String

namespace CommandLine

def summary (r : Report) : String :=
  "gettersetter: " ++ Nat.repr r.constructors ++ " constructor(s), " ++ Nat.repr r.getters ++
    " getter(s), " ++ Nat.repr r.setters ++ " setter(s) in " ++ Nat.repr r.commands.length ++
    " command(s)"

def Failure.message : Failure → String
  | .variables => "a variable of the .env file holds a zero character"
  | .settings .invalid => "invalid configuration"
  | .settings .misplaced => "an index of the configuration leads out of its list"
  | .run e => e.message

def Failure.cause? : Failure → Option String
  | .variables => none
  | .settings _ => none
  | .run e => e.cause?

/-- Failures that the program is not prepared for have a code of their own. -/
def Failure.exitCode : Failure → UInt32
  | .variables => 101
  | .settings .invalid => 1
  | .settings .misplaced => 101
  | .run _ => 1

def indented (text : String) : String :=
  .ofList (text.toList.flatMap fun c => if c = '\n' then c :: "    ".toList else [c])

/-- A report goes to the standard error, so that the model can be piped on. -/
def succeed (report : Report) (text : Option String) : Result where
  exitCode := 0
  output :=
    match text with
    | some text => text ++ "\n"
    | none => ""
  errors := summary report ++ "\n"

/-- A failure goes to the standard error, with its cause below. -/
def fail (e : Failure) : Result where
  exitCode := e.exitCode
  output := ""
  errors := "Error: " ++ e.message ++ "\n" ++
    match e.cause? with
    | some cause => "\nCaused by:\n    " ++ indented cause ++ "\n"
    | none => ""

variable {m : Type → Type} [Monad m]

/-- The places of the file of variables: a directory and those around it, from the inside out. -/
def candidates (directory : String) : List String :=
  let names := (segments directory.toList).filter fun name => !name.isEmpty
  (List.range (names.length + 1)).reverse.map fun n =>
    String.join ((names.take n).map fun name => "/" ++ .ofList name) ++ "/.env"

/-- The entries of an environment, each a text `NAME=value`. A name has at least one character, so
it may begin with an equals sign. -/
def variablesOf (entries : List (List Char)) : List (String × String) :=
  entries.filterMap fun entry =>
    match entry with
    | [] => none
    | c :: rest =>
      match rest.dropWhile (· != '=') with
      | [] => none
      | _ :: value => some (.ofList (c :: rest.takeWhile (· != '=')), .ofList value)

/-- The environment with the variables of the first of the files that exists. -/
def extended (storage : Storage m) (environment : List (String × String)) :
    List String → m (Option (List (String × String)))
  | [] => return some environment
  | path :: rest => do
    match ← storage.read path with
    | .ok text => return Settings.DotEnv.load? environment text
    | .error .notFound => extended storage environment rest
    | .error .isADirectory => extended storage environment rest
    | .error _ => return some environment

/-- One run of the program. `places` are those of the file of variables. -/
def run (storage : Storage m) (places : List String) (environment : List (String × String))
    (supply : Supply) : m (Except Failure (Report × Option String)) := do
  match ← extended storage environment places with
  | none => return .error .variables
  | some environment =>
    match ← Settings.load storage environment with
    | .error e => return .error (.settings e)
    | .ok settings => return (← Run.execute storage settings supply).mapError .run

def result (outcome : Except Failure (Report × Option String)) : Result :=
  match outcome with
  | .ok (report, text) => succeed report text
  | .error e => fail e

end CommandLine

end Accessors
