import Accessors.CommandLine
import Std.Time.Format

/-!
# The program

One run on the real environment, files and clock.
-/

namespace Accessors.CommandLine

/-- The texts of a list that ends each of them by a zero character. -/
def entries : List Char → List (List Char)
  | [] => [[]]
  | c :: rest =>
    match entries rest with
    | entry :: more => if c = '\x00' then [] :: entry :: more else (c :: entry) :: more
    | [] => [[c]]

def environment : IO (List (String × String)) := do
  let bytes ← IO.FS.readBinFile "/proc/self/environ"
  return variablesOf (entries ((String.fromUTF8? bytes).getD "").toList)

/-- The codes of the system, which come with either sign. -/
def hasCode (code : UInt32) (n : UInt32) : Bool := code == n || code == 0 - n

def refusal : IO.Error → Refusal
  | .noFileOrDirectory _ _ _ => .notFound
  | .inappropriateType _ code _ => if hasCode code 21 then .isADirectory else .notADirectory
  | .invalidArgument _ code _ => if hasCode code 36 then .invalidFilename else .invalidInput
  | .userError _ => .other "stream did not contain valid UTF-8"
  | e => .other (toString e)

def attempt {α : Type} (action : IO α) : IO (Except Refusal α) := do
  try
    return .ok (← action)
  catch e => return .error (refusal e)

def files : Storage IO where
  read path := attempt (IO.FS.readFile path)
  write path text := attempt (IO.FS.writeFile path text)

def supply : IO Supply := do
  let bytes ← IO.getRandomBytes 32
  let now := (← Std.Time.DateTime.now).format "uuuu-MM-dd'T'HH:mm:ss.SSSSSSSSS'+00:00'"
  return .seeded (String.intercalate "," (bytes.toList.map fun b => Nat.repr b.toNat)) now

end Accessors.CommandLine

open Accessors in
def main : IO UInt32 := do
  let places := CommandLine.candidates (← IO.currentDir).toString
  let outcome ← CommandLine.run CommandLine.files places (← CommandLine.environment)
    (← CommandLine.supply)
  let result := CommandLine.result outcome
  IO.print result.output
  IO.eprint result.errors
  return result.exitCode
