/-!
# Files

What a program asks of files, and a directory of texts that answers it. A failed write leaves the
directory as it was. Paths start at a working directory, or at the root if they begin with a slash.
-/

namespace Accessors

/-- Why a file is neither read nor written. -/
inductive Refusal where
  | notFound
  | isADirectory
  | notADirectory
  | invalidInput
  | invalidFilename
  | other (reason : String)
  deriving DecidableEq

def Refusal.message : Refusal → String
  | .notFound => "No such file or directory (os error 2)"
  | .isADirectory => "Is a directory (os error 21)"
  | .notADirectory => "Not a directory (os error 20)"
  | .invalidInput => "file name contained an unexpected NUL byte"
  | .invalidFilename => "File name too long (os error 36)"
  | .other reason => reason

/-- Access to files from within a monad. -/
structure Storage (m : Type → Type) where
  read : String → m (Except Refusal String)
  write : String → String → m (Except Refusal Unit)

/-- The names between the slashes of a path; `..` takes the name before it away. -/
def segments (path : List Char) : List (List Char) :=
  let rec go (name : List Char) : List Char → List (List Char)
    | [] => [name.reverse]
    | '/' :: rest => name.reverse :: go [] rest
    | c :: rest => go (c :: name) rest
  go [] path

/-- The texts of files by place. A place is the list of the names that lead to it from the root. -/
structure Directory where
  files : List (List String × String) := []
  /-- The working directory. -/
  here : List String := []
  /-- Directories that are there even if no file lies below them. -/
  folders : List (List String) := []
  /-- Files that stay empty, whatever is written to them. -/
  sinks : List (List String) := []

namespace Directory

def file? (d : Directory) (place : List String) : Option String :=
  if d.sinks.contains place then some "" else d.files.lookup place

/-- Whether a place is a directory: one with files, or one that leads to a directory. -/
def isDirectory (d : Directory) (place : List String) : Bool :=
  let leadsTo (p : List String) : Bool := place.isPrefixOf p && p != place
  place.isEmpty || place.isPrefixOf d.here || d.folders.any (place.isPrefixOf ·) ||
    d.sinks.any leadsTo || d.files.any fun (p, _) => leadsTo p

/-- No name has more bytes than this. -/
def maxNameSize : Nat := 255

/-- Whether the last name of a place is too long for a file. -/
def isOverlong (place : List String) : Bool :=
  place.getLast?.any fun name => maxNameSize < name.utf8ByteSize

/-- Follows the names from a place. The answer tells too whether it must be a directory. The last
name is not looked up here. -/
def follow (d : Directory) (base : List String) :
    List String → Except Refusal (List String × Bool)
  | [] => .ok (base, false)
  | name :: rest =>
    if name = "" || name = "." then
      match rest with
      | [] => .ok (base, true)
      | _ :: _ => d.follow base rest
    else if name = ".." then d.follow base.dropLast rest
    else
      let place := base ++ [name]
      if rest.all (· = "") then .ok (place, !rest.isEmpty)
      else if isOverlong place then .error .invalidFilename
      else if d.isDirectory place then d.follow place rest
      else if (d.file? place).isSome then .error .notADirectory
      else .error .notFound

/-- No path has as many bytes as this. -/
def maxPathSize : Nat := 4096

/-- The place that a path leads to, and whether it must be a directory. -/
def locate (d : Directory) (path : String) : Except Refusal (List String × Bool) :=
  if path = "" then .error .notFound
  else if path.toList.contains '\x00' then .error .invalidInput
  else if maxPathSize ≤ path.utf8ByteSize then .error .invalidFilename
  else
    let base := if path.toList.head? = some '/' then [] else d.here
    d.follow base ((segments path.toList).map .ofList)

def read (path : String) (d : Directory) : Except Refusal String :=
  match d.locate path with
  | .error e => .error e
  | .ok (place, due) =>
    if isOverlong place then .error .invalidFilename
    else if d.isDirectory place then .error .isADirectory
    else
      match d.file? place with
      | some text => if due then .error .notADirectory else .ok text
      | none => .error .notFound

def put (d : Directory) (place : List String) (text : String) : Directory :=
  { d with files := (place, text) :: d.files.filter (·.1 != place) }

def write (path text : String) : StateM Directory (Except Refusal Unit) := fun d =>
  match d.locate path with
  | .error e => (.error e, d)
  | .ok (place, due) =>
    if d.isDirectory place || due then (.error .isADirectory, d)
    else if isOverlong place then (.error .invalidFilename, d)
    else (.ok (), d.put place text)

def storage : Storage (StateM Directory) where
  read path := fun d => (d.read path, d)
  write := write

end Directory

end Accessors
