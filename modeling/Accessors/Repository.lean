import Accessors.Action
import Accessors.Error
import Accessors.Model.Edit

/-!
# The repository

The model that is edited, with the selection and a history. A command is applied as a whole or not
at all. Undoing a command takes the operations with its identifiers out of every entity; redoing it
applies it again.
-/

namespace Accessors

/-- What the repository asks of every command. -/
structure Policy where
  /-- No command gives an entity two operations with one name. -/
  rejectDuplicateOperations : Bool := true
  deriving DecidableEq

namespace Project

def insert (policy : Policy) (p : Project) (i : FieldInsertion) :
    Except RepositoryError Project :=
  match p.entity? i.ownerId with
  | none => .error (.entityNotFound i.ownerId)
  | some e =>
    if i.element.ownerId ≠ "" ∧ i.element.ownerId ≠ e.id then
      .error (.ownerMismatch i.element.name i.element.ownerId e.id)
    else if policy.rejectDuplicateOperations && e.hasOperationNamed i.element.name then
      .error (.duplicateOperation e.name i.element.name)
    else .ok (p.updateEntity i.ownerId (·.append i.element))

/-- Makes all insertions in turn; the first that fails is the error. -/
def insertAll (policy : Policy) : Project → List FieldInsertion → Except RepositoryError Project
  | p, [] => .ok p
  | p, i :: rest =>
    match p.insert policy i with
    | .error e => .error e
    | .ok p => insertAll policy p rest

/-- Without the operations that have one of the identifiers. -/
def removeOperations (p : Project) (ids : List Id) : Project :=
  { p with
    entities := p.entities.map fun e =>
      { e with operations := e.operations.filter fun op => !ids.contains op.id } }

end Project

structure Repository where
  project : Project
  selection : List ElementRef := []
  /-- Applied commands, the last one first. -/
  undoStack : List EditCommand := []
  /-- Undone commands, the last one first. -/
  redoStack : List EditCommand := []
  policy : Policy := {}
  deriving DecidableEq

namespace Repository

def ofProject (p : Project) (policy : Policy) : Repository := { project := p.normalize, policy }

/-- Labels of the applied commands, oldest first. -/
def history (r : Repository) : List String := (r.undoStack.map (·.label)).reverse

def canUndo (r : Repository) : Bool := !r.undoStack.isEmpty

def canRedo (r : Repository) : Bool := !r.redoStack.isEmpty

def select (elements : List ElementRef) (r : Repository) : Repository :=
  { r with selection := elements }

/-- Selects the elements that the paths name, and gives the paths that name none. -/
def selectPaths (paths : List String) (r : Repository) : List String × Repository :=
  (paths.filter fun path => (r.project.resolvePath path).isNone,
    r.select (paths.filterMap r.project.resolvePath))

/-- Applies a command, which ends all redoing. -/
def submit (c : EditCommand) : Action Repository RepositoryError Unit := fun r =>
  match r.project.insertAll r.policy c.insertions with
  | .error e => (.error e, r)
  | .ok p => (.ok (), { r with project := p, undoStack := c :: r.undoStack, redoStack := [] })

/-- Takes the last command back and gives its label. -/
def undo : Action Repository RepositoryError String := fun r =>
  match r.undoStack with
  | [] => (.error .nothingToUndo, r)
  | c :: rest =>
    (.ok c.label,
      { r with
        project := r.project.removeOperations c.insertedIds
        undoStack := rest
        redoStack := c :: r.redoStack })

/-- Applies the last undone command again and gives its label. -/
def redo : Action Repository RepositoryError String := fun r =>
  match r.redoStack with
  | [] => (.error .nothingToRedo, r)
  | c :: rest =>
    match r.project.insertAll r.policy c.insertions with
    | .error e => (.error e, r)
    | .ok p =>
      (.ok c.label, { r with project := p, undoStack := c :: r.undoStack, redoStack := rest })

end Repository

end Accessors
