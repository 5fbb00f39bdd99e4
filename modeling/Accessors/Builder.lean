import Accessors.Action
import Accessors.Error
import Accessors.Model.Edit

/-!
# Builders

A builder records the insertions of one transaction. It is started with a label, elements are
registered and then placed in a field of an entity, and once it has ended it gives the command that
makes all insertions. A call that fails changes nothing.
-/

namespace Accessors

inductive Builder.Stage where
  | idle
  | started (label : String)
  | ended (label : String)
  deriving DecidableEq

structure Builder where
  stage : Builder.Stage := .idle
  /-- Elements that are not placed yet. -/
  registered : List Operation := []
  placed : List FieldInsertion := []
  deriving DecidableEq

/-- Takes the first item that satisfies `p` out of a list. -/
def takeFirst? {α : Type} (p : α → Bool) : List α → Option (α × List α)
  | [] => none
  | a :: rest => if p a then some (a, rest) else (takeFirst? p rest).map fun (b, l) => (b, a :: l)

namespace Builder

def label? (b : Builder) : Except BuilderError String :=
  match b.stage with
  | .idle => .error .notStarted
  | .started label => .ok label
  | .ended label => .error (.alreadyEnded label)

def knows (b : Builder) (id : Id) : Bool :=
  b.registered.any (·.id == id) || b.placed.any (·.element.id == id)

def start (label : String) : Action Builder BuilderError Unit := fun b =>
  match b.stage with
  | .idle => (.ok (), { b with stage := .started label })
  | .started current => (.error (.alreadyStarted current), b)
  | .ended current => (.error (.alreadyStarted current), b)

def insert (element : Operation) : Action Builder BuilderError Unit := fun b =>
  match b.label? with
  | .error e => (.error e, b)
  | .ok _ =>
    if b.knows element.id then (.error (.duplicateElement element.id), b)
    else (.ok (), { b with registered := b.registered ++ [element] })

def place (ownerId : Id) (field : OwnerField) (elementId : Id) :
    Action Builder BuilderError Unit := fun b =>
  match b.label? with
  | .error e => (.error e, b)
  | .ok _ =>
    match takeFirst? (·.id == elementId) b.registered with
    | none => (.error (.unregisteredElement elementId), b)
    | some (element, rest) =>
      (.ok (), { b with registered := rest, placed := b.placed ++ [⟨ownerId, field, element⟩] })

/-- Ends the transaction; elements without a place are left out. -/
def finish : Action Builder BuilderError Unit := fun b =>
  match b.label? with
  | .error e => (.error e, b)
  | .ok label => (.ok (), { b with stage := .ended label })

def content (b : Builder) : Except BuilderError (String × List FieldInsertion) :=
  match b.stage with
  | .idle => .error .notStarted
  | .started label => .error (.notEnded label)
  | .ended label => .ok (label, b.placed)

/-- A new command with the content of an ended builder. -/
def command (b : Builder) : Action Supply BuilderError EditCommand := fun s =>
  match b.content with
  | .error e => (.error e, s)
  | .ok (label, insertions) =>
    let (c, s) := EditCommand.create label insertions s
    (.ok c, s)

end Builder

end Accessors
