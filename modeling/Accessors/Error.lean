import Accessors.Supply

/-!
# Errors

What goes wrong while a model is edited, and the message for each cause.
-/

namespace Accessors

/-- Misuse of a builder, whose calls have to come in order. -/
inductive BuilderError where
  | notStarted
  | alreadyStarted (label : String)
  | notEnded (label : String)
  | alreadyEnded (label : String)
  | unregisteredElement (id : Id)
  | duplicateElement (id : Id)
  deriving DecidableEq

def BuilderError.message : BuilderError → String
  | .notStarted => "builder has not been started"
  | .alreadyStarted label => "builder already started transaction '" ++ label ++ "'"
  | .notEnded label => "transaction '" ++ label ++ "' has not been ended"
  | .alreadyEnded label => "transaction '" ++ label ++ "' has already ended"
  | .unregisteredElement id =>
    "element '" ++ id ++ "' was not registered with insert() before field_insert()"
  | .duplicateElement id => "element '" ++ id ++ "' is already registered in this transaction"

/-- Why the repository refuses an edit. -/
inductive RepositoryError where
  | entityNotFound (id : Id)
  | duplicateOperation (entity name : String)
  | ownerMismatch (operation : String) (declared target : Id)
  | nothingToUndo
  | nothingToRedo
  | builder (e : BuilderError)
  deriving DecidableEq

def RepositoryError.message : RepositoryError → String
  | .entityNotFound id => "entity '" ++ id ++ "' not found"
  | .duplicateOperation entity name =>
    "entity '" ++ entity ++ "' already has an operation named '" ++ name ++ "'"
  | .ownerMismatch operation declared target =>
    "operation '" ++ operation ++ "' belongs to '" ++ declared ++ "' but was inserted into '" ++
      target ++ "'"
  | .nothingToUndo => "nothing to undo"
  | .nothingToRedo => "nothing to redo"
  | .builder e => e.message

inductive GenerateError where
  /-- The transaction `label` was refused after `applied` others had been committed. -/
  | rejected (label : String) (applied : Nat) (source : RepositoryError)
  | unknownCommand (id : String)
  deriving DecidableEq

def GenerateError.message : GenerateError → String
  | .rejected label applied source =>
    "'" ++ label ++ "' was rejected after " ++ Nat.repr applied ++ " committed transaction(s): " ++
      source.message
  | .unknownCommand id => "unknown command '" ++ id ++ "'"

end Accessors
