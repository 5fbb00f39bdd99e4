import Accessors.Model.Project

/-!
# Edit commands

A command is a list of insertions that are made together. Its fingerprint is the digest of its label
and of one line for each insertion.
-/

namespace Accessors

/-- The collection of an entity that an insertion appends to. -/
inductive OwnerField where
  | operations
  deriving DecidableEq

def OwnerField.name : OwnerField → String
  | .operations => "operations"

structure FieldInsertion where
  ownerId : Id
  field : OwnerField
  element : Operation
  deriving DecidableEq

structure EditCommand where
  id : Id
  label : String
  hash : String
  createdAt : String
  insertions : List FieldInsertion
  deriving DecidableEq

def FieldInsertion.line (i : FieldInsertion) : String :=
  "insert:" ++ i.ownerId ++ "." ++ i.field.name ++ ":" ++ i.element.id ++ ":" ++
    i.element.signature ++ "\n"

namespace EditCommand

/-- The text that the fingerprint is taken of. -/
def digestText (label : String) (insertions : List FieldInsertion) : String :=
  "label:" ++ label ++ "\n" ++ String.join (insertions.map FieldInsertion.line)

def fingerprint (label : String) (insertions : List FieldInsertion) : String :=
  Digest.fingerprint (digestText label insertions)

def create (label : String) (insertions : List FieldInsertion) : StateM Supply EditCommand := do
  return { id := ← Supply.fresh, label, hash := fingerprint label insertions,
           createdAt := ← Supply.time, insertions }

def insertedIds (c : EditCommand) : List Id := c.insertions.map (·.element.id)

end EditCommand

end Accessors
