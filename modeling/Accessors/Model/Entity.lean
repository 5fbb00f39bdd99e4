import Accessors.Model.Operation

/-!
# Entities

Classes with their attributes and operations. Each child names its entity in `ownerId`, which
`Entity.adoptChildren` fills in.
-/

namespace Accessors

structure Attribute where
  id : Id
  name : String
  type : TypeDescriptor
  ownerId : Id
  deriving DecidableEq

structure Entity where
  id : Id
  name : String
  attributes : List Attribute
  operations : List Operation
  description : Option String
  deriving DecidableEq

namespace Entity

def create (name : String) : StateM Supply Entity := do
  return { id := ← Supply.fresh, name, attributes := [], operations := [], description := none }

/-- Appends an attribute of the entity's own and gives its identifier. -/
def addAttribute (e : Entity) (name : String) (type : TypeDescriptor) :
    StateM Supply (Id × Entity) := do
  let id ← Supply.fresh
  return (id, { e with attributes := e.attributes ++ [⟨id, name, type, e.id⟩] })

def attribute? (e : Entity) (id : Id) : Option Attribute := e.attributes.find? (·.id == id)

def attributeNamed? (e : Entity) (name : String) : Option Attribute :=
  e.attributes.find? (·.name == name)

def hasOperationNamed (e : Entity) (name : String) : Bool := e.operations.any (·.name == name)

def operationNames (e : Entity) : List String := e.operations.map (·.name)

def adoptChildren (e : Entity) : Entity :=
  { e with
    attributes := e.attributes.map fun a => { a with ownerId := e.id }
    operations := e.operations.map fun op => { op with ownerId := e.id } }

/-- Appends an operation, which becomes the entity's own. -/
def append (e : Entity) (op : Operation) : Entity :=
  { e with operations := e.operations ++ [{ op with ownerId := e.id }] }

end Entity

end Accessors
