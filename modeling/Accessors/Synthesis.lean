import Accessors.Model.Entity

/-!
# Synthesis of members

The getter and the setter of an attribute and the constructor of an entity, as drafts. Types appear
in lower case, and parameters are named after their attributes with a leading `$`.
-/

namespace Accessors

def constructorName : String := "__construct"

namespace Attribute

def isMandatory (a : Attribute) : Bool := a.type.isMandatory

def displayType (a : Attribute) : TypeDescriptor := a.type.normalize

def parameterName (a : Attribute) : String := "$" ++ a.name

def parameter (a : Attribute) : Parameter.Draft := ⟨.input, some a.parameterName, a.displayType⟩

def getter (a : Attribute) : Operation.Draft where
  name := "get" ++ Text.capitalize a.name
  ownerId := a.ownerId
  parameters := [⟨.result, none, a.displayType⟩]

def setter (a : Attribute) : Operation.Draft where
  name := "set" ++ Text.capitalize a.name
  ownerId := a.ownerId
  parameters := [a.parameter, ⟨.result, none, .void⟩]

/-- The getter and then the setter. -/
def accessors (a : Attribute) : List Operation.Draft := [a.getter, a.setter]

end Attribute

/-- Takes every mandatory attribute, in order. -/
def Entity.constructor (e : Entity) : Operation.Draft where
  name := constructorName
  ownerId := e.id
  parameters := (e.attributes.filter Attribute.isMandatory).map Attribute.parameter

end Accessors
