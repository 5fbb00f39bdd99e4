import Accessors.Model.Entity

/-!
# Projects

All entities of a model. Elements are found by identifier, by name, or by a path such as `Car` or
`Car.engine`; of several with one name or identifier the first is found.
-/

namespace Accessors

inductive ElementKind where
  | entity
  | attribute
  /-- Anything else that can be selected. -/
  | other
  deriving DecidableEq

def ElementKind.name : ElementKind → String
  | .entity => "entity"
  | .attribute => "attribute"
  | .other => "other"

/-- A selected element. -/
structure ElementRef where
  kind : ElementKind
  id : Id
  deriving DecidableEq

structure Project where
  id : Id
  name : String
  entities : List Entity
  deriving DecidableEq

def updateFirst {α : Type} (p : α → Bool) (f : α → α) : List α → List α
  | [] => []
  | a :: rest => if p a then f a :: rest else a :: updateFirst p f rest

/-- The two sides of the first `.`, if there is one. -/
def splitAtDot (cs : List Char) : Option (List Char × List Char) :=
  match cs.dropWhile (· != '.') with
  | [] => none
  | _ :: rest => some (cs.takeWhile (· != '.'), rest)

namespace Project

def create (name : String) : StateM Supply Project := do
  return { id := ← Supply.fresh, name, entities := [] }

def entityNamed? (p : Project) (name : String) : Option Entity :=
  p.entities.find? (·.name == name)

def entity? (p : Project) (id : Id) : Option Entity := p.entities.find? (·.id == id)

/-- Changes the entity that `entity?` finds. -/
def updateEntity (p : Project) (id : Id) (f : Entity → Entity) : Project :=
  { p with entities := updateFirst (·.id == id) f p.entities }

/-- An attribute of any entity, with the entity. -/
def attribute? (p : Project) (id : Id) : Option (Entity × Attribute) :=
  p.entities.findSome? fun e => (e.attribute? id).map (e, ·)

def resolvePath (p : Project) (path : String) : Option ElementRef :=
  match splitAtDot path.toList with
  | none => (p.entityNamed? path).map fun e => ⟨.entity, e.id⟩
  | some (owner, member) => do
    let e ← p.entityNamed? (.ofList owner)
    let a ← e.attributeNamed? (.ofList member)
    return ⟨.attribute, a.id⟩

def selectAll (p : Project) : List ElementRef := p.entities.map fun e => ⟨.entity, e.id⟩

/-- Every attribute and operation names the entity that contains it. -/
def normalize (p : Project) : Project := { p with entities := p.entities.map Entity.adoptChildren }

def operationCount (p : Project) : Nat := (p.entities.flatMap (·.operations)).length

end Project

end Accessors
