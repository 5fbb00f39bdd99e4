import Accessors.Model.TypeDescriptor

/-!
# Operations

The named members of an entity, with their parameters. The signature is the one that class diagrams
show, such as `+setAge($age: ?number): void`. A draft is an operation without identifiers.
-/

namespace Accessors

inductive Visibility where
  | «public»
  | «protected»
  | «private»
  | package
  deriving DecidableEq

namespace Visibility

def name : Visibility → String
  | .public => "public"
  | .protected => "protected"
  | .private => "private"
  | .package => "package"

def symbol : Visibility → String
  | .public => "+"
  | .protected => "#"
  | .private => "-"
  | .package => "~"

end Visibility

inductive Direction where
  | input
  | result
  deriving DecidableEq

def Direction.name : Direction → String
  | .input => "in"
  | .result => "return"

structure Parameter where
  id : Id
  direction : Direction
  name : Option String
  type : TypeDescriptor
  deriving DecidableEq

structure Operation where
  id : Id
  name : String
  visibility : Visibility
  /-- The owning entity; empty where none is named. -/
  ownerId : Id
  /-- In the order of the signature, with the result among them. -/
  parameters : List Parameter
  deriving DecidableEq

namespace Operation

def inputs (op : Operation) : List Parameter := op.parameters.filter (·.direction = .input)

def result? (op : Operation) : Option Parameter := op.parameters.find? (·.direction = .result)

def directions (op : Operation) : List Direction := op.parameters.map (·.direction)

end Operation

def Parameter.display (p : Parameter) : String :=
  match p.type.text? with
  | some t => p.name.getD "" ++ ": " ++ t
  | none => p.name.getD ""

def Operation.signature (op : Operation) : String :=
  op.visibility.symbol ++ op.name ++ "(" ++
    String.intercalate ", " (op.inputs.map Parameter.display) ++ ")" ++
    match op.result?.bind (·.type.text?) with
    | some t => ": " ++ t
    | none => ""

/-! ### Drafts -/

structure Parameter.Draft where
  direction : Direction
  name : Option String
  type : TypeDescriptor
  deriving DecidableEq

structure Operation.Draft where
  name : String
  visibility : Visibility := .public
  ownerId : Id
  parameters : List Parameter.Draft
  deriving DecidableEq

def Parameter.draft (p : Parameter) : Parameter.Draft := ⟨p.direction, p.name, p.type⟩

def Operation.draft (op : Operation) : Operation.Draft :=
  ⟨op.name, op.visibility, op.ownerId, op.parameters.map Parameter.draft⟩

def Parameter.Draft.identify (p : Parameter.Draft) : StateM Supply Parameter := do
  return { id := ← Supply.fresh, direction := p.direction, name := p.name, type := p.type }

def Operation.Draft.identify (d : Operation.Draft) : StateM Supply Operation := do
  let id ← Supply.fresh
  let parameters ← d.parameters.mapM Parameter.Draft.identify
  return { id, name := d.name, visibility := d.visibility, ownerId := d.ownerId, parameters }

end Accessors
