import Accessors.Model.Project
import Accessors.Synthesis

/-!
# Plans

The members that a request generates for a selection, in order, before any of them is inserted. Each
entity and each attribute counts once in a request; the later times are duplicates.
-/

namespace Accessors

/-- Whether a class without mandatory attributes gets a constructor. -/
inductive ConstructorPolicy where
  | requireMandatory
  | always
  deriving DecidableEq

namespace ConstructorPolicy

def inserts (policy : ConstructorPolicy) (hasParameters : Bool) : Bool :=
  match policy with
  | .requireMandatory => hasParameters
  | .always => true

end ConstructorPolicy

/-- A batch holds the constructor of an entity, or the getter and the setter of an attribute. -/
inductive Batch.Kind where
  | constructor
  | accessors
  deriving DecidableEq

/-- Members for one owner, as drafts or as operations. -/
structure Batch (α : Type) where
  kind : Batch.Kind
  ownerId : Id
  members : List α

def Batch.Kind.label : Batch.Kind → String
  | .constructor => "generate constructor"
  | .accessors => "generate getter & setter"

namespace Batch

def ofEntity (e : Entity) : Batch Operation.Draft := ⟨.constructor, e.id, [e.constructor]⟩

def ofAttribute (a : Attribute) : Batch Operation.Draft := ⟨.accessors, a.ownerId, a.accessors⟩

def identify (b : Batch Operation.Draft) : StateM Supply (Batch Operation) := do
  return { kind := b.kind, ownerId := b.ownerId,
           members := ← b.members.mapM Operation.Draft.identify }

end Batch

structure Plan where
  batches : List (Batch Operation.Draft) := []
  /-- Selected elements that are of no use here or not in the model. -/
  skipped : Nat := 0
  duplicates : Nat := 0
  /-- Identifiers of entities met so far. -/
  entities : List Id := []
  /-- Identifiers of attributes met so far. -/
  attributes : List Id := []

namespace Plan

def skip (p : Plan) : Plan := { p with skipped := p.skipped + 1 }

def repeated (p : Plan) : Plan := { p with duplicates := p.duplicates + 1 }

def push (p : Plan) (b : Batch Operation.Draft) : Plan := { p with batches := p.batches ++ [b] }

def meetEntity (p : Plan) (id : Id) : Plan := { p with entities := id :: p.entities }

def meetAttribute (p : Plan) (id : Id) : Plan := { p with attributes := id :: p.attributes }

def addAttribute (p : Plan) (a : Attribute) : Plan :=
  if p.attributes.contains a.id then p.repeated else (p.meetAttribute a.id).push (.ofAttribute a)

def addConstructor (policy : ConstructorPolicy) (p : Plan) (e : Entity) : Plan :=
  if policy.inserts (!e.constructor.parameters.isEmpty) then p.push (.ofEntity e) else p

def step (reader : Project) (policy : ConstructorPolicy) (p : Plan) (element : ElementRef) : Plan :=
  match element.kind with
  | .entity =>
    if p.entities.contains element.id then p.repeated
    else
      let p := p.meetEntity element.id
      match reader.entity? element.id with
      | none => p.skip
      | some e => e.attributes.foldl addAttribute (p.addConstructor policy e)
  | .attribute =>
    if p.attributes.contains element.id then p.repeated
    else
      let p := p.meetAttribute element.id
      match reader.attribute? element.id with
      | none => p.skip
      | some (_, a) => p.push (.ofAttribute a)
  | .other => p.skip

/-- The plan for a selection, with look-ups answered by `reader`. -/
def ofSelection (reader : Project) (policy : ConstructorPolicy) (selection : List ElementRef) :
    Plan :=
  selection.foldl (step reader policy) {}

def count (p : Plan) (kind : Batch.Kind) : Nat := p.batches.countP (·.kind == kind)

end Plan

end Accessors
