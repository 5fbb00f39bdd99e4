import Accessors.Plan
import Accessors.Transaction

/-!
# Generation

Carries out the plan for a selection, either as one transaction or as one for each batch. As one
transaction a request is refused as a whole; otherwise the batches before the refused one stay.
-/

namespace Accessors

/-- How the members of a request are grouped into transactions. -/
inductive Granularity where
  | perRequest
  | perMember
  deriving DecidableEq

structure Options where
  constructorPolicy : ConstructorPolicy := .requireMandatory
  granularity : Granularity := .perRequest
  deriving DecidableEq

structure Report where
  constructors : Nat := 0
  getters : Nat := 0
  setters : Nat := 0
  skipped : Nat := 0
  duplicates : Nat := 0
  commands : List Receipt := []
  deriving DecidableEq

def Report.members (r : Report) : Nat := r.constructors + r.getters + r.setters

/-- The number of members in a word of 64 bits, which wraps around. -/
def Report.operations (r : Report) : UInt64 := .ofNat r.members

def Plan.report (p : Plan) (commands : List Receipt) : Report where
  constructors := p.count .constructor
  getters := p.count .accessors
  setters := p.count .accessors
  skipped := p.skipped
  duplicates := p.duplicates
  commands := commands

def requestLabel : String := "generate getters, setters & constructors"

namespace Transaction

def stageBatches : List (Batch Operation) → Action Transaction RepositoryError Unit
  | [] => pure ()
  | b :: rest => do
    stageAll b.ownerId b.members
    stageBatches rest

end Transaction

namespace Host

/-- All batches in one transaction. -/
def commitRequest (batches : List (Batch Operation)) :
    Action Host GenerateError (List Receipt) := do
  let receipt ← (transact requestLabel (Transaction.stageBatches batches)).mapError
    (.rejected requestLabel 0)
  return receipt.toList

/-- Each batch in a transaction of its own; `applied` have been committed before. -/
def commitMembers (applied : Nat) :
    List (Batch Operation) → Action Host GenerateError (List Receipt)
  | [] => pure []
  | b :: rest => do
    let receipt ← (commit b.ownerId b.kind.label b.members).mapError
      (.rejected b.kind.label applied)
    let receipts ← commitMembers (applied + receipt.toList.length) rest
    return receipt.toList ++ receipts

def commitAll (granularity : Granularity) (batches : List (Batch Operation)) :
    Action Host GenerateError (List Receipt) :=
  match granularity with
  | .perRequest => commitRequest batches
  | .perMember => commitMembers 0 batches

def generate (options : Options) (selection : List ElementRef) :
    Action Host GenerateError Report := do
  let plan := Plan.ofSelection (← get).reader options.constructorPolicy selection
  let batches ← onSupply (.ofState (plan.batches.mapM Batch.identify))
  return plan.report (← commitAll options.granularity batches)

def generateSelected (options : Options) : Action Host GenerateError Report := do
  generate options (← get).repository.selection

end Host

end Accessors
