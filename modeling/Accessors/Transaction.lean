import Accessors.Builder
import Accessors.Repository

/-!
# Transactions

A transaction stages operations in a builder and then hands them to the repository as one command.
Until then the repository is as it was. A `Host` is what transactions work against.
-/

namespace Accessors

/-- The repository, the identifiers and the time for new commands, the model that answers look-ups
(the repository's own where none is given) and the builder that a transaction begins with. -/
structure Host where
  repository : Repository
  supply : Supply
  view : Option Project := none
  builder : Builder := {}

namespace Host

def reader (h : Host) : Project := h.view.getD h.repository.project

def onRepository {ε α : Type} (a : Action Repository ε α) : Action Host ε α :=
  a.focus (·.repository) fun h r => { h with repository := r }

def onSupply {ε α : Type} (a : Action Supply ε α) : Action Host ε α :=
  a.focus (·.supply) fun h s => { h with supply := s }

end Host

structure Receipt where
  commandId : Id
  label : String
  hash : String
  inserted : Nat
  deriving DecidableEq

def EditCommand.receipt (c : EditCommand) : Receipt :=
  ⟨c.id, c.label, c.hash, c.insertions.length⟩

structure Transaction where
  builder : Builder
  staged : Nat := 0
  deriving DecidableEq

namespace Transaction

def start (builder : Builder) (label : String) : Except RepositoryError Transaction :=
  match Builder.start label builder with
  | (.ok (), b) => .ok { builder := b }
  | (.error e, _) => .error (.builder e)

def onBuilder {α : Type} (a : Action Builder BuilderError α) :
    Action Transaction RepositoryError α :=
  (a.mapError .builder).focus (·.builder) fun t b => { t with builder := b }

/-- Registers an operation and places it among the operations of an entity. -/
def stage (ownerId : Id) (op : Operation) : Action Transaction RepositoryError Unit := do
  onBuilder (Builder.insert op)
  onBuilder (Builder.place ownerId .operations op.id)
  modify fun t => { t with staged := t.staged + 1 }

/-- Stages operations in turn, up to the first that fails. -/
def stageAll (ownerId : Id) : List Operation → Action Transaction RepositoryError Unit
  | [] => pure ()
  | op :: rest => do
    stage ownerId op
    stageAll ownerId rest

/-- Hands the staged operations to the repository. Nothing is submitted where nothing is staged. -/
def submit (t : Transaction) : Action Host RepositoryError (Option Receipt) := do
  match Builder.finish t.builder with
  | (.error e, _) => throw (.builder e)
  | (.ok (), b) =>
    let c ← Host.onSupply (b.command.mapError .builder)
    if c.insertions.isEmpty then return none
    Host.onRepository (Repository.submit c)
    return some c.receipt

end Transaction

namespace Host

/-- Starts a transaction, lets `fill` stage operations, and submits it. -/
def transact (label : String) (fill : Action Transaction RepositoryError Unit) :
    Action Host RepositoryError (Option Receipt) := do
  match Transaction.start (← get).builder label with
  | .error e => throw e
  | .ok t =>
    match fill t with
    | (.error e, _) => throw e
    | (.ok (), t) => t.submit

def commit (target : Id) (label : String) (operations : List Operation) :
    Action Host RepositoryError (Option Receipt) :=
  transact label (Transaction.stageAll target operations)

end Host

end Accessors
