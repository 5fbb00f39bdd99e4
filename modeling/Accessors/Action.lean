/-!
# Actions

An action changes a state and may fail. A failed action has a state, too: the one it had reached.
-/

namespace Accessors

abbrev Action (σ ε α : Type) := ExceptT ε (StateM σ) α

namespace Action

variable {σ τ ε δ α : Type}

/-- An action on a part of the state. -/
def focus (view : τ → σ) (update : τ → σ → τ) (a : Action σ ε α) : Action τ ε α := fun t =>
  let (result, s) := a (view t)
  (result, update t s)

def ofState (m : StateM σ α) : Action σ ε α := fun s =>
  let (a, s) := m s
  (.ok a, s)

def mapError (f : ε → δ) (a : Action σ ε α) : Action σ δ α := fun s =>
  let (result, s) := a s
  (result.mapError f, s)

end Action

end Accessors
