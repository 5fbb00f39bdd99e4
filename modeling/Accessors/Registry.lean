import Accessors.Generation

/-!
# Commands

A registry maps identifiers of commands to what they do.
-/

namespace Accessors

abbrev Handler := Action Host GenerateError Report

structure Registry where
  handlers : List (String × Handler) := []

def generateCommand : String := "gettersetter:generate"

namespace Registry

def contains (r : Registry) (id : String) : Bool := r.handlers.any (·.1 == id)

/-- Registers a handler and tells whether it replaces another one. -/
def register (id : String) (handler : Handler) (r : Registry) : Bool × Registry :=
  (r.contains id, { r with handlers := (id, handler) :: r.handlers.filter (·.1 != id) })

def withGenerate (options : Options) (r : Registry) : Registry :=
  (r.register generateCommand (Host.generateSelected options)).2

def ids (r : Registry) : List String := (r.handlers.map (·.1)).mergeSort fun a b => decide (a ≤ b)

def execute (r : Registry) (id : String) : Handler :=
  match r.handlers.lookup id with
  | some handler => handler
  | none => throw (.unknownCommand id)

end Registry

end Accessors
