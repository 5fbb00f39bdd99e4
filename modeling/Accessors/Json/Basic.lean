/-!
# JSON values

Objects keep their members in the order they were written, repeated keys included. `canonical`
sorts members by key and keeps the last of those with one key.
-/

namespace Accessors

/-- Whole numbers that fit into 64 bits, signed or unsigned, and floating-point numbers. -/
inductive Json.Number where
  | int (n : Int)
  | float (x : Float)

inductive Json where
  | null
  | bool (b : Bool)
  | num (n : Json.Number)
  | str (s : String)
  | arr (items : List Json)
  | obj (members : List (String × Json))

namespace Json

instance : Inhabited Json := ⟨.null⟩

def ofNat (n : Nat) : Json := .num (.int n)

def ofStrings (xs : List String) : Json := .arr (xs.map .str)

def ofOption {α : Type} (f : α → Json) : Option α → Json
  | none => .null
  | some x => f x

/-- The last member of an object with the key. -/
def get? (key : String) : Json → Option Json
  | .obj members => members.reverse.lookup key
  | _ => none

def insertByKey {α : Type} (m : String × α) : List (String × α) → List (String × α)
  | [] => [m]
  | n :: rest => if m.1 < n.1 then m :: n :: rest else n :: insertByKey m rest

/-- Sorted by key; a member goes when a later one has its key. -/
def sortMembers {α : Type} : List (String × α) → List (String × α)
  | [] => []
  | m :: rest =>
    if rest.any (·.1 == m.1) then sortMembers rest else insertByKey m (sortMembers rest)

mutual
def canonical : Json → Json
  | .arr items => .arr (canonicalItems items)
  | .obj members => .obj (sortMembers (canonicalMembers members))
  | v => v
def canonicalItems : List Json → List Json
  | [] => []
  | v :: rest => canonical v :: canonicalItems rest
def canonicalMembers : List (String × Json) → List (String × Json)
  | [] => []
  | (k, v) :: rest => (k, canonical v) :: canonicalMembers rest
end

end Json

end Accessors
