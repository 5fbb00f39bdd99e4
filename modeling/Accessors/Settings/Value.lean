import Accessors.Json.Basic
import Accessors.Text.Casing

/-!
# Values of settings

A layer of settings is a tree of tables, arrays and scalars. Keys of tables are compared in lower
case. Setting a table merges it into the one that is there; any other value replaces what was there,
and a scalar in the way of a path becomes the container that the path needs.
-/

namespace Accessors.Settings

inductive Value where
  | nil
  | bool (b : Bool)
  | int (n : Int)
  | float (x : Float)
  | str (s : String)
  | array (items : List Value)
  | table (members : List (String × Value))

/-- A step from a value to a part of it. -/
inductive Step where
  | key (name : String)
  | index (i : Int)
  deriving DecidableEq

namespace Value

instance : Inhabited Value := ⟨.nil⟩

def members : Value → List (String × Value)
  | .table ms => ms
  | _ => []

def items : Value → List Value
  | .array vs => vs
  | _ => []

/-- Replaces the member with the key, or adds one at the end. -/
def replace (name : String) (v : Value) : List (String × Value) → List (String × Value)
  | [] => [(name, v)]
  | (n, w) :: rest => if n = name then (n, v) :: rest else (n, w) :: replace name v rest

/-- The member of a table under a key; other values have none. -/
def get? (v : Value) (name : String) : Option Value := v.members.lookup name

/-- Sets a member. Other values give way to a table with this member alone. -/
def put (target : Value) (name : String) (v : Value) : Value :=
  .table (replace name v target.members)

mutual

/-- The value that takes the place of `old` when `v` is set there. -/
def merge : Value → Option Value → Value
  | .table ms, old => mergeMembers ms (old.getD (.table []))
  | v, _ => v

def mergeMembers : List (String × Value) → Value → Value
  | [], target => target
  | (name, v) :: rest, target =>
    mergeMembers rest (target.put (Text.lower name) (merge v (target.get? (Text.lower name))))

end

/-- No list has more items than this. -/
def maxItems : Nat := Nat.pow 2 26

/-- The position that an index means; a negative one counts from the end. Before the start of the
list there is none, nor where the list would be too long. -/
def position? (i : Int) (length : Nat) : Option Nat :=
  let n := if 0 ≤ i then i else length + i
  if 0 ≤ n && n < maxItems then some n.toNat else none

/-- Replaces the item at a position, filling the places up to it. -/
def putItem (n : Nat) (v : Value) (vs : List Value) : List Value :=
  (vs ++ List.replicate (n + 1 - vs.length) Value.nil).set n v

/-- Sets a value at the end of a path, unless an index in it has no position. -/
def setPath? (v : Value) : List Step → Value → Option Value
  | [], _ => some v
  | [.key name], target => some (mergeMembers [(name, v)] target)
  | .key name :: rest, target => do
    let name := Text.lower name
    return target.put name (← setPath? v rest ((target.get? name).getD .nil))
  | .index i :: rest, target => do
    let n ← position? i target.items.length
    return .array (putItem n (← setPath? v rest (target.items.getD n .nil)) target.items)

end Value

/-! ### Paths -/

/-- Names may have spaces in them. -/
def isNameChar (c : Char) : Bool := c.isAlphanum || c == '_' || c == '-' || c == ' '

def isGap (c : Char) : Bool := c == ' ' || c == '\t'

/-- An index of 64 bits, with gaps on either side. -/
def index? (cs : List Char) : Option Int :=
  let (negative, cs) :=
    match cs.dropWhile isGap with
    | '-' :: rest => (true, rest)
    | cs => (false, cs)
  let ds := cs.takeWhile fun c => '0' ≤ c && c ≤ '9'
  let rest := cs.dropWhile fun c => '0' ≤ c && c ≤ '9'
  if ds.isEmpty || !rest.all isGap then none
  else
    let n : Nat := ds.foldl (fun n d => 10 * n + (d.toNat - '0'.toNat)) 0
    let i : Int := if negative then -n else n
    if -Int.pow 2 63 ≤ i && i < Int.pow 2 63 then some i else none

/-- The steps behind the first name, such as `.path` and `[0]`. -/
def stepsFrom? : Nat → List Char → Option (List Step)
  | _, [] => some []
  | 0, _ :: _ => none
  | fuel + 1, c :: rest =>
    if c = '.' then
      let name := rest.takeWhile isNameChar
      if name.isEmpty then none
      else (stepsFrom? fuel (rest.dropWhile isNameChar)).map (.key (.ofList name) :: ·)
    else if c = '[' then
      match index? (rest.takeWhile (· != ']')), rest.dropWhile (· != ']') with
      | some i, _ :: rest => (stepsFrom? fuel rest).map (.index i :: ·)
      | _, _ => none
    else none

/-- The path that a key spells, as in `model.path`. -/
def path? (key : String) : Option (List Step) :=
  let cs := key.toList
  let name := cs.takeWhile isNameChar
  if name.isEmpty then none
  else (stepsFrom? cs.length (cs.dropWhile isNameChar)).map (.key (.ofList name) :: ·)

/-- Sets the value of a key; a key that is no path is left out. -/
def Value.setKey? (target : Value) (key : String) (v : Value) : Option Value :=
  match path? key with
  | some steps => v.setPath? steps target
  | none => some target

/-- Adds a layer, key by key. -/
def Value.addLayer? (target : Value) (layer : List (String × Value)) : Option Value :=
  layer.foldlM (fun t (key, v) => t.setKey? key v) target

end Accessors.Settings
