import Accessors.Json.Decoder
import Accessors.Text.Casing

/-!
# Types of attributes and parameters

A type is written as a name, which a leading `?` marks as optional, as a link to an entity, or as
the marker of operations that give nothing back. `TypeDescriptor.ofJson` accepts exactly the written
forms, and `TypeDescriptor.normalize` is the form that generated members show.
-/

namespace Accessors

inductive TypeDescriptor where
  /-- No type is set. -/
  | absent
  /-- The operation gives nothing back. -/
  | void
  | primitive (name : String)
  /-- A named type with a leading `?`, which is not part of `name`. -/
  | optional (name : String)
  | entityRef (id : Id) (name : String)
  deriving DecidableEq

/-- Why a JSON value is no type. -/
inductive TypeFault where
  | unknownMarker (marker : String)
  | unrecognized (value : Json)

namespace TypeFault

def message : TypeFault → String
  | .unknownMarker marker => "unknown type marker '" ++ marker ++ "', expected 'void'"
  | .unrecognized value =>
    "invalid type " ++ value.canonical.compact ++
      ": expected a type name, \x7b\"$ref\": <entity id>, \"name\": ...\x7d or " ++
      "\x7b\"marker\": \"void\"\x7d"

end TypeFault

namespace TypeDescriptor

instance : Inhabited TypeDescriptor := ⟨.absent⟩

def parse (raw : String) : TypeDescriptor :=
  match raw.toList with
  | [] => .absent
  | '?' :: name => .optional (.ofList name)
  | _ => .primitive raw

/-- The name as a signature shows it. -/
def text? : TypeDescriptor → Option String
  | .absent => none
  | .void => some "void"
  | .primitive name => some name
  | .optional name => some ("?" ++ name)
  | .entityRef _ name => some name

def display (t : TypeDescriptor) : String := t.text?.getD ""

def referencedEntity? : TypeDescriptor → Option Id
  | .entityRef id _ => some id
  | _ => none

def isVoid : TypeDescriptor → Bool
  | .void => true
  | _ => false

/-- Whether a value is always there. Links cannot be marked optional and are always mandatory. -/
def isMandatory : TypeDescriptor → Bool
  | .absent => false
  | .void => false
  | .primitive _ => true
  | .optional _ => false
  | .entityRef _ _ => true

def normalize : TypeDescriptor → TypeDescriptor
  | .absent => .absent
  | .void => .void
  | .primitive name => .primitive (Text.lower name)
  | .optional name => .optional (Text.lower name)
  | .entityRef id name => .entityRef id (Text.lower name)

/-! ### JSON -/

def toJson : TypeDescriptor → Json
  | .absent => .null
  | .void => .obj [("marker", .str "void")]
  | .primitive name => .str name
  | .optional name => .str ("?" ++ name)
  | .entityRef id name => .obj [("$ref", .str id), ("name", .str name)]

/-- The string under a key that occurs once. -/
def single? (members : List (String × Json)) (key : String) : Option String :=
  match members.filter (·.1 == key) with
  | [(_, .str s)] => some s
  | _ => none

/-- A link has one `$ref` and at most one `name`; other members do not matter. -/
def link? (members : List (String × Json)) : Option TypeDescriptor :=
  match single? members "$ref" with
  | none => none
  | some id =>
    if members.any (·.1 == "name") then (single? members "name").map (.entityRef id)
    else some (.entityRef id "")

def ofMembers (members : List (String × Json)) : Except TypeFault TypeDescriptor :=
  match link? members with
  | some t => .ok t
  | none =>
    match single? members "marker" with
    | some marker => if marker = "void" then .ok .void else .error (.unknownMarker marker)
    | none => .error (.unrecognized (.obj members))

def ofJson : Json → Except TypeFault TypeDescriptor
  | .null => .ok .absent
  | .str s => .ok (parse s)
  | .obj members => ofMembers members
  | v => .error (.unrecognized v)

/-- The whole value is read before it is judged. -/
def decoder : Json.Decoder TypeDescriptor := fun depth r => do
  match ofJson (← Json.Decode.ofFlaw (r.value depth)) with
  | .ok t => pure t
  | .error e => throw (.data (.rejected e.message))

end TypeDescriptor

end Accessors
