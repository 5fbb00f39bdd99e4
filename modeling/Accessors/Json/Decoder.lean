import Accessors.Json.Reading
import Accessors.Json.Printer
import Accessors.Supply
import Accessors.Text.Quoted

/-!
# Decoding

A `Decoder` turns a reading into a value of the model. It looks at the text from left to right, and
the first problem that it meets is the answer. Records may be written as objects or as arrays of
their fields in the order of declaration; a `Schema` lists the fields.
-/

namespace Accessors.Json

/-- What stands in a text where something else was expected. -/
inductive Found where
  | null
  | bool (b : Bool)
  | num (n : Number)
  | str (s : String)
  | seq
  | map

def Found.describe : Found → String
  | .null => "null"
  | .bool b => "boolean `" ++ (if b then "true" else "false") ++ "`"
  | .num (.int n) => "integer `" ++ .ofList (intChars n) ++ "`"
  | .num (.float x) => "floating point `" ++ .ofList (Accessors.Number.scientific x) ++ "`"
  | .str s => "string " ++ Text.quote s
  | .seq => "sequence"
  | .map => "map"

/-- How a well-formed text fails to hold the value asked for. -/
inductive Mismatch where
  | wrongType (found : Found) (expected : String)
  | wrongValue (found : Found) (expected : String)
  | missingField (name : String)
  | duplicateField (name : String)
  | unknownVariant (name : String) (variants : List String)
  | tooShort (length : Nat) (record : String) (size : Nat)
  | rejected (reason : String)

namespace Mismatch

def oneOf (names : List String) : String :=
  match names.map fun n => "`" ++ n ++ "`" with
  | [a] => a
  | [a, b] => a ++ " or " ++ b
  | quoted => "one of " ++ String.intercalate ", " quoted

def message : Mismatch → String
  | .wrongType found expected => "invalid type: " ++ found.describe ++ ", expected " ++ expected
  | .wrongValue found expected => "invalid value: " ++ found.describe ++ ", expected " ++ expected
  | .missingField name => "missing field `" ++ name ++ "`"
  | .duplicateField name => "duplicate field `" ++ name ++ "`"
  | .unknownVariant name variants =>
    "unknown variant `" ++ name ++ "`, expected " ++ oneOf variants
  | .tooShort length record size =>
    "invalid length " ++ Nat.repr length ++ ", expected struct " ++ record ++ " with " ++
      Nat.repr size ++ (if size = 1 then " element" else " elements")
  | .rejected reason => reason

end Mismatch

/-- Why a text does not decode. -/
inductive Fault where
  | flaw (f : Flaw)
  | data (m : Mismatch)

def Fault.message : Fault → String
  | .flaw .malformed => "malformed JSON"
  | .flaw .cutShort => "unexpected end of JSON"
  | .data m => m.message

/-- Decoding draws identifiers for elements that come without one. -/
abbrev Decode (α : Type) := StateT Supply (Except Fault) α

/-- A decoder knows how many containers its value stands in. -/
abbrev Decoder (α : Type) := Nat → Reading → Decode α

def Decode.ofFlaw {α : Type} : Except Flaw α → Decode α
  | .ok a => pure a
  | .error f => throw (.flaw f)

def Decode.fresh : Decode Id := fun s => .ok (Supply.fresh s)

/-- The fault of a value that is not of the expected kind. Containers are not looked into. -/
def Reading.fault (expected : String) : Reading → Fault
  | .null => .data (.wrongType .null expected)
  | .bool b => .data (.wrongType (.bool b) expected)
  | .num (.ok n) => .data (.wrongType (.num n) expected)
  | .num (.error f) => .flaw f
  | .str (.ok s) => .data (.wrongType (.str s) expected)
  | .str (.error f) => .flaw f
  | .arr .. => .data (.wrongType .seq expected)
  | .obj .. => .data (.wrongType .map expected)
  | .unkeyed => .data (.wrongType .map expected)
  | .missing => .flaw .cutShort
  | .unclosed asked _ => .flaw asked
  | .broken asked _ => .flaw asked

namespace Decoder

variable {α β : Type}

def string : Decoder String
  | _, .str (.ok s) => pure s
  | _, r => throw (r.fault "a string")

def bool : Decoder Bool
  | _, .bool b => pure b
  | _, r => throw (r.fault "a boolean")

/-- A number of things, up to 64 bits. -/
def count : Decoder Nat
  | _, .num (.ok (.int n)) =>
    if 0 ≤ n then pure n.toNat else throw (.data (.wrongValue (.num (.int n)) "usize"))
  | _, r => throw (r.fault "usize")

def unit : Decoder Unit
  | _, .null => pure ()
  | _, r => throw (r.fault "unit")

/-- Null is no value. -/
def optional (d : Decoder α) : Decoder (Option α)
  | _, .null => pure none
  | depth, r => some <$> d depth r

def items (d : Decoder α) (depth : Nat) : List Reading → Decode (List α)
  | [] => pure []
  | r :: rest => do
    let a ← d depth r
    let as ← items d depth rest
    return a :: as

def list (d : Decoder α) : Decoder (List α)
  | depth, .arr rs close => do
    let as ← items d (depth + 1) rs
    Decode.ofFlaw close.asked
    return as
  | _, r => throw (r.fault "a sequence")

def map (f : α → β) (d : Decoder α) : Decoder β := fun depth r => f <$> d depth r

/-- The end of an object that had its only member. -/
def onlyMember : List (Except Flaw String × Reading) → Close → Decode Unit
  | [], .closed => pure ()
  | [], .flawed asked _ => throw (.flaw asked)
  | _, _ => throw (.flaw .malformed)

def variant (variants : List (String × α)) (name : String) : Decode α :=
  match variants.lookup name with
  | some a => pure a
  | none => throw (.data (.unknownVariant name (variants.map (·.1))))

/-- One of several names, given as a string or as the key of an object that holds null. -/
def choice (variants : List (String × α)) : Decoder α
  | _, .str s => do variant variants (← Decode.ofFlaw s)
  | depth, .obj ((key, r) :: rest) close => do
    let a ← variant variants (← Decode.ofFlaw key)
    unit (depth + 1) r
    onlyMember rest close
    return a
  | _, .obj [] (.flawed asked _) => throw (.flaw asked)
  | _, .missing => throw (.flaw .cutShort)
  | _, .unclosed asked _ => throw (.flaw asked)
  | _, _ => throw (.flaw .malformed)

end Decoder

/-! ### Records -/

/-- What a field is when nothing is given for it: an error, a value of its own, or a value for
objects only. -/
inductive Absent (α : Type) where
  | required
  | default (make : Decode α)
  | unlessListed (a : α)

/-- The fields of a record. The first type holds what has been read of them, the second one what
they are in the end. -/
inductive Schema : Type → Type → Type 1 where
  | done : Schema Unit Unit
  | field {α σ β : Type} (name : String) (read : Decoder α) (absent : Absent α)
      (rest : Schema σ β) : Schema (Option α × σ) (α × β)

namespace Schema

def size {σ β : Type} : Schema σ β → Nat
  | .done => 0
  | .field _ _ _ rest => rest.size + 1

def empty {σ β : Type} : Schema σ β → σ
  | .done => ()
  | .field _ _ _ rest => (none, rest.empty)

/-- Reads the value of one member; nothing for a key that no field has. -/
def put? {σ β : Type} (depth : Nat) (key : String) (r : Reading) :
    Schema σ β → σ → Option (Decode σ)
  | .done, _ => none
  | .field name read _ rest, (slot, slots) =>
    if key = name then
      match slot with
      | some _ => some (throw (.data (.duplicateField name)))
      | none => some do return (some (← read depth r), slots)
    else (put? depth key r rest slots).map fun d => do return (slot, ← d)

def putAll {σ β : Type} (schema : Schema σ β) (depth : Nat) :
    List (Except Flaw String × Reading) → σ → Decode σ
  | [], slots => pure slots
  | (key, r) :: rest, slots => do
    let k ← Decode.ofFlaw key
    match schema.put? depth k r slots with
    | some d => schema.putAll depth rest (← d)
    | none =>
      Decode.ofFlaw r.skip
      schema.putAll depth rest slots

/-- The fields of an object once all members are read. -/
def complete {σ β : Type} : Schema σ β → σ → Decode β
  | .done, () => pure ()
  | .field name _ absent rest, (slot, slots) => do
    let a ← match slot, absent with
      | some a, _ => pure a
      | none, .required => throw (.data (.missingField name))
      | none, .default make => make
      | none, .unlessListed a => pure a
    return (a, ← rest.complete slots)

/-- The end of an array whose fields are all read. -/
def endList : List Reading → Close → Decode Unit
  | [], .closed => pure ()
  | [], .flawed asked _ => throw (.flaw asked)
  | _, _ => throw (.flaw .malformed)

/-- The fields of an array from the `index`-th on; `short` is the fault of one that is missing. -/
def fill {σ β : Type} (depth : Nat) (short : Nat → Fault) (index : Nat) :
    Schema σ β → List Reading → Close → Decode β
  | .done, rs, close => endList rs close
  | .field _ read _ rest, r :: rs, close => do
    let a ← read depth r
    return (a, ← fill depth short (index + 1) rest rs close)
  | .field _ _ absent rest, [], close => do
    Decode.ofFlaw close.asked
    let a ← match absent with
      | .default make => make
      | _ => throw (short index)
    return (a, ← fill depth short (index + 1) rest [] close)

def decoder {σ β : Type} (schema : Schema σ β) (name : String) : Decoder β
  | depth, .obj members close => do
    let slots ← schema.putAll (depth + 1) members schema.empty
    Decode.ofFlaw close.asked
    schema.complete slots
  | depth, .arr rs close =>
    schema.fill (depth + 1) (fun i => .data (.tooShort i name schema.size)) 0 rs close
  | _, .unkeyed => throw (.flaw .malformed)
  | _, r => throw (r.fault ("struct " ++ name))

end Schema

def decode {α : Type} (d : Decoder α) (text : String) : Decode α := do
  let (r, alone) := Reading.ofText text.toList
  let a ← d 0 r
  if alone then return a else throw (.flaw .malformed)

end Accessors.Json
