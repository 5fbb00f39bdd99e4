import Accessors.Text.CaseTable

/-!
# Upper and lower case

Full case mapping: a character may become several, and a capital sigma at the end of a word
becomes the final form. `capitalize` changes the first character of a text, `lower` all of them.
-/

namespace Accessors.Text

def CaseRun.covers (r : CaseRun) (c : Nat) : Bool :=
  r.first ≤ c && c ≤ r.last && (c - r.first) % r.step == 0

/-- The image of a code point under the first run that covers it. -/
def mapped? (runs : List CaseRun) (c : Nat) : Option Nat :=
  (runs.find? (·.covers c)).map fun r => r.image + (c - r.first)

def inRanges (ranges : List (Nat × Nat)) (c : Char) : Bool :=
  ranges.any fun r => r.1 ≤ c.toNat && c.toNat ≤ r.2

def cased (c : Char) : Bool := inRanges casedRanges c

def caseIgnorable (c : Char) : Bool := inRanges caseIgnorableRanges c

/-- One character through an expansion table and a run table; characters in neither stay. -/
def mapChar (expansions : List (Nat × List Nat)) (runs : List CaseRun) (c : Char) : List Char :=
  match expansions.lookup c.toNat with
  | some images => images.map Char.ofNat
  | none =>
    match mapped? runs c.toNat with
    | some image => [Char.ofNat image]
    | none => [c]

def upperChar (c : Char) : List Char := mapChar upperExpansions upperRuns c

/-- The lower-case form of a character outside any word. -/
def lowerChar (c : Char) : List Char := mapChar lowerExpansions lowerRuns c

/-- Whether a cased character comes first once the ignorable ones are passed over. -/
def meetsCased (cs : List Char) : Bool :=
  match cs.dropWhile caseIgnorable with
  | c :: _ => cased c
  | [] => false

/-- A sigma ends a word when a cased character stands before it and none after it. The characters
before it are given backwards. -/
def endsWord (before after : List Char) : Bool := meetsCased before && !meetsCased after

/-- `lowerFrom before rest` is the lower-case form of `rest`, which stands behind the reverse of
`before`. -/
def lowerFrom (before : List Char) : List Char → List Char
  | [] => []
  | c :: rest =>
    (if c = 'Σ' then (if endsWord before rest then ['ς'] else ['σ']) else lowerChar c) ++
      lowerFrom (c :: before) rest

def lower (s : String) : String := .ofList (lowerFrom [] s.toList)

/-- The first character in upper case, the others as they are. -/
def capitalize (s : String) : String :=
  match s.toList with
  | [] => ""
  | c :: rest => .ofList (upperChar c ++ rest)

end Accessors.Text
