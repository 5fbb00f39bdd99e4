import Accessors.Json.Decoder

/-!
# Reading what was written

A written value is read back as it was (`ofText_pretty`), whatever characters its strings hold.
Numbers are left out, since the nearest number of 64 bits is not always what is read.
-/

namespace Accessors.Json

/-! ### Strings -/

theorem hexValue_hexDigit : ∀ d < 16, hexValue? (hexDigit d) = some d := by decide

theorem unit_control {n : Nat} (h : n < 32) :
    unit? '0' '0' (hexDigit (n / 16)) (hexDigit (n % 16)) = some n := by
  have high := hexValue_hexDigit (n / 16) (by omega)
  have low := hexValue_hexDigit (n % 16) (by omega)
  have zero : hexValue? '0' = some 0 := by decide
  simp only [unit?, high, low, zero, Option.pure_def, Option.bind_eq_bind, Option.bind_some,
    Option.some.injEq]
  omega

theorem readString_quote (cs : List Char) : readString ('"' :: cs) = .ok ([], cs) := by
  rw [readString.eq_def]
  exact if_pos rfl

theorem readString_plain {c : Char} (quote : c ≠ '"') (backslash : c ≠ '\\') (visible : ¬c.toNat < 32)
    (cs : List Char) : readString (c :: cs) = (readString cs).push c := by
  rw [readString.eq_def]
  simp only [if_neg quote, if_neg backslash, if_neg visible]

theorem readString_short {e c : Char} (short : e ≠ 'u') (escaped : escaped? e = some c)
    (cs : List Char) : readString ('\\' :: e :: cs) = (readString cs).push c := by
  rw [readString.eq_def]
  simp [short, escaped]

theorem readString_unit {a b x y : Char} {n : Nat} (read : unit? a b x y = some n) (small : n < 32)
    (cs : List Char) : readString ('\\' :: 'u' :: a :: b :: x :: y :: cs) = (readString cs).push (.ofNat n) := by
  have low : isLowSurrogate n = false := by simp [isLowSurrogate]; omega
  have high : isHighSurrogate n = false := by simp [isHighSurrogate]; omega
  rw [readString.eq_def]
  simp [read, low, high]

theorem readString_escapeChar (c : Char) (cs : List Char) :
    readString (escapeChar c ++ cs) = (readString cs).push c := by
  have code {n : Nat} (h : c.toNat = n) : c = .ofNat n := by rw [← h, Char.ofNat_toNat]
  unfold escapeChar
  by_cases quote : c = '"'
  · rw [if_pos quote, quote]
    exact readString_short (by decide) rfl cs
  by_cases backslash : c = '\\'
  · rw [if_neg quote, if_pos backslash, backslash]
    exact readString_short (by decide) rfl cs
  rw [if_neg quote, if_neg backslash]
  split
  · rw [code ‹_›]
    exact readString_short (by decide) rfl cs
  split
  · rw [code ‹_›]
    exact readString_short (by decide) rfl cs
  split
  · subst c
    exact readString_short (by decide) rfl cs
  split
  · subst c
    exact readString_short (by decide) rfl cs
  split
  · subst c
    exact readString_short (by decide) rfl cs
  split
  · rename_i small
    have read := readString_unit (unit_control small) small cs
    rwa [Char.ofNat_toNat] at read
  · rename_i visible
    exact readString_plain quote backslash visible cs

theorem readString_escaped (s : List Char) (cs : List Char) :
    readString (s.flatMap escapeChar ++ '"' :: cs) = .ok (s, cs) := by
  induction s with
  | nil => exact readString_quote cs
  | cons c s ih =>
    rw [List.flatMap_cons, List.append_assoc, readString_escapeChar, ih]
    rfl

theorem readText_escaped (s : String) (cs : List Char) :
    readText (s.toList.flatMap escapeChar ++ '"' :: cs) = (.ok (.ok s), some cs) := by
  rw [readText, readString_escaped]
  simp only [String.ofList_toList]

/-! ### Values -/

inductive Numberless : Json → Prop where
  | null : Numberless .null
  | bool (b : Bool) : Numberless (.bool b)
  | str (s : String) : Numberless (.str s)
  | arr {items : List Json} : (∀ v ∈ items, Numberless v) → Numberless (.arr items)
  | obj {members : List (String × Json)} : (∀ m ∈ members, Numberless m.2) → Numberless (.obj members)

mutual

def Reading.ofJson : Json → Reading
  | .null => .null
  | .bool b => .bool b
  | .num n => .num (.ok n)
  | .str s => .str (.ok s)
  | .arr items => .arr (Reading.ofItems items) .closed
  | .obj members => .obj (Reading.ofMembers members) .closed

def Reading.ofItems : List Json → List Reading
  | [] => []
  | v :: rest => Reading.ofJson v :: Reading.ofItems rest

def Reading.ofMembers : List (String × Json) → List (Except Flaw String × Reading)
  | [] => []
  | (key, v) :: rest => (.ok key, Reading.ofJson v) :: Reading.ofMembers rest

end

theorem dropSpace_cons {c : Char} (h : isSpace c = false) (cs : List Char) :
    dropSpace (c :: cs) = c :: cs := by
  simp [dropSpace, h]

theorem dropSpace_newline (depth : Nat) (cs : List Char) : dropSpace (newline depth ++ cs) = dropSpace cs := by
  have spaces : ∀ n, dropSpace (List.replicate n ' ' ++ cs) = dropSpace cs := by
    intro n
    induction n with
    | zero => rfl
    | succ n ih => exact ih
  exact spaces (2 * depth)

/-- A written value begins with a character that neither separates nor closes. -/
theorem prettyChars_head {v : Json} (h : v.Numberless) (depth : Nat) :
    ∃ c cs, prettyChars depth v = c :: cs ∧ isSpace c = false ∧ c ≠ ']' ∧ c ≠ ',' := by
  cases h with
  | null => exact ⟨'n', _, rfl, by decide⟩
  | bool b => cases b <;> exact ⟨_, _, rfl, by decide⟩
  | str s => exact ⟨'"', _, rfl, by decide⟩
  | @arr items _ => cases items <;> exact ⟨'[', _, rfl, by decide⟩
  | @obj members _ => cases members <;> exact ⟨'{', _, rfl, by decide⟩

theorem readValue_dropSpace (fuel : Nat) {cs ds : List Char} (same : dropSpace cs = dropSpace ds) :
    readValue fuel cs = readValue fuel ds := by
  cases fuel with
  | zero => rw [readValue, readValue]
  | succ fuel => rw [readValue, readValue, same]

/-- The value is read back from the text that it is written as, with enough fuel. -/
def ReadsBack (depth : Nat) (v : Json) : Prop :=
  ∀ fuel cs, 2 * (prettyChars depth v).length ≤ fuel →
    readValue fuel (prettyChars depth v ++ cs) = (.ofJson v, some cs)

theorem readItem_back {depth : Nat} {v : Json} (back : ReadsBack depth v) {fuel : Nat}
    (enough : 2 * (prettyChars depth v).length ≤ fuel) {cs rest : List Char} {items : List Reading}
    {close : Close} (later : readItems fuel false cs = (items, close, some rest)) :
    readItem (fuel + 1) (prettyChars depth v ++ cs) = (.ofJson v :: items, close, some rest) := by
  rw [readItem, back fuel cs enough]
  simp only [later]

theorem readItems_prettyItems {depth : Nat} {items : List Json} (numberless : ∀ v ∈ items, v.Numberless)
    (back : ∀ v ∈ items, ReadsBack depth v) (outer : Nat) (first : Bool) (fuel : Nat) (cs : List Char)
    (enough : 2 * (prettyItems depth first items).length < fuel) :
    readItems fuel first (prettyItems depth first items ++ (newline outer ++ ']' :: cs)) =
      (Reading.ofItems items, .closed, some cs) := by
  -- on the items; `first` varies, because all but the first have a comma before them
  induction items generalizing first fuel with
  | nil =>
    obtain ⟨fuel, rfl⟩ : ∃ n, fuel = n + 1 := ⟨fuel - 1, by omega⟩
    rw [prettyItems, List.nil_append, readItems, dropSpace_newline]
    rfl
  | cons v rest ih =>
    obtain ⟨own, others⟩ := List.forall_mem_cons.mp numberless
    obtain ⟨backOwn, backOthers⟩ := List.forall_mem_cons.mp back
    obtain ⟨c, tail, written, space, bracket, -⟩ := prettyChars_head own depth
    have length : (newline depth).length = 2 * depth + 1 := by simp [newline]
    simp only [prettyItems, List.length_append, length] at enough
    -- the line break alone pays for the two calls that come before the value is read
    obtain ⟨fuel, rfl⟩ : ∃ n, fuel = n + 2 := ⟨fuel - 2, by omega⟩
    have item := readItem_back backOwn (by omega)
      (ih others backOthers false fuel (by omega))
    have entry (after : List Char) :
        dropSpace (newline depth ++ (prettyChars depth v ++ after)) = c :: (tail ++ after) := by
      rw [dropSpace_newline, written]
      exact dropSpace_cons space _
    rw [written, List.cons_append] at item
    cases first with
    | true =>
      simp only [prettyItems, List.append_assoc, if_true, List.nil_append]
      rw [readItems, entry]
      simp only [if_neg bracket, if_true]
      exact item
    | false =>
      simp only [prettyItems, List.append_assoc, Bool.false_eq_true, if_false, List.cons_append,
        List.nil_append]
      rw [readItems, dropSpace_cons (by decide : isSpace ',' = false)]
      simp only [entry, if_neg bracket]
      exact item

theorem readMember_back {depth : Nat} {v : Json} (back : ReadsBack depth v) {fuel : Nat}
    (enough : 2 * (prettyChars depth v).length ≤ fuel) (first : Bool) (key : String)
    {cs rest : List Char} {members : List (Except Flaw String × Reading)} {close : Close}
    (later : readMembers fuel false cs = (members, close, some rest)) :
    readMember (fuel + 1) first (stringChars key ++ ':' :: ' ' :: (prettyChars depth v ++ cs)) =
      ((.ok key, .ofJson v) :: members, close, some rest) := by
  have value : readValue fuel (' ' :: (prettyChars depth v ++ cs)) = (.ofJson v, some cs) := by
    rw [← back fuel cs enough]
    exact readValue_dropSpace fuel rfl
  have quoted (after : List Char) :
      stringChars key ++ after = '"' :: (key.toList.flatMap escapeChar ++ '"' :: after) := by
    simp [stringChars]
  rw [quoted, readMember]
  simp only [if_true, readText_escaped, dropSpace_cons (by decide : isSpace ':' = false),
    value, later]

theorem readMembers_prettyMembers {depth : Nat} {members : List (String × Json)}
    (back : ∀ m ∈ members, ReadsBack depth m.2) (outer : Nat) (first : Bool) (fuel : Nat) (cs : List Char)
    (enough : 2 * (prettyMembers depth first members).length < fuel) :
    readMembers fuel first (prettyMembers depth first members ++ (newline outer ++ '}' :: cs)) =
      (Reading.ofMembers members, .closed, some cs) := by
  induction members generalizing first fuel with
  | nil =>
    obtain ⟨fuel, rfl⟩ : ∃ n, fuel = n + 1 := ⟨fuel - 1, by omega⟩
    rw [prettyMembers, List.nil_append, readMembers, dropSpace_newline]
    rfl
  | cons m rest ih =>
    obtain ⟨key, v⟩ := m
    obtain ⟨own, others⟩ : ReadsBack depth v ∧ ∀ m ∈ rest, ReadsBack depth m.2 :=
      List.forall_mem_cons.mp back
    have length : (newline depth).length = 2 * depth + 1 := by simp [newline]
    simp only [prettyMembers, List.length_append, List.length_cons, length] at enough
    obtain ⟨fuel, rfl⟩ : ∃ n, fuel = n + 2 := ⟨fuel - 2, by omega⟩
    have member := readMember_back own (by omega) first key
      (ih others false fuel (by omega))
    have entry (after : List Char) :
        dropSpace (newline depth ++ (stringChars key ++ after)) = stringChars key ++ after := by
      rw [dropSpace_newline]
      rfl
    cases first with
    | true =>
      simp only [prettyMembers, List.append_assoc, if_true, List.nil_append, List.cons_append]
      rw [readMembers, entry]
      exact member
    | false =>
      simp only [prettyMembers, List.append_assoc, Bool.false_eq_true, if_false, List.cons_append,
        List.nil_append]
      rw [readMembers, dropSpace_cons (by decide : isSpace ',' = false)]
      simp only [entry]
      exact member

theorem readsBack_arr {depth : Nat} {items : List Json} (numberless : ∀ v ∈ items, v.Numberless)
    (back : ∀ v ∈ items, ReadsBack (depth + 1) v) : ReadsBack depth (.arr items) := by
  intro fuel cs enough
  cases items with
  | nil =>
    obtain ⟨fuel, rfl⟩ : ∃ n, fuel = n + 2 := ⟨fuel - 2, by simp [prettyChars] at enough; omega⟩
    rw [prettyChars, readValue]
    rfl
  | cons v rest =>
    simp only [prettyChars, List.length_append, List.length_cons] at enough
    obtain ⟨fuel, rfl⟩ : ∃ n, fuel = n + 1 := ⟨fuel - 1, by omega⟩
    have items := readItems_prettyItems numberless back depth true fuel cs (by omega)
    have written : prettyChars depth (.arr (v :: rest)) ++ cs =
        '[' :: (prettyItems (depth + 1) true (v :: rest) ++ (newline depth ++ ']' :: cs)) := by
      simp [prettyChars]
    rw [written, readValue, dropSpace_cons (by decide : isSpace '[' = false)]
    simp only [Char.reduceEq, if_false, if_true, items, Reading.ofJson]

theorem readsBack_obj {depth : Nat} {members : List (String × Json)}
    (back : ∀ m ∈ members, ReadsBack (depth + 1) m.2) : ReadsBack depth (.obj members) := by
  intro fuel cs enough
  cases members with
  | nil =>
    obtain ⟨fuel, rfl⟩ : ∃ n, fuel = n + 2 := ⟨fuel - 2, by simp [prettyChars] at enough; omega⟩
    rw [prettyChars, readValue]
    rfl
  | cons m rest =>
    simp only [prettyChars, List.length_append, List.length_cons] at enough
    obtain ⟨fuel, rfl⟩ : ∃ n, fuel = n + 1 := ⟨fuel - 1, by omega⟩
    have members := readMembers_prettyMembers back depth true fuel cs (by omega)
    have written : prettyChars depth (.obj (m :: rest)) ++ cs =
        '{' :: (prettyMembers (depth + 1) true (m :: rest) ++ (newline depth ++ '}' :: cs)) := by
      simp [prettyChars]
    have quote : ∃ tail, dropSpace (prettyMembers (depth + 1) true (m :: rest) ++
        (newline depth ++ '}' :: cs)) = '"' :: tail := by
      simp only [prettyMembers, List.append_assoc, if_true, List.nil_append]
      rw [dropSpace_newline]
      exact ⟨_, rfl⟩
    obtain ⟨tail, quote⟩ := quote
    rw [written, readValue, dropSpace_cons (by decide : isSpace '{' = false)]
    -- an object is read only where a quote or a brace comes next
    simp only [Char.reduceEq, if_false, if_true, quote, members, Reading.ofJson]
    rfl

/-- A written value is read back, wherever it stands. -/
theorem readsBack {v : Json} (h : v.Numberless) (depth : Nat) : ReadsBack depth v := by
  -- on the value; the depth varies, because what a container holds stands one deeper
  induction h generalizing depth with
  | null =>
    intro fuel cs enough
    obtain ⟨fuel, rfl⟩ : ∃ n, fuel = n + 1 := ⟨fuel - 1, by simp [prettyChars] at enough; omega⟩
    rw [readValue]
    rfl
  | bool b =>
    intro fuel cs enough
    have filled : 0 < (prettyChars depth (.bool b)).length := by cases b <;> exact Nat.zero_lt_succ _
    obtain ⟨fuel, rfl⟩ : ∃ n, fuel = n + 1 := ⟨fuel - 1, by omega⟩
    rw [readValue]
    cases b <;> rfl
  | str s =>
    intro fuel cs enough
    obtain ⟨fuel, rfl⟩ : ∃ n, fuel = n + 1 :=
      ⟨fuel - 1, by simp [prettyChars, stringChars] at enough; omega⟩
    have written : prettyChars depth (.str s) ++ cs =
        '"' :: (s.toList.flatMap escapeChar ++ '"' :: cs) := by
      simp [prettyChars, stringChars]
    rw [written, readValue, dropSpace_cons (by decide : isSpace '"' = false)]
    simp only [Char.reduceEq, if_false, if_true, readStringValue, readText_escaped, Reading.ofJson]
  | arr numberless ih => exact readsBack_arr numberless fun v member => ih v member (depth + 1)
  | obj _ ih => exact readsBack_obj fun m member => ih m member (depth + 1)

/-- A written value is all that its text holds. -/
theorem ofText_pretty {v : Json} (h : v.Numberless) :
    Reading.ofText v.pretty.toList = (.ofJson v, true) := by
  -- a text of three units of fuel for each character has more than the two that a value takes
  have back := readsBack h 0 (3 * (prettyChars 0 v).length + 3) [] (by omega)
  rw [List.append_nil] at back
  rw [Reading.ofText, pretty, String.toList_ofList, back]
  rfl

end Accessors.Json
