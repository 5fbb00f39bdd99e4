import Mathlib.Logic.Function.Basic
import Accessors.Proofs.Settings.Layers

/-!
# Single variables

A variable that sets a path, or the selection, with no other source of settings. Text that reads
neither as a boolean nor as a number is taken as it is. All other text is written out again where a
path is asked for, and refused where a selection is (`load_textual`).
-/

namespace Accessors.Settings

/-! ### Guessed values -/

structure Plain (text : String) : Prop where
  bool : bool? text = none
  int : Number.int64? text = none
  float : Number.float? text = none

/-- How the text of a variable is written out again: booleans in lower case, numbers in digits. -/
def shown (text : String) : String :=
  match bool? text, Number.int64? text, Number.float? text with
  | some _, _, _ => Text.lower text
  | _, some n, _ => .ofList (Json.intChars n)
  | _, _, some x => Number.plain x
  | _, _, _ => text

variable {text : String} {key : String}

theorem Plain.shown (plain : Plain text) : shown text = text := by
  simp only [Settings.shown, plain.bool, plain.int, plain.float]

theorem Plain.variableValue (plain : Plain text) (other : key ≠ "model.selection") :
    variableValue key text = .str text := by
  simp only [Settings.variableValue, plain.bool, plain.int, plain.float, if_neg other]

theorem bool?_eq_some {b : Bool} (guessed : bool? text = some b) :
    (if b then "true" else "false") = Text.lower text := by
  simp only [bool?] at guessed
  split at guessed
  · rename_i word
    cases guessed
    exact word.symm
  · split at guessed
    · rename_i word
      cases guessed
      exact word.symm
    · cases guessed

theorem text?_variableValue (other : key ≠ "model.selection") (text : String) :
    (variableValue key text).text? = some (shown text) := by
  unfold variableValue shown
  -- in the order of the guesses, so that each case knows those before it failed
  cases boolean : bool? text with
  | some b => exact congrArg some (bool?_eq_some boolean)
  | none =>
    cases Number.int64? text with
    | some n => rfl
    | none =>
      cases Number.float? text with
      | some x => rfl
      | none => exact congrArg Value.text? (if_neg other)

theorem optionalText?_variableValue (other : key ≠ "model.selection") (text : String) :
    (variableValue key text).optionalText? = some (some (shown text)) := by
  have text? := text?_variableValue other text
  unfold Value.optionalText?
  split
  · rename_i empty
    rw [empty] at text?
    cases text?
  · rw [text?]
    rfl

/-! ### Lists -/

structure Pieces (text : String) (parts : List String) : Prop where
  nonempty : parts ≠ []
  apart : ∀ p ∈ parts, ',' ∉ p.toList
  joined : String.intercalate "," parts = text

theorem splitCommas_ne_nil (cs : List Char) : splitCommas cs ≠ [] := by
  fun_cases splitCommas cs <;> simp_all

theorem splitCommas_apart {cs : List Char} (apart : ',' ∉ cs) : splitCommas cs = [cs] := by
  induction cs with
  | nil => rfl
  | cons c cs ih =>
    obtain ⟨here, apart⟩ := not_or.mp (mt List.mem_cons.mpr apart)
    simp only [splitCommas, ih apart, if_neg (Ne.symm here)]

theorem splitCommas_append {cs : List Char} (apart : ',' ∉ cs) (rest : List Char) :
    splitCommas (cs ++ ',' :: rest) = cs :: splitCommas rest := by
  induction cs with
  | nil =>
    obtain ⟨part, parts, split⟩ := List.exists_cons_of_ne_nil (splitCommas_ne_nil rest)
    simp only [List.nil_append, splitCommas, split, if_pos]
  | cons c cs ih =>
    obtain ⟨here, apart⟩ := not_or.mp (mt List.mem_cons.mpr apart)
    simp only [List.cons_append, splitCommas, ih apart, if_neg (Ne.symm here)]

theorem splitCommas_intercalate {parts : List (List Char)} (nonempty : parts ≠ [])
    (apart : ∀ p ∈ parts, ',' ∉ p) : splitCommas ([','].intercalate parts) = parts := by
  induction parts with
  | nil => exact absurd rfl nonempty
  | cons part parts ih =>
    obtain ⟨here, apart⟩ := List.forall_mem_cons.mp apart
    cases parts with
    | nil => rw [List.intercalate_singleton, splitCommas_apart here]
    | cons next parts =>
      rw [List.intercalate_cons_cons, List.append_assoc, List.singleton_append,
        splitCommas_append here, ih (List.cons_ne_nil _ _) apart]

theorem intercalate_splitCommas (cs : List Char) : [','].intercalate (splitCommas cs) = cs := by
  induction cs with
  | nil => rfl
  | cons c cs ih =>
    obtain ⟨part, parts, split⟩ := List.exists_cons_of_ne_nil (splitCommas_ne_nil cs)
    rw [split] at ih
    simp only [splitCommas, split]
    by_cases comma : c = ','
    · rw [if_pos comma, List.intercalate_cons_cons, ih, comma]
      rfl
    · rw [if_neg comma]
      -- the separator stands only where another part follows
      cases parts with
      | nil => simpa using ih
      | cons next parts =>
        rw [List.intercalate_cons_cons] at ih ⊢
        rw [← ih]
        rfl

theorem splitCommas_no_comma (cs : List Char) : ∀ p ∈ splitCommas cs, ',' ∉ p := by
  induction cs with
  | nil => simp [splitCommas]
  | cons c cs ih =>
    obtain ⟨part, parts, split⟩ := List.exists_cons_of_ne_nil (splitCommas_ne_nil cs)
    rw [split, List.forall_mem_cons] at ih
    simp only [splitCommas, split]
    by_cases comma : c = ','
    · rw [if_pos comma]
      simpa using ih
    · rw [if_neg comma, List.forall_mem_cons]
      exact ⟨mt List.mem_cons.mp (not_or.mpr ⟨Ne.symm comma, ih.1⟩), ih.2⟩

theorem pieces_iff {parts : List String} :
    Pieces text parts ↔ (splitCommas text.toList).map String.ofList = parts := by
  constructor
  · rintro ⟨nonempty, apart, rfl⟩
    have split : splitCommas ([','].intercalate (parts.map String.toList)) =
        parts.map String.toList :=
      splitCommas_intercalate (by simpa using nonempty) (by simpa using apart)
    have comma : ",".toList = [','] := rfl
    rw [String.toList_intercalate, comma, split]
    simp
  · rintro rfl
    refine ⟨by simp [splitCommas_ne_nil], ?_, ?_⟩
    · simpa using splitCommas_no_comma text.toList
    · rw [← String.toList_inj, String.toList_intercalate, List.map_map]
      have same : String.toList ∘ String.ofList = id := funext fun cs => String.toList_ofList
      rw [same, List.map_id]
      exact intercalate_splitCommas text.toList

theorem texts?_pieces {parts : List String} (plain : Plain text) (pieces : Pieces text parts) :
    (variableValue "model.selection" text).texts? = some parts := by
  simp only [variableValue, plain.bool, plain.int, plain.float, if_pos]
  rw [← Value.texts?_strs, ← pieces_iff.mp pieces, List.map_map]
  rfl

theorem texts?_guessed (guessed : ¬ Plain text) (key : String) :
    (variableValue key text).texts? = none := by
  unfold variableValue
  cases boolean : bool? text with
  | some b => rfl
  | none =>
    cases int : Number.int64? text with
    | some n => rfl
    | none =>
      cases float : Number.float? text with
      | some x => rfl
      | none => exact absurd ⟨boolean, int, float⟩ guessed

/-! ### Loading -/

variable {d : Directory}

theorem separate_single (s : Setting) (text : String) : Separate [(s.variableName, text)] :=
  ⟨List.pairwise_singleton _ _, List.forall_mem_singleton.mpr (.inr ⟨s, rfl⟩)⟩

theorem uppermost?_single (s : Setting) (text : String) :
    uppermost? [] [(s.variableName, text)] s = some (variableValue s.key text) := by
  simp only [uppermost?, ofVariable?, List.lookup_cons_self, Option.map_some, Option.some_or]

def only (s : Setting) (x : s.Of) : Settings := Setting.assemble (Function.update (fun u => u.get {}) s x)

theorem load_single (absent : NoFile d) (s : Setting) {x : s.Of}
    (reads : s.read? (variableValue s.key text) = some x) :
    load Directory.storage [(s.variableName, text)] d = (.ok (only s x), d) := by
  rw [load_layer (fileLayer_noFile absent)]
  refine congrArg (·, d) ((ofLayers_grouped tabled_nil (separate_single s text)).1 _ fun u => ?_)
  by_cases same : u = s
  · subst same
    rw [uppermost?_single, Function.update_self]
    exact reads
  · have other : u.variableName ≠ s.variableName :=
      fun named => same (Setting.variableName_injective named)
    rw [Function.update_of_ne same]
    refine uppermost?_defaults ?_ rfl
    rw [ofVariable?, List.lookup_cons, beq_eq_false_iff_ne.mpr other]
    rfl

theorem load_single_invalid (absent : NoFile d) (s : Setting)
    (unread : s.read? (variableValue s.key text) = none) :
    load Directory.storage [(s.variableName, text)] d = (.error .invalid, d) := by
  rw [load_layer (fileLayer_noFile absent)]
  refine congrArg (·, d) ((ofLayers_grouped tabled_nil (separate_single s text)).2 s ?_)
  rw [uppermost?_single]
  exact unread

/-- With no file of settings and one variable, a path is what the variable's text is shown as, which
is the text itself where it is plain; a selection is the pieces of a plain text, and there are no
settings where the text is not plain. -/
theorem load_textual (absent : NoFile d) (text : String) :
    load Directory.storage [("GETSET_MODEL__PATH", text)] d =
        (.ok { model := { path := some (shown text) } }, d) ∧
      load Directory.storage [("GETSET_MODEL__OUTPUT_PATH", text)] d =
        (.ok { model := { outputPath := some (shown text) } }, d) ∧
      (Plain text → shown text = text) ∧
      ∃ parts, Pieces text parts ∧
        (Plain text → load Directory.storage [("GETSET_MODEL__SELECTION", text)] d =
          (.ok { model := { selection := parts } }, d)) ∧
        (¬ Plain text → load Directory.storage [("GETSET_MODEL__SELECTION", text)] d =
          (.error .invalid, d)) := by
  refine ⟨?_, ?_, Plain.shown, _, pieces_iff.mpr rfl, fun plain => ?_, fun guessed => ?_⟩
  · exact load_single absent .path (optionalText?_variableValue (by decide) text)
  · exact load_single absent .outputPath (optionalText?_variableValue (by decide) text)
  · exact load_single absent .selection (texts?_pieces plain (pieces_iff.mpr rfl))
  · exact load_single_invalid absent .selection (texts?_guessed guessed _)

theorem noFile_empty : NoFile {} := ⟨⟨_, rfl⟩, ⟨_, rfl⟩, ⟨_, rfl⟩⟩

theorem load_textual_sample :
    NoFile {} ∧ Plain "Order,Order.line" ∧
      load Directory.storage [("GETSET_MODEL__PATH", "Order,Order.line")] {} =
        (.ok { model := { path := some "Order,Order.line" } }, {}) ∧
      load Directory.storage [("GETSET_MODEL__SELECTION", "Order,Order.line")] {} =
        (.ok { model := { selection := ["Order", "Order.line"] } }, {}) := by
  have plain : Plain "Order,Order.line" :=
    ⟨by decide +kernel, by decide +kernel, Option.isNone_iff_eq_none.mp (by decide +kernel)⟩
  obtain ⟨path, -, same, parts, pieces, selection, -⟩ := load_textual noFile_empty "Order,Order.line"
  obtain rfl : ["Order", "Order.line"] = parts := pieces_iff.mp pieces
  exact ⟨noFile_empty, plain, same plain ▸ path, selection plain⟩

/-- Numerals and words for booleans are not taken as they are: a path is another one, and a selection
of one name is refused. -/
theorem guessed_text_differs :
    load Directory.storage [("GETSET_MODEL__PATH", "007")] {} =
        (.ok { model := { path := some "7" } }, {}) ∧
      load Directory.storage [("GETSET_MODEL__OUTPUT_PATH", "TRUE")] {} =
        (.ok { model := { outputPath := some "true" } }, {}) ∧
      Pieces "42" ["42"] ∧
      load Directory.storage [("GETSET_MODEL__SELECTION", "42")] {} = (.error .invalid, {}) := by
  refine ⟨?_, ?_, pieces_iff.mpr rfl, ?_⟩
  · exact load_single noFile_empty .path rfl
  · exact load_single noFile_empty .outputPath rfl
  · exact load_single_invalid noFile_empty .selection rfl

end Accessors.Settings
