import Mathlib.Data.List.Infix
import Accessors.Model.Edit

/-!
# What fingerprints tell apart

The text behind a fingerprint joins its parts with separators, which the parts may hold as well. So
different commands can have one text (`digestText_collides`), but where no part holds the separator
behind it, the text tells all its parts (`digestText_determines`).
-/

namespace Accessors

/-! ### Separators -/

section Separators

variable {α : Type} {c : α} {cs x y r s : List α}

/-- A separator whose first character it has only once does not overlap with itself. -/
theorem separator_shift (once : c ∉ cs) {d : List α} (h : c :: cs ++ r = d ++ (c :: cs ++ s)) :
    d = [] ∨ c :: cs <:+: d := by
  cases d with
  | nil => exact Or.inl rfl
  | cons a d =>
    right
    rw [List.cons_append, List.cons_append, List.cons.injEq] at h
    obtain ⟨rfl, h⟩ := h
    rcases List.append_eq_append_iff.mp h with ⟨e, rfl, -⟩ | ⟨e, same, rest⟩
    · exact ⟨[], e, rfl⟩
    · -- `d` ends inside the separator, which would then begin again there
      cases e with
      | nil => simp [same]
      | cons b e =>
        rw [List.cons_append, List.cons_append, List.cons.injEq] at rest
        obtain ⟨rfl, -⟩ := rest
        exact (once (by simp [same])).elim

theorem append_separator (once : c ∉ cs) (clean : ¬c :: cs <:+: x) (clean' : ¬c :: cs <:+: y)
    (h : x ++ (c :: cs ++ r) = y ++ (c :: cs ++ s)) : x = y ∧ r = s := by
  rcases List.append_eq_append_iff.mp h with ⟨d, rfl, rest⟩ | ⟨d, rfl, rest⟩
  · rcases separator_shift once rest with rfl | inside
    · exact ⟨(List.append_nil x).symm, List.append_cancel_left rest⟩
    · exact (clean' (inside.trans (List.suffix_append x d).isInfix)).elim
  · rcases separator_shift once rest with rfl | inside
    · exact ⟨List.append_nil y, (List.append_cancel_left rest).symm⟩
    · exact (clean (inside.trans (List.suffix_append y d).isInfix)).elim

/-- A text that is cut at every separator gives its parts back. -/
theorem parts_separated (once : c ∉ cs) {xs ys : List (List α)}
    (clean : ∀ part ∈ x :: xs, ¬c :: cs <:+: part) (clean' : ∀ part ∈ y :: ys, ¬c :: cs <:+: part)
    (h : x ++ xs.flatMap (c :: cs ++ ·) = y ++ ys.flatMap (c :: cs ++ ·)) : x = y ∧ xs = ys := by
  have here (z w : List α) : c :: cs <:+: z ++ (c :: cs ++ w) := ⟨z, w, by simp⟩
  induction xs generalizing x y ys with
  | nil =>
    cases ys with
    | nil => simpa using h
    | cons part ys =>
      rw [List.flatMap_nil, List.append_nil, List.flatMap_cons, List.append_assoc] at h
      exact (clean x List.mem_cons_self (h ▸ here y _)).elim
  | cons part xs ih =>
    rw [List.flatMap_cons, List.append_assoc] at h
    cases ys with
    | nil =>
      rw [List.flatMap_nil, List.append_nil] at h
      exact (clean' y List.mem_cons_self (h ▸ here x _)).elim
    | cons part' ys =>
      rw [List.flatMap_cons, List.append_assoc] at h
      obtain ⟨first, others⟩ := List.forall_mem_cons.mp clean
      obtain ⟨first', others'⟩ := List.forall_mem_cons.mp clean'
      obtain ⟨rfl, rest⟩ := append_separator once first first' h
      obtain ⟨rfl, rfl⟩ := ih others others' rest
      exact ⟨rfl, rfl⟩

end Separators

/-! ### Insertions -/

def Within (s t : String) : Prop := s.toList <:+: t.toList

instance (s t : String) : Decidable (Within s t) := inferInstanceAs (Decidable (_ <:+: _))

namespace FieldInsertion

def shown (i : FieldInsertion) : Id × OwnerField × Id × String :=
  (i.ownerId, i.field, i.element.id, i.element.signature)

/-- No part holds the separator behind it. -/
structure Legible (i : FieldInsertion) : Prop where
  owner : ¬Within ".operations:" i.ownerId
  /-- A signature begins with the symbol of its visibility. -/
  element : ∀ v : Visibility, ¬Within (":" ++ v.symbol) i.element.id
  line : ¬Within "\ninsert:" i.line

instance (i : FieldInsertion) : Decidable i.Legible :=
  decidable_of_iff
    (¬Within ".operations:" i.ownerId ∧
      (∀ v ∈ [.public, .protected, .private, .package], ¬Within (":" ++ Visibility.symbol v) i.element.id) ∧
      ¬Within "\ninsert:" i.line)
    ⟨fun ⟨owner, element, line⟩ => ⟨owner, fun v => element v (by cases v <;> simp), line⟩,
      fun ⟨owner, element, line⟩ => ⟨owner, fun v _ => element v, line⟩⟩

def body (i : FieldInsertion) : List Char :=
  i.ownerId.toList ++ (".operations:".toList ++ (i.element.id.toList ++ ':' :: i.element.signature.toList))

theorem line_toList (i : FieldInsertion) : i.line.toList = "insert:".toList ++ i.body ++ ['\n'] := by
  have joined : i.line = "insert:" ++ i.ownerId ++ "." ++ i.field.name ++ ":" ++ i.element.id ++ ":" ++
      i.element.signature ++ "\n" := rfl
  have dotted : ".operations:".toList = ".".toList ++ (i.field.name.toList ++ ":".toList) := by
    cases i.field
    rfl
  have colon : ":".toList = [':'] := rfl
  have newline : "\n".toList = ['\n'] := rfl
  simp only [joined, body, dotted, colon, newline, String.toList_append, List.append_assoc, List.cons_append,
    List.nil_append]

theorem symbol_char (v : Visibility) : ∃ c, v.symbol.toList = [c] ∧ c ≠ ':' := by
  cases v <;> exact ⟨_, rfl, by decide⟩

theorem signature_symbol (op : Operation) :
    ∃ rest, op.signature.toList = op.visibility.symbol.toList ++ rest := by
  simp only [Operation.signature, String.toList_append, List.append_assoc]
  exact ⟨_, rfl⟩

theorem signature_shift {d s t : List Char} {v : Visibility} (begins : ∃ rest, s = v.symbol.toList ++ rest)
    (h : ':' :: s = d ++ ':' :: t) : d = [] ∨ (":" ++ v.symbol).toList <:+: d := by
  obtain ⟨rest, rfl⟩ := begins
  obtain ⟨c, symbol, different⟩ := symbol_char v
  rw [symbol] at h
  rw [String.toList_append, symbol]
  cases d with
  | nil => exact Or.inl rfl
  | cons a d =>
    right
    cases d with
    | nil =>
      simp at h
      exact (different h.2.1).elim
    | cons b d =>
      simp at h
      obtain ⟨rfl, rfl, -⟩ := h
      exact ⟨[], d, rfl⟩

theorem append_signature {x y : List Char} {op op' : Operation}
    (clean : ∀ v : Visibility, ¬(":" ++ v.symbol).toList <:+: x)
    (clean' : ∀ v : Visibility, ¬(":" ++ v.symbol).toList <:+: y)
    (h : x ++ ':' :: op.signature.toList = y ++ ':' :: op'.signature.toList) :
    x = y ∧ op.signature.toList = op'.signature.toList := by
  rcases List.append_eq_append_iff.mp h with ⟨d, rfl, rest⟩ | ⟨d, rfl, rest⟩
  · rcases signature_shift (signature_symbol op) rest with rfl | inside
    · simpa using rest
    · exact (clean' _ (inside.trans (List.suffix_append x d).isInfix)).elim
  · rcases signature_shift (signature_symbol op') rest with rfl | inside
    · simpa using rest.symm
    · exact (clean _ (inside.trans (List.suffix_append y d).isInfix)).elim

theorem body_shown {i j : FieldInsertion} (legible : i.Legible) (legible' : j.Legible)
    (h : i.body = j.body) : i.shown = j.shown := by
  obtain ⟨owner, rest⟩ := append_separator (c := '.') (by decide) legible.owner legible'.owner h
  obtain ⟨element, signature⟩ := append_signature legible.element legible'.element rest
  have field : i.field = j.field := by
    cases i.field
    cases j.field
    rfl
  simp only [shown, field, String.toList_inj.mp owner, String.toList_inj.mp element,
    String.toList_inj.mp signature]

end FieldInsertion

namespace EditCommand

def separator : List Char := "\ninsert:".toList

theorem lines_toList (is : List FieldInsertion) :
    '\n' :: (String.join (is.map FieldInsertion.line)).toList =
      (is.map FieldInsertion.body).flatMap (separator ++ ·) ++ ['\n'] := by
  induction is with
  | nil => rfl
  | cons i is ih =>
    have start : separator = '\n' :: "insert:".toList := rfl
    have join : (String.join ((i :: is).map FieldInsertion.line)).toList =
        "insert:".toList ++ i.body ++ '\n' :: (String.join (is.map FieldInsertion.line)).toList := by
      rw [List.map_cons, String.join_cons, String.toList_append, FieldInsertion.line_toList,
        List.append_assoc, List.singleton_append]
    -- each line gives its end to the one behind it
    rw [join, ih, List.map_cons, List.flatMap_cons]
    simp only [start, List.cons_append, List.append_assoc]

theorem digestText_toList (label : String) (is : List FieldInsertion) :
    (digestText label is).toList =
      "label:".toList ++ (label.toList ++ (is.map FieldInsertion.body).flatMap (separator ++ ·)) ++ ['\n'] := by
  have newline : "\n".toList = ['\n'] := rfl
  simp only [digestText, String.toList_append, List.append_assoc, newline, List.singleton_append,
    lines_toList]

/-- Label and insertions, none of which reads as the beginning of another insertion. -/
structure Legible (label : String) (is : List FieldInsertion) : Prop where
  label : ¬Within "\ninsert:" label
  insertions : ∀ i ∈ is, i.Legible

instance (label : String) (is : List FieldInsertion) : Decidable (Legible label is) :=
  decidable_of_iff (¬Within "\ninsert:" label ∧ ∀ i ∈ is, i.Legible)
    ⟨fun ⟨label, insertions⟩ => ⟨label, insertions⟩, fun ⟨label, insertions⟩ => ⟨label, insertions⟩⟩

variable {label label' : String} {is is' : List FieldInsertion}

theorem legible_parts (h : Legible label is) :
    ∀ part ∈ label.toList :: is.map FieldInsertion.body, ¬separator <:+: part := by
  rw [List.forall_mem_cons, List.forall_mem_map]
  refine ⟨h.label, ?_⟩
  intro i member inside
  apply (h.insertions i member).line
  rw [Within, FieldInsertion.line_toList, List.append_assoc]
  exact inside.trans ⟨_, _, List.append_assoc ..⟩

theorem map_shown (legible : ∀ i ∈ is, i.Legible) (legible' : ∀ i ∈ is', i.Legible)
    (h : is.map FieldInsertion.body = is'.map FieldInsertion.body) :
    is.map FieldInsertion.shown = is'.map FieldInsertion.shown := by
  induction is generalizing is' with
  | nil => cases is' <;> simp_all
  | cons i is ih =>
    cases is' with
    | nil => cases h
    | cons j is' =>
      simp only [List.map_cons, List.cons.injEq] at h ⊢
      obtain ⟨first, others⟩ := List.forall_mem_cons.mp legible
      obtain ⟨first', others'⟩ := List.forall_mem_cons.mp legible'
      exact ⟨FieldInsertion.body_shown first first' h.1, ih others others' h.2⟩

theorem map_line (h : is.map FieldInsertion.shown = is'.map FieldInsertion.shown) :
    is.map FieldInsertion.line = is'.map FieldInsertion.line := by
  let write : Id × OwnerField × Id × String → String := fun (owner, field, element, signature) =>
    "insert:" ++ owner ++ "." ++ field.name ++ ":" ++ element ++ ":" ++ signature ++ "\n"
  have written : FieldInsertion.line = write ∘ FieldInsertion.shown := rfl
  rw [written, ← List.map_map, h, List.map_map]

/-- The bytes behind a fingerprint tell the label and what they show of each insertion. -/
theorem digestText_determines (legible : Legible label is) (legible' : Legible label' is') :
    (digestText label is).toUTF8 = (digestText label' is').toUTF8 ↔
      label = label' ∧ is.map FieldInsertion.shown = is'.map FieldInsertion.shown := by
  simp only [String.toUTF8_eq_toByteArray, String.toByteArray_inj]
  constructor
  · intro same
    rw [← String.toList_inj, digestText_toList, digestText_toList] at same
    have joined := List.append_cancel_left (List.append_cancel_right same)
    obtain ⟨first, bodies⟩ :=
      parts_separated (by decide) (legible_parts legible) (legible_parts legible') joined
    exact ⟨String.toList_inj.mp first, map_shown legible.insertions legible'.insertions bodies⟩
  · rintro ⟨rfl, shown⟩
    rw [digestText, digestText, map_line shown]

/-- Identifiers with colons and dots, and a label and a name with line breaks. -/
theorem digestText_determines_sample :
    let insert (ownerId id name : String) : FieldInsertion :=
      ⟨ownerId, .operations, ⟨id, name, .public, "", []⟩⟩
    let is := [insert "shop.order" "urn:save:1" "save:\nall", insert "o" "b" "load"]
    let is' := [insert "shop.order" "urn:save" "1:save:\nall", insert "o" "b" "load"]
    Legible "edit\nall" is ∧ Legible "edit\nall" is' ∧
      ((digestText "edit\nall" is).toUTF8 = (digestText "edit\nall" is').toUTF8 ↔
        "edit\nall" = "edit\nall" ∧ is.map FieldInsertion.shown = is'.map FieldInsertion.shown) ∧
      (digestText "edit\nall" is).toUTF8 ≠ (digestText "edit\nall" is').toUTF8 := by
  intro insert is is'
  have legible : Legible "edit\nall" is := by decide +kernel
  have legible' : Legible "edit\nall" is' := by decide +kernel
  have determined := digestText_determines legible legible'
  have different : is.map FieldInsertion.shown ≠ is'.map FieldInsertion.shown := by decide +kernel
  exact ⟨legible, legible', determined, fun same => different (determined.mp same).2⟩

/-- Commands with one text: a label or a name that goes on with another insertion, an owner with a
field behind it, and an identifier with a signature behind it. -/
theorem digestText_collides :
    let insert (ownerId id name : String) : FieldInsertion :=
      ⟨ownerId, .operations, ⟨id, name, .public, "", []⟩⟩
    let Collide (label : String) (is : List FieldInsertion) (label' : String) (is' : List FieldInsertion) :=
      (digestText label is).toUTF8 = (digestText label' is').toUTF8 ∧
        ¬(label = label' ∧ is.map FieldInsertion.shown = is'.map FieldInsertion.shown)
    Collide "edit\ninsert:o.operations:a:+save()" [] "edit" [insert "o" "a" "save"] ∧
    Collide "edit" [insert "o" "a" "save()\ninsert:o.operations:b:+load"]
      "edit" [insert "o" "a" "save", insert "o" "b" "load"] ∧
    Collide "edit" [insert "o" "a" "save.operations:b:+load"]
      "edit" [insert "o.operations:a:+save" "b" "load"] ∧
    Collide "edit" [insert "o" "a" "b:+save"] "edit" [insert "o" "a:+b" "save"] := by
  refine ⟨⟨congrArg String.toUTF8 ?_, ?_⟩, ⟨congrArg String.toUTF8 ?_, ?_⟩,
    ⟨congrArg String.toUTF8 ?_, ?_⟩, ⟨congrArg String.toUTF8 ?_, ?_⟩⟩ <;> decide +kernel

end EditCommand

end Accessors
