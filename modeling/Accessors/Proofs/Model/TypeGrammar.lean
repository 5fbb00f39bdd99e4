import Accessors.Proofs.Model.TypeDescriptor

/-!
# The written forms of types

`Written` is the grammar of types, without a decoder in it. The decoder accepts just the values that
it derives, each as the type that it says, and a type that was read is written as it was meant, in
lower case, too (`ofJson_grammar`).
-/

namespace Accessors.TypeDescriptor

open Json (Reading)

/-! ### Members -/

def Lacks (members : List (String × Json)) (key : String) : Prop := ∀ m ∈ members, m.1 ≠ key

def Once (members : List (String × Json)) (key : String) (v : Json) : Prop :=
  ∃ before after, members = before ++ (key, v) :: after ∧ Lacks before key ∧ Lacks after key

/-- A link names an entity, and may give it a name. -/
def Links (members : List (String × Json)) (id : Id) (name : String) : Prop :=
  Once members "$ref" (.str id) ∧
    (Once members "name" (.str name) ∨ Lacks members "name" ∧ name = "")

inductive Written : Json → TypeDescriptor → Prop where
  | null : Written .null .absent
  | empty : Written (.str "") .absent
  | optional (name : String) : Written (.str ("?" ++ name)) (.optional name)
  | primitive {name : String} : name ≠ "" → (∀ rest, name ≠ "?" ++ rest) →
      Written (.str name) (.primitive name)
  | link {members : List (String × Json)} {id : Id} {name : String} : Links members id name →
      Written (.obj members) (.entityRef id name)
  | void {members : List (String × Json)} : (∀ id name, ¬Links members id name) →
      Once members "marker" (.str "void") → Written (.obj members) .void

variable {members : List (String × Json)} {key : String}

theorem any_key : members.any (·.1 == key) = true ↔ ¬Lacks members key := by
  simp [Lacks]

theorem filter_once {m : String × Json} :
    members.filter (·.1 == key) = [m] ↔ m.1 = key ∧ Once members key m.2 := by
  obtain ⟨k, v⟩ := m
  rw [List.filter_eq_cons_iff]
  constructor
  · rintro ⟨before, after, split, lacks, same, rest⟩
    obtain rfl : k = key := by simpa using same
    refine ⟨rfl, before, after, split, ?_, ?_⟩
    · intro m member
      simpa using lacks m member
    · intro m member
      simpa using List.filter_eq_nil_iff.mp rest m member
  · rintro ⟨rfl, before, after, split, lacks, rest⟩
    refine ⟨before, after, split, ?_, beq_self_eq_true k, ?_⟩
    · intro m member
      simpa using lacks m member
    · rw [List.filter_eq_nil_iff]
      intro m member
      simpa using rest m member

theorem single?_once {s : String} : single? members key = some s ↔ Once members key (.str s) := by
  have filtered : members.filter (·.1 == key) = [(key, .str s)] ↔ Once members key (.str s) :=
    filter_once.trans (and_iff_right rfl)
  rw [← filtered]
  unfold single?
  constructor
  · intro h
    split at h
    · rename_i k v only
      cases h
      obtain ⟨rfl, -⟩ := filter_once.mp only
      exact only
    · cases h
  · intro only
    rw [only]

theorem once_present {v : Json} (h : Once members key v) : ¬Lacks members key := by
  obtain ⟨before, after, rfl, -, -⟩ := h
  intro lacks
  exact lacks (key, v) (by simp) rfl

/-! ### Reading -/

theorem link?_links {t : TypeDescriptor} :
    link? members = some t ↔ ∃ id name, Links members id name ∧ t = .entityRef id name := by
  unfold link?
  cases ref : single? members "$ref" with
  | none =>
    simp only [reduceCtorEq, false_iff]
    rintro ⟨id, name, ⟨once, -⟩, -⟩
    rw [single?_once.mpr once] at ref
    cases ref
  | some id =>
    have unique : ∀ other, Once members "$ref" (.str other) ↔ other = id := by
      intro other
      rw [← single?_once, ref, Option.some_inj, eq_comm]
    simp only [Links, unique]
    split
    · rename_i named
      rw [any_key] at named
      simp only [named, false_and, or_false, ← single?_once, Option.map_eq_some_iff]
      constructor
      · rintro ⟨name, given, rfl⟩
        exact ⟨id, name, ⟨rfl, given⟩, rfl⟩
      · rintro ⟨_, name, ⟨rfl, given⟩, rfl⟩
        exact ⟨name, given, rfl⟩
    · rename_i unnamed
      rw [any_key, Classical.not_not] at unnamed
      constructor
      · rintro ⟨⟩
        exact ⟨id, "", ⟨rfl, Or.inr ⟨unnamed, rfl⟩⟩, rfl⟩
      · rintro ⟨_, name, ⟨rfl, given | ⟨-, rfl⟩⟩, rfl⟩
        · exact (once_present given unnamed).elim
        · rfl

theorem link?_none : link? members = none ↔ ∀ id name, ¬Links members id name := by
  rw [Option.eq_none_iff_forall_ne_some]
  constructor
  · intro none id name links
    exact none _ (link?_links.mpr ⟨id, name, links, rfl⟩)
  · intro none t linked
    obtain ⟨id, name, links, -⟩ := link?_links.mp linked
    exact none id name links

theorem sound_primitive {name : String} :
    (primitive name).Sound ↔ name ≠ "" ∧ ∀ rest, name ≠ "?" ++ rest := by
  constructor
  · rintro ⟨c, cs, text, plain⟩
    constructor
    · rintro rfl
      cases text
    · rintro rest rfl
      rw [String.toList_append] at text
      cases text
      exact plain rfl
  · rintro ⟨filled, unmarked⟩
    cases text : name.toList with
    | nil => exact (filled (String.toList_eq_nil_iff.mp text)).elim
    | cons c cs =>
      refine ⟨c, cs, text, ?_⟩
      rintro rfl
      apply unmarked (.ofList cs)
      rw [← String.toList_inj, text]
      simp

theorem parse_written (raw : String) : Written (.str raw) (parse raw) := by
  by_cases filled : raw = ""
  · rw [filled]
    exact .empty
  by_cases marked : ∃ rest, raw = "?" ++ rest
  · obtain ⟨rest, rfl⟩ := marked
    rw [parse_optional]
    exact .optional rest
  · have unmarked : ∀ rest, raw ≠ "?" ++ rest := fun rest same => marked ⟨rest, same⟩
    rw [parse_primitive (sound_primitive.mpr ⟨filled, unmarked⟩)]
    exact .primitive filled unmarked

theorem ofJson_of_written {v : Json} {t : TypeDescriptor} (h : Written v t) : ofJson v = .ok t := by
  cases h with
  | null => rfl
  | empty => rfl
  | optional name => rw [ofJson, parse_optional]
  | primitive filled unmarked => rw [ofJson, parse_primitive (sound_primitive.mpr ⟨filled, unmarked⟩)]
  | link links => rw [ofJson, ofMembers, link?_links.mpr ⟨_, _, links, rfl⟩]
  | void unlinked marker =>
    rw [ofJson, ofMembers, link?_none.mpr unlinked, single?_once.mpr marker]
    rfl

theorem written_of_ofJson {v : Json} {t : TypeDescriptor} (h : ofJson v = .ok t) : Written v t := by
  unfold ofJson at h
  split at h
  · cases h
    exact .null
  · cases h
    exact parse_written _
  · unfold ofMembers at h
    split at h
    · rename_i linked
      cases h
      obtain ⟨id, name, links, rfl⟩ := link?_links.mp linked
      exact .link links
    · rename_i unlinked
      split at h
      · rename_i marker single
        split at h
        · rename_i void
          cases h
          exact .void (link?_none.mp unlinked) (single?_once.mp (void ▸ single))
        · cases h
      · cases h
  · cases h

theorem ofJson_ok_iff {v : Json} {t : TypeDescriptor} : ofJson v = .ok t ↔ Written v t :=
  ⟨written_of_ofJson, ofJson_of_written⟩

theorem ofJson_error_iff {v : Json} : (∃ e, ofJson v = .error e) ↔ ∀ t, ¬Written v t := by
  simp only [← ofJson_ok_iff]
  cases ofJson v with
  | error e => simp
  | ok t => simp

/-- The decoder judges the value alone, wherever it stands in a text, and draws no identifier. -/
theorem decoder_of_value {depth : Nat} {r : Reading} {v : Json} (read : r.value depth = .ok v)
    (s : Supply) :
    decoder depth r s =
      match ofJson v with
      | .ok t => .ok (t, s)
      | .error e => .error (.data (.rejected e.message)) := by
  rw [decoder, read, Json.Decode.ofFlaw, pure_bind]
  cases ofJson v <;> rfl

/-- The decoder reads just the written forms. What it has read is written again as a form of the same
type, and so is its lower-case form. -/
theorem ofJson_grammar (v : Json) :
    (∀ t, ofJson v = .ok t ↔ Written v t) ∧
    ((∃ e, ofJson v = .error e) ↔ ∀ t, ¬Written v t) ∧
    (∀ depth (r : Reading) s, r.value depth = .ok v →
      (∀ t s', decoder depth r s = .ok (t, s') ↔ Written v t ∧ s' = s) ∧
      ((∃ fault, decoder depth r s = .error fault) ↔ ∀ t, ¬Written v t)) ∧
    ∀ t, ofJson v = .ok t →
      (∀ name, t = .primitive name → name ≠ "" ∧ ∀ rest, name ≠ "?" ++ rest) ∧
      ∀ u, u = t ∨ u = t.normalize →
        ofJson u.toJson = .ok u ∧ Json.decode decoder u.toJson.pretty = pure u := by
  refine ⟨fun t => ofJson_ok_iff, ofJson_error_iff, ?_, ?_⟩
  · intro depth r s read
    rw [decoder_of_value read, ← ofJson_error_iff]
    simp only [← ofJson_ok_iff]
    cases ofJson v with
    | error e => simp
    | ok t => simp [eq_comm]
  · intro t read
    have sound := ofJson_sound read
    constructor
    · rintro name rfl
      exact sound_primitive.mp sound
    · intro u same
      have kept : u.Sound := by
        rcases same with rfl | rfl
        · exact sound
        · exact normalize_sound sound
      exact ⟨ofJson_toJson kept, Json.decode_pretty (decoder_reads (by decide) kept)⟩

end Accessors.TypeDescriptor
