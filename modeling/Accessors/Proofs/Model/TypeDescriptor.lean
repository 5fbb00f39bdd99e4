import Accessors.Model.TypeDescriptor
import Accessors.Proofs.Json.Decoding
import Accessors.Proofs.Text.Casing

/-!
# Types that are written and read

The name of a primitive type is the text that it is written as, so it must not read as another type:
it is not empty and has no leading `?`. Reading gives only such types (`ofJson_sound`), lower case
keeps them so (`normalize_sound`), and they are read back (`decoder_reads`).
-/

namespace Accessors

namespace TypeDescriptor

open Json (Decoder Reading Numberless)

/-- A primitive type has a name that reads as a primitive type. -/
def Sound : TypeDescriptor → Prop
  | .primitive name => ∃ c cs, name.toList = c :: cs ∧ c ≠ '?'
  | _ => True

theorem parse_sound (raw : String) : (parse raw).Sound := by
  unfold parse
  split
  · trivial
  · trivial
  · rename_i filled unmarked
    cases text : raw.toList with
    | nil => exact (filled text).elim
    | cons c cs => exact ⟨c, cs, text, fun mark => unmarked cs (mark ▸ text)⟩

theorem link?_sound {members : List (String × Json)} {t : TypeDescriptor} (h : link? members = some t) :
    t.Sound := by
  unfold link? at h
  split at h
  · cases h
  · split at h
    · obtain ⟨name, -, rfl⟩ := Option.map_eq_some_iff.mp h
      trivial
    · cases h
      trivial

theorem ofJson_sound {v : Json} {t : TypeDescriptor} (h : ofJson v = .ok t) : t.Sound := by
  unfold ofJson at h
  split at h
  · cases h
    trivial
  · cases h
    exact parse_sound _
  · unfold ofMembers at h
    split at h
    · rename_i link
      cases h
      exact link?_sound link
    · split at h
      · split at h
        · cases h
          trivial
        · cases h
      · cases h
  · cases h

theorem decoder_gives : decoder.Gives Sound := by
  intro depth r s t s' run
  obtain ⟨v, s₁, _, run⟩ := Json.Decode.bind_ok run
  cases read : ofJson v with
  | error e =>
    rw [read] at run
    cases run
  | ok t =>
    rw [read] at run
    cases run
    exact ofJson_sound read

theorem normalize_sound {t : TypeDescriptor} (h : t.Sound) : t.normalize.Sound := by
  cases t with
  | primitive name => exact Text.lower_head h
  | _ => trivial

theorem parse_primitive {name : String} (h : (primitive name).Sound) : parse name = .primitive name := by
  obtain ⟨c, cs, text, plain⟩ := h
  simp [parse, text, plain]

theorem parse_optional (name : String) : parse ("?" ++ name) = .optional name := by
  have text : ("?" ++ name).toList = '?' :: name.toList := by simp
  unfold parse
  rw [text]
  simp only [String.ofList_toList]

/-- No two sound types are written alike. -/
theorem ofJson_toJson {t : TypeDescriptor} (h : t.Sound) : ofJson t.toJson = .ok t := by
  cases t with
  | absent => rfl
  | void => rfl
  | primitive name => rw [toJson, ofJson, parse_primitive h]
  | optional name => rw [toJson, ofJson, parse_optional]
  | entityRef id name => rfl

theorem toJson_numberless (t : TypeDescriptor) : t.toJson.Numberless := by
  cases t with
  | absent => exact .null
  | void => exact .obj (List.forall_mem_singleton.mpr (.str _))
  | primitive name => exact .str _
  | optional name => exact .str _
  | entityRef id name =>
    exact .obj (List.forall_mem_cons.mpr ⟨.str _, List.forall_mem_singleton.mpr (.str _)⟩)

theorem toJson_value {depth : Nat} (room : depth < Json.maxDepth) (t : TypeDescriptor) :
    (Reading.ofJson t.toJson).value depth = .ok t.toJson := by
  have inside : ¬Json.maxDepth ≤ depth := Nat.not_le.mpr room
  cases t with
  | absent => rfl
  | primitive name => rfl
  | optional name => rfl
  | void =>
    rw [toJson, Reading.ofJson, Reading.value, if_neg inside]
    rfl
  | entityRef id name =>
    rw [toJson, Reading.ofJson, Reading.value, if_neg inside]
    rfl

theorem decoder_reads {depth : Nat} (room : depth < Json.maxDepth) {t : TypeDescriptor} (h : t.Sound) :
    decoder.Reads depth t.toJson t := by
  refine ⟨t.toJson_numberless, ?_⟩
  rw [decoder, toJson_value room, Json.Decode.ofFlaw, pure_bind, ofJson_toJson h]

end TypeDescriptor

end Accessors
