import Accessors.Proofs.Model.TypeDescriptor
import Accessors.Synthesis

/-!
# Types of generated members

The type that members show is that of the attribute in lower case. Lower case may be taken of the name
or of the whole text, with its leading `?` (`normalize_parse`), and it changes neither whether a value
must be there nor the entity that is linked (`normalize_shows`). The getter, the setter and the
constructor agree on the type of an attribute (`display_types`).
-/

namespace Accessors

namespace TypeDescriptor

/-- `t` shows `s`: it has its text in lower case, and stays a type of the same sort. -/
structure Shows (t s : TypeDescriptor) : Prop where
  text : t.text? = s.text?.map Text.lower
  stable : t.normalize = t
  mandatory : t.isMandatory = s.isMandatory
  link : t.referencedEntity? = s.referencedEntity?

theorem normalize_shows (t : TypeDescriptor) : t.normalize.Shows t := by
  cases t with
  | absent => exact ⟨rfl, rfl, rfl, rfl⟩
  | void =>
    have lowered : Text.lower "void" = "void" := by decide +kernel
    exact ⟨congrArg some lowered.symm, rfl, rfl, rfl⟩
  | primitive name => exact ⟨rfl, congrArg primitive (Text.lower_lower name), rfl, rfl⟩
  | optional name =>
    exact ⟨congrArg some (Text.lower_mark name).symm, congrArg optional (Text.lower_lower name), rfl, rfl⟩
  | entityRef id name => exact ⟨rfl, congrArg (entityRef id) (Text.lower_lower name), rfl, rfl⟩

theorem normalize_parse (raw : String) : (parse raw).normalize = parse (Text.lower raw) := by
  cases text : raw.toList with
  | nil =>
    obtain rfl : raw = "" := String.toList_eq_nil_iff.mp text
    decide +kernel
  | cons c cs =>
    by_cases mark : c = '?'
    · subst mark
      have marked : raw = "?" ++ .ofList cs := by
        apply String.toList_inj.mp
        simp [text]
      rw [marked, parse_optional, Text.lower_mark, parse_optional, normalize]
    · have sound : (primitive raw).Sound := ⟨c, cs, text, mark⟩
      have lowered : (primitive (Text.lower raw)).Sound := normalize_sound sound
      rw [parse_primitive sound, parse_primitive lowered, normalize]

end TypeDescriptor

def Operation.Draft.typesOf (d : Operation.Draft) (direction : Direction) : List TypeDescriptor :=
  (d.parameters.filter (·.direction = direction)).map (·.type)

/-- The constructor takes a mandatory attribute where those before it leave off. -/
theorem Entity.constructor_parameter {e : Entity} {before after : List Attribute} {a : Attribute}
    (split : e.attributes = before ++ a :: after) (mandatory : a.isMandatory) :
    e.constructor.parameters[(before.filter Attribute.isMandatory).length]? = some a.parameter := by
  rw [constructor, split, List.filter_append, List.filter_cons_of_pos mandatory, List.map_append,
    List.getElem?_append_right (by simp)]
  simp

/-- Lower case commutes with reading a type, and the members of an attribute show one type. -/
theorem display_types :
    (∀ raw, (TypeDescriptor.parse raw).normalize = TypeDescriptor.parse (Text.lower raw)) ∧
    (∀ t : TypeDescriptor, t.normalize.Shows t) ∧
    ∀ a : Attribute, ∃ t : TypeDescriptor, t.Shows a.type ∧
      a.getter.typesOf .result = [t] ∧ a.setter.typesOf .input = [t] ∧
      ∀ (e : Entity) (before after : List Attribute), e.attributes = before ++ a :: after →
        a.isMandatory →
        e.constructor.parameters[(before.filter Attribute.isMandatory).length]? =
          some ⟨.input, some ("$" ++ a.name), t⟩ := by
  refine ⟨TypeDescriptor.normalize_parse, TypeDescriptor.normalize_shows, fun a => ?_⟩
  refine ⟨a.displayType, TypeDescriptor.normalize_shows a.type, rfl, rfl, ?_⟩
  intro e before after split mandatory
  exact e.constructor_parameter split mandatory

/-- A name that ends in a capital sigma, behind an attribute that the constructor leaves out. -/
theorem display_types_sample :
    let street : Attribute := ⟨"s", "street", .primitive "ΟΔΟΣ", "h"⟩
    let house : Entity := ⟨"h", "House", [⟨"n", "note", .optional "Σ", "h"⟩, street], [], none⟩
    house.attributes = [⟨"n", "note", .optional "Σ", "h"⟩] ++ street :: [] ∧ street.isMandatory ∧
      ∃ t : TypeDescriptor, t = .primitive "οδος" ∧ street.getter.typesOf .result = [t] ∧
        street.setter.typesOf .input = [t] ∧
        house.constructor.parameters[0]? = some ⟨.input, some ("$" ++ street.name), t⟩ := by
  intro street house
  have mandatory : street.isMandatory := rfl
  have lowered : street.getter.typesOf .result = [.primitive "οδος"] := by decide +kernel
  obtain ⟨-, -, members⟩ := display_types
  obtain ⟨t, -, getter, setter, taken⟩ := members street
  obtain rfl : .primitive "οδος" = t := List.singleton_inj.mp (lowered.symm.trans getter)
  exact ⟨rfl, mandatory, _, rfl, getter, setter, taken house [_] [] rfl mandatory⟩

end Accessors
