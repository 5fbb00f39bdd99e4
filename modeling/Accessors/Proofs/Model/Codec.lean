import Accessors.Model.Codec
import Accessors.Proofs.Model.TypeDescriptor
import Accessors.Proofs.Reachable

/-!
# Models that are written and read

A model is sound when the types of its attributes and parameters are. Decoding gives only sound
elements, and these are read back from their JSON form (`decoder_reads`). A text gives a model in
which every child names its entity, and such a model is read back as it was (`ofText_toText`).
-/

namespace Accessors

open Json (Decoder Schema maxDepth)

/-! ### Soundness -/

def Operation.Sound (op : Operation) : Prop := ∀ p ∈ op.parameters, p.type.Sound

structure Entity.Sound (e : Entity) : Prop where
  attributes : ∀ a ∈ e.attributes, a.type.Sound
  operations : ∀ op ∈ e.operations, op.Sound

def Project.Sound (p : Project) : Prop := ∀ e ∈ p.entities, e.Sound

def EditCommand.Sound (c : EditCommand) : Prop := ∀ i ∈ c.insertions, i.element.Sound

/-! ### What is decoded -/

theorem Json.Absent.value_gives {α : Type} {P : α → Prop} {a : α} (h : P a) :
    (Json.Absent.value a).Gives P := by
  intro s b t made
  cases made
  exact h

theorem Parameter.decoder_gives : Parameter.decoder.Gives fun p => p.type.Sound := by
  have fields : Parameter.schema.Gives _ :=
    .skip <| .skip <| .skip <| .field TypeDescriptor.decoder_gives (Json.Absent.value_gives trivial) .done
  exact Decoder.map_gives (fields.decoder _) fun _ sound => sound.2.2.2.1

theorem Operation.decoder_gives : Operation.decoder.Gives Operation.Sound := by
  have fields : Operation.schema.Gives _ :=
    .skip <| .skip <| .skip <| .skip <|
      .field (Decoder.list_gives Parameter.decoder_gives) (Json.Absent.value_gives nofun) .done
  exact Decoder.map_gives (fields.decoder _) fun _ sound => sound.2.2.2.2.1

theorem Attribute.decoder_gives : Attribute.decoder.Gives fun a => a.type.Sound := by
  have fields : Attribute.schema.Gives _ :=
    .skip <| .skip <| .field TypeDescriptor.decoder_gives (Json.Absent.value_gives trivial) <| .skip .done
  exact Decoder.map_gives (fields.decoder _) fun _ sound => sound.2.2.1

theorem Entity.decoder_gives : Entity.decoder.Gives Entity.Sound := by
  have fields : Entity.schema.Gives _ :=
    .skip <| .skip <|
      .field (Decoder.list_gives Attribute.decoder_gives) (Json.Absent.value_gives nofun) <|
      .field (Decoder.list_gives Operation.decoder_gives) (Json.Absent.value_gives nofun) <|
      .skip .done
  exact Decoder.map_gives (fields.decoder _) fun _ sound => ⟨sound.2.2.1, sound.2.2.2.1⟩

theorem Project.decoder_gives : Project.decoder.Gives Project.Sound := by
  have fields : Project.schema.Gives _ :=
    .skip <| .skip <|
      .field (Decoder.list_gives Entity.decoder_gives) (Json.Absent.value_gives nofun) .done
  exact Decoder.map_gives (fields.decoder _) fun _ sound => sound.2.2.1

theorem FieldInsertion.decoder_gives : FieldInsertion.decoder.Gives fun i => i.element.Sound := by
  have fields : FieldInsertion.schema.Gives _ :=
    .skip <| .skip <| .field Operation.decoder_gives trivial .done
  exact Decoder.map_gives (fields.decoder _) fun _ sound => sound.2.2.1

theorem EditCommand.decoder_gives : EditCommand.decoder.Gives EditCommand.Sound := by
  have fields : EditCommand.schema.Gives _ :=
    .skip <| .skip <| .skip <| .skip <|
      .field (Decoder.list_gives FieldInsertion.decoder_gives) trivial .done
  exact Decoder.map_gives (fields.decoder _) fun _ sound => sound.2.2.2.2.1

/-! ### What is read back -/

variable {depth : Nat}

theorem Visibility.decoder_reads (depth : Nat) (v : Visibility) : decoder.Reads depth v.toJson v :=
  Decoder.choice_reads (by cases v <;> decide) depth

theorem Direction.decoder_reads (depth : Nat) (d : Direction) : decoder.Reads depth d.toJson d :=
  Decoder.choice_reads (by cases d <;> decide) depth

/-- A member for a text that may be missing: none at all where it is, and one for an empty text. -/
theorem Json.Schema.Written.optional {σ β : Type} {key : String} {rest : Schema σ β}
    {members : List (String × Json)} {b : β} (given : Option String)
    (later : rest.Written depth members b) :
    (Schema.field key (.optional .string) (.value none) rest).Written depth
      ((given.map fun s => (key, Json.str s)).toList ++ members) (given, b) := by
  cases given with
  | none => exact .omitted later
  | some s => exact .field (Decoder.optional_reads depth s) later

theorem Parameter.decoder_reads (room : depth + 1 < maxDepth) {p : Parameter} (sound : p.type.Sound) :
    Parameter.decoder.Reads depth p.toJson p := by
  have fields : Parameter.schema.Written (depth + 1) _ _ :=
    .field (Decoder.string_reads _ p.id) <| .field (Direction.decoder_reads _ p.direction) <|
      .optional p.name <| .field (TypeDescriptor.decoder_reads room sound) .done
  exact Decoder.map_reads _ (fields.reads _ (by decide))

theorem Operation.decoder_reads (room : depth + 3 < maxDepth) {op : Operation} (sound : op.Sound) :
    Operation.decoder.Reads depth op.toJson op := by
  have parameters : (Decoder.list Parameter.decoder).Reads (depth + 1) _ op.parameters :=
    Decoder.list_reads fun p member => Parameter.decoder_reads room (sound p member)
  have fields : Operation.schema.Written (depth + 1) _ _ :=
    .field (Decoder.string_reads _ op.id) <| .field (Decoder.string_reads _ op.name) <|
      .field (Visibility.decoder_reads _ op.visibility) <|
      .field (Decoder.string_reads _ op.ownerId) <| .field parameters .done
  exact Decoder.map_reads _ (fields.reads _ (by decide))

theorem Attribute.decoder_reads (room : depth + 1 < maxDepth) {a : Attribute} (sound : a.type.Sound) :
    Attribute.decoder.Reads depth a.toJson a := by
  have fields : Attribute.schema.Written (depth + 1) _ _ :=
    .field (Decoder.string_reads _ a.id) <| .field (Decoder.string_reads _ a.name) <|
      .field (TypeDescriptor.decoder_reads room sound) <|
      .field (Decoder.string_reads _ a.ownerId) .done
  exact Decoder.map_reads _ (fields.reads _ (by decide))

theorem Entity.decoder_reads (room : depth + 5 < maxDepth) {e : Entity} (sound : e.Sound) :
    Entity.decoder.Reads depth e.toJson e := by
  have attributes : (Decoder.list Attribute.decoder).Reads (depth + 1) _ e.attributes :=
    Decoder.list_reads fun a member => Attribute.decoder_reads (by omega) (sound.attributes a member)
  have operations : (Decoder.list Operation.decoder).Reads (depth + 1) _ e.operations :=
    Decoder.list_reads fun op member => Operation.decoder_reads room (sound.operations op member)
  have fields : Entity.schema.Written (depth + 1) _ _ :=
    .field (Decoder.string_reads _ e.id) <| .field (Decoder.string_reads _ e.name) <|
      .field attributes <| .field operations <| .optional e.description .done
  rw [List.append_nil] at fields
  exact Decoder.map_reads _ (fields.reads _ (by decide))

theorem Project.decoder_reads (room : depth + 7 < maxDepth) {p : Project} (sound : p.Sound) :
    Project.decoder.Reads depth p.toJson p := by
  have entities : (Decoder.list Entity.decoder).Reads (depth + 1) _ p.entities :=
    Decoder.list_reads fun e member => Entity.decoder_reads room (sound e member)
  have fields : Project.schema.Written (depth + 1) _ _ :=
    .field (Decoder.string_reads _ p.id) <| .field (Decoder.string_reads _ p.name) <|
      .field entities .done
  exact Decoder.map_reads _ (fields.reads _ (by decide))

/-! ### Texts of models -/

namespace Project

variable {p : Project}

theorem normalize_sound (sound : p.Sound) : p.normalize.Sound := by
  intro e member
  obtain ⟨e, inside, rfl⟩ := List.mem_map.mp member
  have own := sound e inside
  exact ⟨List.forall_mem_map.mpr own.attributes, List.forall_mem_map.mpr own.operations⟩

theorem ofText_loaded {text : String} {s t : Supply} (run : ofText text s = .ok (p, t)) :
    p.Sound ∧ p.Owned := by
  obtain ⟨q, decoded, rfl⟩ := Json.Decode.map_ok run
  exact ⟨normalize_sound (Json.decode_gives decoder_gives decoded), normalize_owned q⟩

theorem normalize_eq (owned : p.Owned) : p.normalize = p := by
  obtain ⟨id, name, entities⟩ := p
  have each : ∀ e ∈ entities, e.adoptChildren = e := by
    intro e member
    obtain ⟨attributes, operations⟩ := owned e member
    have same : e.attributes.map (fun a => { a with ownerId := e.id }) = e.attributes :=
      map_eq_self fun a inside => by rw [← attributes a inside]
    have others : e.operations.map (fun op => { op with ownerId := e.id }) = e.operations :=
      map_eq_self fun op inside => by rw [← operations op inside]
    rw [Entity.adoptChildren, same, others]
  simp only [normalize, map_eq_self each]

/-- The text of a model gives the model back, and takes no identifier from the supply. -/
theorem ofText_toText (sound : p.Sound) (owned : p.Owned) : ofText p.toText = pure p := by
  rw [ofText, toText, Json.decode_pretty (decoder_reads (by decide) sound), map_pure,
    normalize_eq owned]

end Project

end Accessors
