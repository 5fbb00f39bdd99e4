import Accessors.Model.Edit

/-!
# Models as JSON

For each kind of value its JSON form and the decoder that accepts it. Identifiers that a text leaves
out are drawn from the supply.
-/

namespace Accessors

open Json (Decoder Schema Decode)

/-- A drawn identifier where none is given. -/
def Json.Absent.fresh : Json.Absent Id := .default Decode.fresh

def Json.Absent.value {α : Type} (a : α) : Json.Absent α := .default (pure a)

/-! ### Names -/

namespace Visibility

def toJson (v : Visibility) : Json := .str v.name

def decoder : Decoder Visibility :=
  .choice ([.public, .protected, .private, .package].map fun v => (v.name, v))

end Visibility

namespace Direction

def toJson (d : Direction) : Json := .str d.name

def decoder : Decoder Direction := .choice ([.input, .result].map fun d => (d.name, d))

end Direction

namespace ElementKind

def toJson (k : ElementKind) : Json := .str k.name

def decoder : Decoder ElementKind :=
  .choice ([.entity, .attribute, .other].map fun k => (k.name, k))

end ElementKind

namespace OwnerField

def toJson (f : OwnerField) : Json := .str f.name

def decoder : Decoder OwnerField := .choice ([.operations].map fun f => (f.name, f))

end OwnerField

/-! ### Elements of a model -/

namespace Parameter

def toJson (p : Parameter) : Json :=
  .obj ([("id", .str p.id), ("direction", p.direction.toJson)] ++
    (p.name.map fun n => ("name", Json.str n)).toList ++ [("type", p.type.toJson)])

def schema := Schema.field "id" .string .fresh <|
  .field "direction" Direction.decoder .required <|
  .field "name" (.optional .string) (.value none) <|
  .field "type" TypeDescriptor.decoder (.value .absent) .done

def decoder : Decoder Parameter :=
  .map (fun (id, direction, name, type, ()) => { id, direction, name, type })
    (schema.decoder "Parameter")

end Parameter

namespace Operation

def toJson (op : Operation) : Json :=
  .obj [("id", .str op.id), ("name", .str op.name), ("visibility", op.visibility.toJson),
    ("owner_id", .str op.ownerId), ("parameters", .arr (op.parameters.map Parameter.toJson))]

def schema := Schema.field "id" .string .fresh <|
  .field "name" .string .required <|
  .field "visibility" Visibility.decoder (.value .public) <|
  .field "owner_id" .string (.value "") <|
  .field "parameters" (.list Parameter.decoder) (.value []) .done

def decoder : Decoder Operation :=
  .map (fun (id, name, visibility, ownerId, parameters, ()) =>
      { id, name, visibility, ownerId, parameters })
    (schema.decoder "Operation")

end Operation

namespace Attribute

def toJson (a : Attribute) : Json :=
  .obj [("id", .str a.id), ("name", .str a.name), ("type", a.type.toJson),
    ("owner_id", .str a.ownerId)]

def schema := Schema.field "id" .string .fresh <|
  .field "name" .string .required <|
  .field "type" TypeDescriptor.decoder (.value .absent) <|
  .field "owner_id" .string (.value "") .done

def decoder : Decoder Attribute :=
  .map (fun (id, name, type, ownerId, ()) => { id, name, type, ownerId })
    (schema.decoder "Attribute")

end Attribute

namespace Entity

def toJson (e : Entity) : Json :=
  .obj ([("id", .str e.id), ("name", .str e.name),
      ("attributes", .arr (e.attributes.map Attribute.toJson)),
      ("operations", .arr (e.operations.map Operation.toJson))] ++
    (e.description.map fun d => ("description", Json.str d)).toList)

def schema := Schema.field "id" .string .fresh <|
  .field "name" .string .required <|
  .field "attributes" (.list Attribute.decoder) (.value []) <|
  .field "operations" (.list Operation.decoder) (.value []) <|
  .field "description" (.optional .string) (.value none) .done

def decoder : Decoder Entity :=
  .map (fun (id, name, attributes, operations, description, ()) =>
      { id, name, attributes, operations, description })
    (schema.decoder "Entity")

end Entity

namespace Project

def toJson (p : Project) : Json :=
  .obj [("id", .str p.id), ("name", .str p.name), ("entities", .arr (p.entities.map Entity.toJson))]

def schema := Schema.field "id" .string .fresh <|
  .field "name" .string .required <|
  .field "entities" (.list Entity.decoder) (.value []) .done

def decoder : Decoder Project :=
  .map (fun (id, name, entities, ()) => { id, name, entities }) (schema.decoder "Project")

/-- Reads a model and normalizes it. -/
def ofText (text : String) : Decode Project := normalize <$> Json.decode decoder text

def toText (p : Project) : String := p.toJson.pretty

end Project

/-! ### Selections and edits -/

namespace ElementRef

def toJson (r : ElementRef) : Json := .obj [("kind", r.kind.toJson), ("id", .str r.id)]

def schema := Schema.field "kind" ElementKind.decoder .required <|
  .field "id" .string .required .done

def decoder : Decoder ElementRef :=
  .map (fun (kind, id, ()) => { kind, id }) (schema.decoder "ElementRef")

end ElementRef

namespace FieldInsertion

def toJson (i : FieldInsertion) : Json :=
  .obj [("owner_id", .str i.ownerId), ("field", i.field.toJson), ("element", i.element.toJson)]

def schema := Schema.field "owner_id" .string .required <|
  .field "field" OwnerField.decoder .required <|
  .field "element" Operation.decoder .required .done

def decoder : Decoder FieldInsertion :=
  .map (fun (ownerId, field, element, ()) => { ownerId, field, element })
    (schema.decoder "FieldInsertion")

end FieldInsertion

namespace EditCommand

def toJson (c : EditCommand) : Json :=
  .obj [("id", .str c.id), ("label", .str c.label), ("hash", .str c.hash),
    ("created_at", .str c.createdAt), ("insertions", .arr (c.insertions.map FieldInsertion.toJson))]

def schema := Schema.field "id" .string .required <|
  .field "label" .string .required <|
  .field "hash" .string .required <|
  .field "created_at" .string .required <|
  .field "insertions" (.list FieldInsertion.decoder) .required .done

def decoder : Decoder EditCommand :=
  .map (fun (id, label, hash, createdAt, insertions, ()) =>
      { id, label, hash, createdAt, insertions })
    (schema.decoder "EditCommand")

end EditCommand

end Accessors
