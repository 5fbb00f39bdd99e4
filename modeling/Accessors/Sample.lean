import Accessors.Model.Project

/-!
# The sample project

A small garage, used where no model is given. It has attributes of every kind of type.
-/

namespace Accessors.Sample

/-- An entity whose attributes are identified by its own identifier and their names. -/
def entity (id name description : String) (attributes : List (String × TypeDescriptor)) :
    Entity where
  id := id
  name := name
  attributes := attributes.map fun (field, type) => ⟨id ++ "-" ++ field, field, type, id⟩
  operations := []
  description := some description

def project : Project where
  id := "garage"
  name := "Garage"
  entities := [
    entity "person" "Person" "Owner of one or more cars"
      [("name", .parse "String"), ("age", .parse "?Number")],
    entity "car" "Car" "A car with exactly one engine"
      [("engine", .entityRef "engine" "Engine"), ("plate", .parse "string"),
        ("color", .parse "?string")],
    entity "engine" "Engine" "Power unit of a car"
      [("horsepower", .parse "int"), ("serial", .absent)],
    entity "draft" "Draft" "Entity with no mandatory attributes" [("title", .parse "?string")]]

end Accessors.Sample
