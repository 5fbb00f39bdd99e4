import Accessors.Proofs.Paths

/-!
# Paths and what they address

Where names tell the elements apart, a path and the element that it addresses determine each other
(`resolvePath_iff`), and selecting by paths keeps those that address something in order
(`rendered_paths_resolve`). The first `.` of a path ends the name of the entity, so no path leads to an
entity with a `.` in its name (`dotted_paths_miss`); the names of attributes may have any characters.
-/

namespace Accessors

/-! ### The first dot -/

theorem splitAtDot_eq_none {cs : List Char} (h : splitAtDot cs = none) : '.' ∉ cs := by
  intro dot
  obtain ⟨owner, member, rfl, dotless⟩ := List.eq_append_cons_of_mem dot
  rw [splitAtDot_append dotless] at h
  cases h

theorem splitAtDot_eq_some {cs owner member : List Char} (h : splitAtDot cs = some (owner, member)) :
    cs = owner ++ '.' :: member ∧ '.' ∉ owner := by
  by_cases dot : '.' ∈ cs
  · obtain ⟨front, back, rfl, dotless⟩ := List.eq_append_cons_of_mem dot
    rw [splitAtDot_append dotless] at h
    cases h
    exact ⟨rfl, dotless⟩
  · rw [splitAtDot_none dot] at h
    cases h

/-! ### Names of their own -/

theorem find?_of_nodup {α : Type} {key : α → String} {l : List α} (distinct : (l.map key).Nodup) {x : α}
    (member : x ∈ l) : l.find? (key · == key x) = some x := by
  cases found : l.find? (key · == key x) with
  | none => exact absurd (beq_self_eq_true (key x)) (List.find?_eq_none.mp found x member)
  | some y =>
    have same : key y = key x := by simpa using List.find?_some found
    rw [List.inj_on_of_nodup_map distinct (List.mem_of_find?_eq_some found) member same]

namespace Project

structure Distinct (p : Project) : Prop where
  entityNames : (p.entities.map (·.name)).Nodup
  attributeNames : ∀ e ∈ p.entities, (e.attributes.map (·.name)).Nodup
  entityIds : (p.entities.map (·.id)).Nodup
  attributeIds : (p.entities.flatMap fun e => e.attributes.map (·.id)).Nodup

/-- A path is the name of an element, which for an attribute begins with that of its entity. The name
of the entity has no `.` in it. -/
inductive Addresses (p : Project) : String → ElementRef → Prop where
  | whole {e : Entity} : e ∈ p.entities → '.' ∉ e.name.toList → Addresses p e.name ⟨.entity, e.id⟩
  | member {e : Entity} {a : Attribute} : e ∈ p.entities → '.' ∉ e.name.toList → a ∈ e.attributes →
      Addresses p (e.name ++ "." ++ a.name) ⟨.attribute, a.id⟩

variable {p : Project} {e : Entity} {a : Attribute} {path : String} {element : ElementRef}

theorem Distinct.entityNamed? (distinct : p.Distinct) (member : e ∈ p.entities) :
    p.entityNamed? e.name = some e :=
  find?_of_nodup distinct.entityNames member

theorem Distinct.attributeNamed? (distinct : p.Distinct) (member : e ∈ p.entities)
    (inside : a ∈ e.attributes) : e.attributeNamed? a.name = some a :=
  find?_of_nodup (distinct.attributeNames e member) inside

theorem Distinct.attribute? (distinct : p.Distinct) (member : e ∈ p.entities)
    (inside : a ∈ e.attributes) : p.attribute? a.id = some (e, a) := by
  obtain ⟨e', a', found⟩ := attribute?_isSome member inside
  obtain ⟨member', inside', same⟩ := attribute?_some found
  obtain ⟨rfl, rfl⟩ := attribute_unique distinct.attributeIds member' member inside' inside same
  exact found

theorem resolvePath_addresses (h : p.resolvePath path = some element) : p.Addresses path element := by
  unfold resolvePath at h
  split at h
  · rename_i whole
    obtain ⟨e, found, rfl⟩ := Option.map_eq_some_iff.mp h
    obtain rfl : e.name = path := by simpa using List.find?_some found
    exact .whole (List.mem_of_find?_eq_some found) (splitAtDot_eq_none whole)
  · rename_i owner member split
    obtain ⟨e, found, h⟩ := Option.bind_eq_some_iff.mp h
    obtain ⟨a, inside, h⟩ := Option.bind_eq_some_iff.mp h
    cases h
    obtain ⟨text, dotless⟩ := splitAtDot_eq_some split
    have ownerName : e.name = .ofList owner := by simpa using List.find?_some found
    have memberName : a.name = .ofList member := by simpa using List.find?_some inside
    obtain rfl : e.name ++ "." ++ a.name = path := by
      apply String.toList_inj.mp
      simp [text, ownerName, memberName]
    refine .member (List.mem_of_find?_eq_some found) ?_ (List.mem_of_find?_eq_some inside)
    rwa [ownerName, String.toList_ofList]

theorem resolvePath_iff (distinct : p.Distinct) :
    p.resolvePath path = some element ↔ p.Addresses path element := by
  refine ⟨resolvePath_addresses, fun addresses => ?_⟩
  cases addresses with
  | whole member dotless => exact resolvePath_entity (distinct.entityNamed? member) dotless
  | member member dotless inside =>
    exact resolvePath_attribute (distinct.entityNamed? member) dotless
      (distinct.attributeNamed? member inside)

end Project

/-! ### Selecting -/

namespace Repository

variable {r : Repository}

open Classical in
theorem selectPaths_unresolved (distinct : r.project.Distinct) (paths : List String) :
    (r.selectPaths paths).1 = paths.filter fun path => ¬∃ element, r.project.Addresses path element := by
  refine List.filter_congr fun path _ => ?_
  simp only [← Project.resolvePath_iff distinct]
  cases r.project.resolvePath path <;> simp

open Classical in
theorem selectPaths_selection (distinct : r.project.Distinct) (paths : List String) :
    List.Forall₂ r.project.Addresses
      (paths.filter fun path => ∃ element, r.project.Addresses path element)
      (r.selectPaths paths).2.selection := by
  simp only [selectPaths, select, ← Project.resolvePath_iff distinct]
  induction paths with
  | nil => exact .nil
  | cons path paths ih =>
    cases resolved : r.project.resolvePath path with
    | none => simpa [resolved] using ih
    | some element =>
      have addressed := (Project.resolvePath_iff distinct).mp resolved
      simpa [resolved] using List.Forall₂.cons addressed ih

open Classical in
/-- The name of an entity without a `.` and of each of its attributes resolves to it, nothing else
resolves, and a selection takes up the paths that do, in order. -/
theorem rendered_paths_resolve {r : Repository} (distinct : r.project.Distinct) :
    (∀ e ∈ r.project.entities, '.' ∉ e.name.toList →
      r.project.resolvePath e.name = some ⟨.entity, e.id⟩ ∧ r.project.entity? e.id = some e ∧
      ∀ a ∈ e.attributes,
        r.project.resolvePath (e.name ++ "." ++ a.name) = some ⟨.attribute, a.id⟩ ∧
        r.project.attribute? a.id = some (e, a)) ∧
    (∀ path element, r.project.resolvePath path = some element → r.project.Addresses path element) ∧
    ∀ paths,
      List.Forall₂ r.project.Addresses
        (paths.filter fun path => ∃ element, r.project.Addresses path element)
        (r.selectPaths paths).2.selection ∧
      (r.selectPaths paths).1 =
        paths.filter fun path => ¬∃ element, r.project.Addresses path element := by
  refine ⟨fun e member dotless => ⟨?_, ?_, fun a inside => ⟨?_, ?_⟩⟩, ?_, fun paths => ⟨?_, ?_⟩⟩
  · exact (Project.resolvePath_iff distinct).mpr (.whole member dotless)
  · exact find?_of_nodup distinct.entityIds member
  · exact (Project.resolvePath_iff distinct).mpr (.member member dotless inside)
  · exact distinct.attribute? member inside
  · exact fun path element => Project.resolvePath_addresses
  · exact selectPaths_selection distinct paths
  · exact selectPaths_unresolved distinct paths

/-- An attribute with a `.` in its name and one without a name, and an entity that no path leads to. -/
theorem rendered_paths_resolve_sample :
    let sum : Attribute := ⟨"a", "line.sum", .absent, "o"⟩
    let order : Entity := ⟨"o", "Order", [sum, ⟨"b", "", .absent, "o"⟩], [], none⟩
    let r : Repository := { project := ⟨"s", "Shop", [order, ⟨"d", "v1.Draft", [], [], none⟩]⟩ }
    let paths := ["Order.line.sum", "v1.Draft", "Order."]
    r.project.Distinct ∧ '.' ∉ order.name.toList ∧
      r.project.resolvePath "Order" = some ⟨.entity, "o"⟩ ∧
      r.project.resolvePath "Order.line.sum" = some ⟨.attribute, "a"⟩ ∧
      r.project.Addresses "Order." ⟨.attribute, "b"⟩ ∧
      (∀ path ∈ (r.selectPaths paths).1, ¬∃ element, r.project.Addresses path element) ∧
      (r.selectPaths paths).1 = ["v1.Draft"] := by
  intro sum order r paths
  have distinct : r.project.Distinct := ⟨by decide, by decide, by decide, by decide⟩
  have dotless : '.' ∉ order.name.toList := by decide
  obtain ⟨renders, resolves, selects⟩ := rendered_paths_resolve distinct
  obtain ⟨whole, -, members⟩ := renders order List.mem_cons_self dotless
  have rendered : order.name ++ "." ++ sum.name = "Order.line.sum" := by decide
  have member := (members sum List.mem_cons_self).1
  rw [rendered] at member
  refine ⟨distinct, dotless, whole, member, resolves _ _ (by decide +kernel), ?_, by decide +kernel⟩
  rw [(selects paths).2]
  exact fun path unresolved => by simpa using (List.mem_filter.mp unresolved).2

/-! ### Entities with a dot in their name -/

/-- The line of Order and the entity Order.line have one path, and v1.Draft has none. -/
def dotted : Project :=
  ⟨"s", "Shop",
    [⟨"o", "Order", [⟨"a", "line", .primitive "Int", "o"⟩], [], none⟩,
      ⟨"l", "Order.line", [⟨"b", "sum", .primitive "Int", "l"⟩], [], none⟩,
      ⟨"d", "v1.Draft", [⟨"c", "on", .primitive "Date", "d"⟩], [], none⟩]⟩

/-- All names and identifiers are distinct, and yet the name of an entity resolves to nothing, or to
the attribute of another one. -/
theorem dotted_paths_miss :
    dotted.Distinct ∧ (dotted.entities.flatMap fun e => e.id :: e.attributes.map (·.id)).Nodup ∧
    (∃ e ∈ dotted.entities, e.name = "v1.Draft" ∧ dotted.resolvePath e.name = none ∧
      ∀ a ∈ e.attributes, dotted.resolvePath (e.name ++ "." ++ a.name) = none) ∧
    ∃ e ∈ dotted.entities, ∃ a ∈ e.attributes, ∃ other ∈ dotted.entities,
      other.name = e.name ++ "." ++ a.name ∧
      dotted.resolvePath other.name = some ⟨.attribute, a.id⟩ := by
  refine ⟨⟨by decide, by decide, by decide, by decide⟩, by decide, ?_, ?_⟩
  · decide +kernel
  · decide +kernel

end Repository

end Accessors
