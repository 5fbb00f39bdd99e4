import Accessors.Proofs.Generation.Granularity

/-!
# Generated members

The members that a selection calls for, said of the model alone (`expectedMembers`), and that a
request appends exactly these (`generate_members`).
-/

namespace Accessors

/-! ### What is called for -/

/-- The members for one visit: for an entity the constructor, for an attribute the getter and the
setter. -/
def Visit.members (policy : ConstructorPolicy) : Visit → List Operation.Draft
  | .entity e =>
    let mandatory := e.attributes.filter fun a => a.type.isMandatory
    if policy = .requireMandatory ∧ mandatory = [] then []
    else
      [{ name := "__construct"
         visibility := .public
         ownerId := e.id
         parameters := mandatory.map fun a => ⟨.input, some ("$" ++ a.name), a.type.normalize⟩ }]
  | .attribute owner a =>
    [{ name := "get" ++ Text.capitalize a.name
       visibility := .public
       ownerId := owner.id
       parameters := [⟨.result, none, a.type.normalize⟩] },
     { name := "set" ++ Text.capitalize a.name
       visibility := .public
       ownerId := owner.id
       parameters := [⟨.input, some ("$" ++ a.name), a.type.normalize⟩, ⟨.result, none, .void⟩] }]

/-- The members that a selection calls for: those for the first visit of each entity and of each
attribute, in order. -/
def Project.expectedMembers (p : Project) (policy : ConstructorPolicy) (selection : List ElementRef) :
    List Operation.Draft :=
  (firstVisits (p.visits selection)).flatMap (Visit.members policy)

def Visit.owner : Visit → Entity
  | .entity e => e
  | .attribute e _ => e

theorem Visit.members_owner {policy : ConstructorPolicy} {v : Visit} {d : Operation.Draft}
    (inside : d ∈ v.members policy) : d.ownerId = v.owner.id := by
  cases v with
  | entity e =>
    simp only [members] at inside
    split at inside
    · cases inside
    · rw [List.mem_singleton.mp inside]
      rfl
  | «attribute» e a =>
    obtain rfl | rfl : d = _ ∨ d = _ := by simpa [members] using inside
    all_goals rfl

namespace Project

variable {p : Project}

theorem expectedMembers_owner {policy : ConstructorPolicy} {selection : List ElementRef}
    {d : Operation.Draft} (planned : d ∈ p.expectedMembers policy selection) :
    (p.entity? d.ownerId).isSome := by
  obtain ⟨v, first, inside⟩ := List.mem_flatMap.mp planned
  obtain ⟨e, member, which⟩ := visits_cases (mem_of_mem_eraseDupsBy _ first)
  have owner : v.owner = e := by
    obtain rfl | ⟨a, -, rfl⟩ := which <;> rfl
  rw [entity?_isSome, Visit.members_owner inside, owner]
  exact List.mem_map_of_mem member

theorem expectedMembers_entity_owner {id : Id} {e : Entity} (found : p.entity? id = some e)
    {policy : ConstructorPolicy} {d : Operation.Draft}
    (planned : d ∈ p.expectedMembers policy [⟨.entity, id⟩]) : d.ownerId = e.id := by
  obtain ⟨v, first, inside⟩ := List.mem_flatMap.mp planned
  have visited : v ∈ p.visitsOf ⟨.entity, id⟩ := by
    simpa [Project.visits] using mem_of_mem_eraseDupsBy _ first
  have owner : v.owner = e := by
    obtain ⟨_, e', found', which⟩ | ⟨kind, _⟩ := visitsOf_cases visited
    · cases found.symm.trans found'
      obtain rfl | ⟨a, -, rfl⟩ := which <;> rfl
    · cases kind
  rw [Visit.members_owner inside, owner]

theorem expectedMembers_attribute {id : Id} {e : Entity} {a : Attribute}
    (found : p.attribute? id = some (e, a)) (policy : ConstructorPolicy) :
    p.expectedMembers policy [⟨.attribute, id⟩] = Visit.members policy (.attribute e a) := by
  have visits : p.visits [⟨.attribute, id⟩] = [.attribute e a] := by
    simp [Project.visits, visitsOf, found]
  rw [expectedMembers, visits, firstVisits_distinct (by simp), List.flatMap_singleton]

theorem expectedMembers_entity {id : Id} {e : Entity} (found : p.entity? id = some e)
    (distinct : (e.attributes.map (·.id)).Nodup) (policy : ConstructorPolicy) :
    p.expectedMembers policy [⟨.entity, id⟩] =
      Visit.members policy (.entity e) ++
        e.attributes.flatMap fun a => Visit.members policy (.attribute e a) := by
  have visits : p.visits [⟨.entity, id⟩] = .entity e :: e.attributes.map (.attribute e) := by
    simp [Project.visits, visitsOf, found]
  have refs : ((p.visits [⟨.entity, id⟩]).map Visit.ref).Nodup := by
    have kinds : (e.attributes.map (.attribute e)).map Visit.ref =
        (e.attributes.map (·.id)).map (ElementRef.mk .attribute) := by
      rw [List.map_map, List.map_map]
      rfl
    rw [visits, List.map_cons, kinds, List.nodup_cons]
    refine ⟨by simp [Visit.ref], distinct.map fun _ _ same => ?_⟩
    exact (ElementRef.mk.inj same).2
  rw [expectedMembers, firstVisits_distinct refs, visits, List.flatMap_cons, List.flatMap_map]

end Project

/-! ### What is planned -/

theorem inserts_iff (policy : ConstructorPolicy) (e : Entity) :
    policy.inserts (!e.constructor.parameters.isEmpty) ↔
      ¬(policy = .requireMandatory ∧ (e.attributes.filter fun a => a.type.isMandatory) = []) := by
  have parameters : e.constructor.parameters.isEmpty ↔
      (e.attributes.filter fun a => a.type.isMandatory) = [] := by
    rw [List.isEmpty_iff, Entity.constructor, List.map_eq_nil_iff]
    rfl
  cases policy with
  | requireMandatory => simp [ConstructorPolicy.inserts, ← parameters]
  | always => simp [ConstructorPolicy.inserts]

theorem Project.visits_owned {p : Project} (owned : p.Owned) {selection : List ElementRef} {e : Entity}
    {a : Attribute} (visited : .attribute e a ∈ p.visits selection) : a.ownerId = e.id := by
  obtain ⟨_, member, impossible | ⟨_, inside, same⟩⟩ := visits_cases visited
  · cases impossible
  · cases same
    exact (owned e member).1 a inside

theorem Visit.batches_members {policy : ConstructorPolicy} {v : Visit}
    (owned : ∀ e a, v = .attribute e a → a.ownerId = e.id) :
    (v.batches policy).flatMap (·.members) = v.members policy := by
  cases v with
  | entity e =>
    by_cases inserted : policy.inserts (!e.constructor.parameters.isEmpty)
    · simp only [batches, members]
      rw [if_pos inserted, if_neg ((inserts_iff policy e).mp inserted), List.flatMap_singleton]
      rfl
    · have omitted := Classical.not_not.mp (mt (inserts_iff policy e).mpr inserted)
      simp only [batches, members]
      rw [if_neg inserted, if_pos omitted]
      rfl
  | «attribute» e a =>
    simp only [batches, members, List.flatMap_singleton, Batch.ofAttribute, Attribute.accessors,
      Attribute.getter, Attribute.setter, owned e a rfl]
    rfl

theorem plan_members {p : Project} (owned : p.Owned) (policy : ConstructorPolicy)
    (selection : List ElementRef) :
    (Plan.ofSelection p policy selection).batches.flatMap (·.members) =
      p.expectedMembers policy selection := by
  rw [plan_batches, List.flatMap_assoc, Project.expectedMembers]
  have each : ∀ v ∈ firstVisits (p.visits selection),
      (v.batches policy).flatMap (·.members) = v.members policy := by
    intro v first
    have visited := mem_of_mem_eraseDupsBy _ first
    refine Visit.batches_members fun e a same => ?_
    subst same
    exact Project.visits_owned owned visited
  rw [List.flatMap_def, List.flatMap_def, List.map_congr_left each]

/-! ### What is inserted -/

namespace Host

variable {h : Host} {policy : ConstructorPolicy} {selection : List ElementRef}

theorem requested_adopted :
    (h.requested policy selection).map FieldInsertion.adopted =
      (h.batches policy selection).flatMap (·.members) := by
  rw [requested, List.map_flatMap, List.flatMap_def, List.flatMap_def]
  have each : ∀ b ∈ h.batches policy selection,
      b.insertions.map FieldInsertion.adopted = b.members := by
    intro b member
    have owners := (identified_batch member).2
    rw [Batch.insertions, List.map_map]
    refine map_eq_self fun op hop => ?_
    rw [Function.comp_apply, FieldInsertion.adopted, ← owners op hop]
  rw [List.map_congr_left each]

theorem members_drafts :
    ((h.batches policy selection).flatMap (·.members)).map Operation.draft =
      (Plan.ofSelection h.reader policy selection).batches.flatMap (·.members) := by
  have drafts := Batch.identify_drafts (Plan.ofSelection h.reader policy selection).batches h.supply
  rw [← drafts, List.flatMap_map, List.map_flatMap]
  rfl

/-- A request that succeeds appends to the operations of each entity, in order, the members that
the selection calls for, and changes nothing else. -/
theorem generate_members {p : Project} {policy : Policy} {r : Repository}
    (reach : Repository.Reachable p policy r) {supply : Supply} {options : Options}
    {selection : List ElementRef} {report : Report} {h' : Host}
    (run : generate options selection { repository := r, supply } = (.ok report, h')) :
    ∃ ops : List Operation,
      ops.map Operation.draft = r.project.expectedMembers options.constructorPolicy selection ∧
      (∀ op ∈ ops, (r.project.entity? op.ownerId).isSome) ∧
      h'.repository.project = r.project.appendAll ops := by
  let h : Host := { repository := r, supply }
  obtain ⟨owners, appended⟩ := Project.insertAll_ok (generate_inserts (h := h) rfl run)
  rw [requested_adopted] at appended
  refine ⟨_, ?_, ?_, appended⟩
  · rw [members_drafts]
    exact plan_members (Repository.reachable_owned reach) options.constructorPolicy selection
  · intro op member
    rw [← requested_adopted] at member
    obtain ⟨i, requested, rfl⟩ := List.mem_map.mp member
    exact owners i requested

/-- A class reached through one of its attributes, and then twice, with a class between that is not
there. -/
theorem generate_members_sample :
    let h : Host := { repository := .ofProject Sample.project {}, supply := ⟨Nat.repr, 0, ""⟩ }
    let selection : List ElementRef :=
      [⟨.attribute, "car-plate"⟩, ⟨.entity, "gone"⟩, ⟨.entity, "car"⟩, ⟨.entity, "car"⟩]
    ∃ report h' ops, generate {} selection h = (.ok report, h') ∧
      ops.map Operation.draft = h.repository.project.expectedMembers .requireMandatory selection ∧
      ops.map (·.name) =
        ["getPlate", "setPlate", "__construct", "getEngine", "setEngine", "getColor", "setColor"] ∧
      (∀ op ∈ ops, (h.repository.project.entity? op.ownerId).isSome) ∧
      h'.repository.project = h.repository.project.appendAll ops := by
  intro h selection
  have accepted : (generate {} selection h).1.isOk := by decide +kernel
  have names : (h.repository.project.expectedMembers .requireMandatory selection).map (·.name) =
      ["getPlate", "setPlate", "__construct", "getEngine", "setEngine", "getColor", "setColor"] := by
    decide +kernel
  rcases run : generate {} selection h with ⟨e | report, h'⟩
  · rw [run] at accepted
    cases accepted
  · obtain ⟨ops, drafts, owners, project⟩ := generate_members .start run
    rw [← drafts, List.map_map] at names
    exact ⟨report, h', ops, rfl, drafts, names, owners, project⟩

end Host

end Accessors
