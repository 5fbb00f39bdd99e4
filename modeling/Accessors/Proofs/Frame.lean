import Accessors.Proofs.Generation.Members
import Accessors.Proofs.Generation.Session
import Mathlib.Data.List.Induction

/-!
# The frame of a model

The frame of a model is all of it but the operations of its entities. A session keeps the frame, and
in each of its models every child names the entity that contains it (`session_keeps_frame`). Look-ups,
paths and the members that a selection calls for are read off the frame, so a request plans the same
members before and after operations were added (`expectedMembers_frame`, `plan_frame`).
-/

namespace Accessors

def Entity.frame (e : Entity) : Entity := { e with operations := [] }

namespace Project

def frame (p : Project) : Project := { p with entities := p.entities.map Entity.frame }

variable {policy : Policy} {p q : Project}

/-! ### What keeps the frame -/

theorem appendAll_frame (p : Project) (ops : List Operation) : (p.appendAll ops).frame = p.frame := by
  refine congrArg (fun l => { p with entities := l }) (List.ext_getElem? fun i => ?_)
  simp only [appendAll, List.getElem?_map, List.getElem?_mapIdx, Option.map_map]
  refine congrArg (Option.map · p.entities[i]?) (funext fun e => ?_)
  simp only [Function.comp_apply]
  split <;> rfl

theorem insertAll_frame {is : List FieldInsertion} (inserted : p.insertAll policy is = .ok q) :
    q.frame = p.frame := by
  obtain ⟨-, rfl⟩ := insertAll_ok inserted
  exact appendAll_frame p _

theorem removeOperations_frame (p : Project) (ids : List Id) :
    (p.removeOperations ids).frame = p.frame := by
  simp only [frame, removeOperations, List.map_map]
  rfl

theorem frame_stable (f : Project) : Stable (fun p => p.frame = f ∧ p.Owned) fun _ => True where
  inserted := by
    rintro policy p q is ⟨same, owned⟩ - inserted
    exact ⟨(insertAll_frame inserted).trans same, insertAll_owned owned inserted⟩
  removed := by
    rintro p is ⟨same, owned⟩ -
    exact ⟨(removeOperations_frame p _).trans same, removeOperations_owned owned _⟩

theorem attribute?_owner (owned : p.Owned) {id : Id} {e : Entity} {a : Attribute}
    (found : p.attribute? id = some (e, a)) :
    ∃ owner, p.entity? a.ownerId = some owner ∧ owner.id = e.id := by
  obtain ⟨member, inside, -⟩ := attribute?_some found
  have named : a.ownerId = e.id := (owned e member).1 a inside
  have present : (p.entity? a.ownerId).isSome := by
    rw [entity?_isSome, named]
    exact List.mem_map_of_mem member
  obtain ⟨owner, first⟩ := Option.isSome_iff_exists.mp present
  exact ⟨owner, first, (entity?_id first).trans named⟩

/-! ### What is read off the frame -/

theorem entity?_frame (p : Project) (id : Id) : p.frame.entity? id = (p.entity? id).map Entity.frame :=
  List.find?_map

theorem entityNamed?_frame (p : Project) (name : String) :
    p.frame.entityNamed? name = (p.entityNamed? name).map Entity.frame := List.find?_map

theorem attribute?_frame (p : Project) (id : Id) :
    p.frame.attribute? id = (p.attribute? id).map fun (e, a) => (e.frame, a) := by
  unfold attribute?
  rw [frame, List.findSome?_map, List.map_findSome?]
  congr 1
  funext e
  simp only [Function.comp_apply, Option.map_map]
  rfl

theorem resolvePath_frame (p : Project) (path : String) : p.frame.resolvePath path = p.resolvePath path := by
  unfold resolvePath
  split
  · rw [entityNamed?_frame, Option.map_map]
    rfl
  · rw [entityNamed?_frame]
    cases p.entityNamed? _ <;> rfl

theorem selectAll_frame (p : Project) : p.frame.selectAll = p.selectAll := by
  simp only [selectAll, frame, List.map_map]
  rfl

end Project

def Visit.frame : Visit → Visit
  | .entity e => .entity e.frame
  | .attribute owner a => .attribute owner.frame a

theorem Visit.frame_ref (v : Visit) : v.frame.ref = v.ref := by cases v <;> rfl

theorem Visit.frame_members (policy : ConstructorPolicy) (v : Visit) :
    v.frame.members policy = v.members policy := by cases v <;> rfl

theorem Visit.frame_batches (policy : ConstructorPolicy) (v : Visit) :
    v.frame.batches policy = v.batches policy := by cases v <;> rfl

theorem firstVisits_frame (visits : List Visit) :
    firstVisits (visits.map Visit.frame) = (firstVisits visits).map Visit.frame := by
  have refs : ∀ l : List Visit, (l.map Visit.frame).map Visit.ref = l.map Visit.ref := by
    intro l
    rw [List.map_map]
    exact List.map_congr_left fun v _ => v.frame_ref
  -- on the visits from the last one on, as `firstVisits_concat` takes them
  induction visits using List.reverseRecOn with
  | nil => rfl
  | append_singleton visits v ih =>
    rw [List.map_append, List.map_singleton, firstVisits_concat, firstVisits_concat, refs, v.frame_ref,
      ih]
    split
    · rfl
    · rw [List.map_append, List.map_singleton]

namespace Project

theorem visitsOf_frame (p : Project) (element : ElementRef) :
    p.frame.visitsOf element = (p.visitsOf element).map Visit.frame := by
  obtain ⟨kind, id⟩ := element
  cases kind with
  | entity =>
    simp only [visitsOf, entity?_frame]
    cases p.entity? id with
    | none => rfl
    | some e =>
      simp only [Option.map_some, List.map_cons, List.map_map]
      rfl
  | «attribute» =>
    simp only [visitsOf, attribute?_frame]
    cases p.attribute? id <;> rfl
  | other => rfl

theorem visits_frame (p : Project) (selection : List ElementRef) :
    p.frame.visits selection = (p.visits selection).map Visit.frame := by
  simp only [visits, List.map_flatMap]
  congr 1
  funext element
  exact visitsOf_frame p element

/-- The members that a selection calls for do not depend on the operations that are there. -/
theorem expectedMembers_frame (p : Project) (policy : ConstructorPolicy) (selection : List ElementRef) :
    p.frame.expectedMembers policy selection = p.expectedMembers policy selection := by
  have members : Visit.members policy ∘ Visit.frame = Visit.members policy :=
    funext (Visit.frame_members policy)
  rw [expectedMembers, visits_frame, firstVisits_frame, List.flatMap_map, expectedMembers]
  exact congrArg (List.flatMap · _) members

/-- The batches of a plan do not depend on them either. -/
theorem plan_frame (p : Project) (policy : ConstructorPolicy) (selection : List ElementRef) :
    (Plan.ofSelection p.frame policy selection).batches =
      (Plan.ofSelection p policy selection).batches := by
  have batches : Visit.batches policy ∘ Visit.frame = Visit.batches policy :=
    funext (Visit.frame_batches policy)
  rw [plan_batches, visits_frame, firstVisits_frame, List.flatMap_map, plan_batches]
  exact congrArg (List.flatMap · _) batches

end Project

/-! ### Sessions -/

namespace Repository

variable {p : Project} {policy : Policy} {r : Repository}

/-- A session changes nothing but operations, whatever commands it submits, and every child names the
entity that contains it, so that the owner of each attribute is found. -/
theorem session_keeps_frame (session : Session (fun _ _ => True) (.ofProject p policy) r) :
    r.project.frame = p.normalize.frame ∧ r.project.Owned ∧
      ∀ id e a, r.project.attribute? id = some (e, a) →
        ∃ owner, r.project.entity? a.ownerId = some owner ∧ owner.id = e.id := by
  have start : (Repository.ofProject p policy).Holds
      (fun q => q.frame = p.normalize.frame ∧ q.Owned) fun _ => True :=
    ofProject_holds policy ⟨rfl, p.normalize_owned⟩
  have brings : ∀ (r : Repository) (step : Step), r.Brings (fun _ => True) step := by
    intro r step
    cases step with
    | call c => cases c <;> simp [Brings, Submits]
    | generate options selection supply => exact fun _ _ => trivial
  obtain ⟨same, owned⟩ := (session_holds (Project.frame_stable _) (fun r step _ _ => brings r step)
    start session).project
  exact ⟨same, owned, fun _ _ _ => Project.attribute?_owner owned⟩

/-- Two classes with one identifier, neither of which its children name, and commands for no owner
and for a foreign one. -/
theorem session_keeps_frame_sample :
    let p : Project := ⟨"shop", "Shop",
      [⟨"o", "Order", [⟨"a", "total", .parse "Int", "gone"⟩], [⟨"x", "save", .public, "", []⟩], none⟩,
        ⟨"o", "Offer", [⟨"b", "until", .parse "?Date", "o2"⟩], [], some "as an order"⟩]⟩
    let insert (owner : Id) : Step := .call (.submit ⟨"c", "edit", "", "",
      [⟨"o", .operations, ⟨"y", "load", .public, owner, []⟩⟩]⟩)
    let request : Step := .generate {} [⟨.attribute, "b"⟩, ⟨.entity, "o"⟩] ⟨Nat.repr, 0, ""⟩
    let r := (((((Repository.ofProject p {}).next (insert "")).next (insert "o2")).next request).next
      (.call .undo)).next (.call .redo)
    (r.project.entities.map Entity.operationNames =
      [["save", "load", "getUntil", "setUntil", "__construct", "getTotal", "setTotal"], []]) ∧
      r.project.frame = p.normalize.frame ∧ r.project.Owned ∧
      ∃ owner, r.project.entity? "o" = some owner ∧ owner.id = "o" := by
  intro p insert request r
  have names : r.project.entities.map Entity.operationNames =
      [["save", "load", "getUntil", "setUntil", "__construct", "getTotal", "setTotal"], []] := by
    decide +kernel
  have session : Session (fun _ _ => True) (.ofProject p {}) r :=
    .step (.call .redo) (.step (.call .undo) (.step request (.step (insert "o2")
      (.step (insert "") .start trivial) trivial) trivial) trivial) trivial
  obtain ⟨same, owned, owners⟩ := session_keeps_frame session
  have offered : r.project.attribute? "b" =
      some (⟨"o", "Offer", [⟨"b", "until", .parse "?Date", "o"⟩], [], some "as an order"⟩,
        ⟨"b", "until", .parse "?Date", "o"⟩) := by
    decide +kernel
  have found := owners _ _ _ offered
  exact ⟨names, same, owned, found⟩

end Repository

end Accessors
