import Accessors.Proofs.Insertion
import Mathlib.Data.List.Induction
import Mathlib.Data.List.Nodup

/-!
# What is accepted

Insertions are made one after another, and each is checked against a model that holds those before
it. `refusal?` says why one is refused in terms of the model before all of them. A list is accepted if
none of it is refused, and the error is that of the first that is (`insertAll_cases`).
-/

namespace Accessors

/-- The entity that an insertion is for, with the name that it takes there. -/
def FieldInsertion.slot (i : FieldInsertion) : Id × String := (i.ownerId, i.element.name)

namespace Project

/-- Why the model refuses an insertion once the slots `before` have been taken. -/
def refusal? (policy : Policy) (p : Project) (before : List (Id × String)) (i : FieldInsertion) :
    Option RepositoryError :=
  match p.entity? i.ownerId with
  | none => some (.entityNotFound i.ownerId)
  | some e =>
    if i.element.ownerId ≠ "" ∧ i.element.ownerId ≠ i.ownerId then
      some (.ownerMismatch i.element.name i.element.ownerId i.ownerId)
    else if policy.rejectDuplicateOperations ∧
        (i.element.name ∈ e.operationNames ∨ i.slot ∈ before) then
      some (.duplicateOperation e.name i.element.name)
    else none

def Accepts (policy : Policy) (p : Project) (is : List FieldInsertion) : Prop :=
  ∀ before i after, is = before ++ i :: after →
    p.refusal? policy (before.map FieldInsertion.slot) i = none

variable {policy : Policy} {p q : Project} {is : List FieldInsertion}

theorem entity?_appendAll (p : Project) (ops : List Operation) (id : Id) :
    (p.appendAll ops).entity? id =
      (p.entity? id).map fun e =>
        { e with operations := e.operations ++ ops.filter (·.ownerId == id) } := by
  have ids : (p.appendAll ops).entities.map Entity.id = p.entities.map Entity.id := by
    apply List.ext_getElem?
    intro i
    simp only [appendAll, List.getElem?_map, List.getElem?_mapIdx, Option.map_map]
    refine congrArg (Option.map · p.entities[i]?) (funext fun e => ?_)
    simp only [Function.comp_apply]
    split <;> rfl
  rw [entity?_place, entity?_place, place_congr ids]
  simp only [appendAll, List.getElem?_mapIdx]
  cases first : p.entities[p.place id]? with
  | none => rfl
  | some e =>
    have named : e.id = id := id_at_place first
    simp [named]

theorem hasOperationNamed_iff {e : Entity} {name : String} :
    e.hasOperationNamed name ↔ name ∈ e.operationNames := by
  simp [Entity.hasOperationNamed, Entity.operationNames]

/-- The check of one insertion in the model that the insertions before it have made. -/
theorem insert_refusal? {before : List FieldInsertion} (made : p.insertAll policy before = .ok q)
    (i : FieldInsertion) :
    q.insert policy i =
      match p.refusal? policy (before.map FieldInsertion.slot) i with
      | some e => .error e
      | none => .ok (q.updateEntity i.ownerId (·.append i.element)) := by
  obtain ⟨-, rfl⟩ := insertAll_ok made
  obtain ⟨ownerId, field, element⟩ := i
  unfold insert refusal?
  rw [entity?_appendAll]
  cases found : p.entity? ownerId with
  | none => rfl
  | some e =>
    obtain rfl : e.id = ownerId := entity?_id found
    -- the names of the owner by then are its own and those that were inserted into it
    have taken : ({ e with operations := e.operations ++
          (before.map FieldInsertion.adopted).filter (·.ownerId == e.id) } : Entity).hasOperationNamed
            element.name ↔
        element.name ∈ e.operationNames ∨
          FieldInsertion.slot ⟨e.id, field, element⟩ ∈ before.map FieldInsertion.slot := by
      simp only [hasOperationNamed_iff, Entity.operationNames, FieldInsertion.slot, List.map_append,
        List.mem_append, List.mem_map, List.mem_filter, beq_iff_eq, Prod.mk.injEq]
      refine or_congr_right ⟨?_, ?_⟩
      · rintro ⟨op, ⟨⟨j, member, rfl⟩, owner⟩, name⟩
        exact ⟨j, member, owner, name⟩
      · rintro ⟨j, member, owner, name⟩
        exact ⟨j.adopted, ⟨⟨j, member, rfl⟩, owner⟩, name⟩
    simp only [Option.map_some, Bool.and_eq_true, taken]
    split
    · rfl
    · split <;> rfl

theorem accepts_concat {i : FieldInsertion} :
    p.Accepts policy (is ++ [i]) ↔
      p.Accepts policy is ∧ p.refusal? policy (is.map FieldInsertion.slot) i = none := by
  constructor
  · intro accepted
    refine ⟨?_, accepted is i [] rfl⟩
    rintro before j after rfl
    exact accepted before j (after ++ [i]) (by simp)
  · rintro ⟨accepted, last⟩ before j after split
    rcases List.eq_nil_or_concat after with rfl | ⟨earlier, k, rfl⟩
    · obtain ⟨rfl, rfl⟩ := List.concat_inj.mp (by simpa using split)
      exact last
    · rw [List.concat_eq_append, ← List.cons_append, ← List.append_assoc] at split
      obtain ⟨rfl, -⟩ := List.append_inj' split rfl
      exact accepted before j earlier rfl

/-- Insertions are all made if none is refused, and otherwise the first that is refused gives the
error. -/
theorem insertAll_cases (policy : Policy) (p : Project) (is : List FieldInsertion) :
    (∃ q, p.insertAll policy is = .ok q ∧ p.Accepts policy is) ∨
    ∃ before i after source, is = before ++ i :: after ∧ p.Accepts policy before ∧
      p.refusal? policy (before.map FieldInsertion.slot) i = some source ∧
      p.insertAll policy is = .error source := by
  -- on the insertions from the last one on, which is checked in the model that the others make
  induction is using List.reverseRecOn with
  | nil => exact Or.inl ⟨p, rfl, fun before i after split => by simp at split⟩
  | append_singleton is i ih =>
    obtain ⟨q, made, accepted⟩ | ⟨before, j, after, source, rfl, accepted, refused, failed⟩ := ih
    · have last := insert_refusal? made i
      cases checked : p.refusal? policy (is.map FieldInsertion.slot) i with
      | none =>
        rw [checked] at last
        refine Or.inl ⟨q.updateEntity i.ownerId (·.append i.element), ?_,
          accepts_concat.mpr ⟨accepted, checked⟩⟩
        rw [insertAll_append, made, Except.bind, insertAll, last]
        rfl
      | some source =>
        rw [checked] at last
        refine Or.inr ⟨is, i, [], source, rfl, accepted, checked, ?_⟩
        rw [insertAll_append, made, Except.bind, insertAll, last]
    · refine Or.inr ⟨before, j, after ++ [i], source, by simp, accepted, refused, ?_⟩
      rw [insertAll_append, failed]
      rfl

theorem insertAll_isOk : (p.insertAll policy is).isOk ↔ p.Accepts policy is := by
  obtain ⟨q, made, accepted⟩ | ⟨before, i, after, source, split, -, refused, failed⟩ :=
    insertAll_cases policy p is
  · rw [made]
    exact iff_of_true rfl accepted
  · have stopped : ¬p.Accepts policy is := by
      intro accepted
      rw [accepted before i after split] at refused
      cases refused
    rw [failed]
    exact iff_of_false Bool.false_ne_true stopped

theorem first_refused {source : RepositoryError} (failed : p.insertAll policy is = .error source) :
    ∃ before i after, is = before ++ i :: after ∧ p.Accepts policy before ∧
      p.refusal? policy (before.map FieldInsertion.slot) i = some source := by
  obtain ⟨q, made, _⟩ | ⟨before, i, after, source', split, accepted, refused, stopped⟩ :=
    insertAll_cases policy p is
  · rw [made] at failed
    cases failed
  · rw [stopped] at failed
    cases failed
    exact ⟨before, i, after, split, accepted, refused⟩

theorem insertAll_first_refused {i : FieldInsertion} {source : RepositoryError}
    (refused : p.refusal? policy [] i = some source) (rest : List FieldInsertion) :
    p.insertAll policy (i :: rest) = .error source := by
  have checked := insert_refusal? (rfl : p.insertAll policy [] = .ok p) i
  rw [List.map_nil, refused] at checked
  rw [insertAll, checked]

/-! ### Taken names -/

/-- Every insertion has its entity, and an element that names an owner names that one. -/
def Routes (p : Project) (is : List FieldInsertion) : Prop :=
  ∀ i ∈ is, (p.entity? i.ownerId).isSome ∧ (i.element.ownerId = "" ∨ i.element.ownerId = i.ownerId)

def Taken (p : Project) (before : List (Id × String)) (slot : Id × String) : Prop :=
  slot ∈ before ∨ ∃ e, p.entity? slot.1 = some e ∧ slot.2 ∈ e.operationNames

/-- An insertion that finds its entity is refused for its name only. -/
theorem refusal?_cases (policy : Policy) {i : FieldInsertion} (routes : p.Routes is) (member : i ∈ is)
    (before : List (Id × String)) :
    (p.refusal? policy before i = none ∧ (policy.rejectDuplicateOperations → ¬p.Taken before i.slot)) ∨
    ∃ e, p.entity? i.ownerId = some e ∧ policy.rejectDuplicateOperations ∧ p.Taken before i.slot ∧
      p.refusal? policy before i = some (.duplicateOperation e.name i.element.name) := by
  obtain ⟨present, named⟩ := routes i member
  obtain ⟨e, found⟩ := Option.isSome_iff_exists.mp present
  have taken : p.Taken before i.slot ↔ i.element.name ∈ e.operationNames ∨ i.slot ∈ before := by
    have own : (∃ e', p.entity? i.slot.1 = some e' ∧ i.slot.2 ∈ e'.operationNames) ↔
        i.element.name ∈ e.operationNames := by
      rw [FieldInsertion.slot, found]
      simp
    rw [Taken, own, or_comm]
  have home : ¬(i.element.ownerId ≠ "" ∧ i.element.ownerId ≠ i.ownerId) := by
    rw [not_and_or, not_not, not_not]
    exact named
  unfold refusal?
  rw [found]
  dsimp only
  rw [if_neg home]
  split
  · rename_i clash
    exact Or.inr ⟨e, rfl, clash.1, taken.mpr clash.2, rfl⟩
  · rename_i free
    exact Or.inl ⟨rfl, fun rejects clash => free ⟨rejects, taken.mp clash⟩⟩

/-- Insertions that find their entities are accepted exactly if no two of them take one name of one
entity and none takes a name that is there. -/
theorem accepts_iff (routes : p.Routes is) :
    p.Accepts policy is ↔ (policy.rejectDuplicateOperations →
      (is.map FieldInsertion.slot).Nodup ∧ ∀ i ∈ is, ¬p.Taken [] i.slot) := by
  induction is using List.reverseRecOn with
  | nil => exact ⟨fun _ _ => by simp, fun _ before i after split => by simp at split⟩
  | append_singleton is i ih =>
    have earlier : p.Routes is := fun j member => routes j (List.mem_append_left _ member)
    have concat : (is.map FieldInsertion.slot ++ [i.slot]).Nodup ↔
        (is.map FieldInsertion.slot).Nodup ∧ i.slot ∉ is.map FieldInsertion.slot := by
      rw [← List.concat_eq_append, List.nodup_concat, and_comm]
    have taken : p.Taken (is.map FieldInsertion.slot) i.slot ↔
        i.slot ∈ is.map FieldInsertion.slot ∨ p.Taken [] i.slot := by
      simp [Taken]
    rw [accepts_concat, ih earlier, List.map_append, List.map_singleton, concat, List.forall_mem_append,
      List.forall_mem_singleton]
    obtain ⟨free, untaken⟩ | ⟨e, -, rejects, clash, refused⟩ :=
      refusal?_cases policy routes List.mem_concat_self (is.map FieldInsertion.slot)
    · rw [taken] at untaken
      rw [free]
      grind
    · rw [taken] at clash
      simp only [refused, reduceCtorEq, and_false, false_iff]
      grind

theorem not_taken_of_accepts (routes : p.Routes is) (rejects : policy.rejectDuplicateOperations)
    (accepted : p.Accepts policy is) {before after : List FieldInsertion} {i : FieldInsertion}
    (split : is = before ++ i :: after) : ¬p.Taken (before.map FieldInsertion.slot) i.slot := by
  have member : i ∈ is := by
    rw [split]
    exact List.mem_append_right _ List.mem_cons_self
  obtain ⟨-, untaken⟩ | ⟨_, _, _, _, refused⟩ := refusal?_cases policy routes member _
  · exact untaken rejects
  · rw [accepted before i after split] at refused
    cases refused

end Project

end Accessors
