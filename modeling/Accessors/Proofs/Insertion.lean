import Accessors.Repository

/-!
# Insertions

`insertAll_ok` says what a list of insertions that is accepted does to a model: every insertion has
its entity, and each entity gets the operations inserted for it at the end, in order.
`removeOperations_insertAll` says that taking the inserted identifiers out again gives the model
back, as long as they were new to it.
-/

namespace Accessors

/-! ### Lists -/

theorem map_eq_self {α : Type} {f : α → α} {l : List α} (same : ∀ a ∈ l, f a = a) : l.map f = l :=
  (List.map_congr_left same).trans (List.map_id l)

theorem getElem?_updateFirst {α : Type} (p : α → Bool) (f : α → α) (l : List α) (i : Nat) :
    (updateFirst p f l)[i]? = if l.findIdx p = i then l[i]?.map f else l[i]? := by
  induction l generalizing i with
  | nil => simp [updateFirst]
  | cons a rest ih =>
    rw [updateFirst, List.findIdx_cons]
    cases hp : p a with
    | true => cases i <;> simp
    | false => cases i <;> simp [ih]

theorem map_updateFirst {α β : Type} (p : α → Bool) {f : α → α} {g : α → β}
    (keeps : ∀ a, g (f a) = g a) (l : List α) : (updateFirst p f l).map g = l.map g := by
  induction l with
  | nil => rfl
  | cons a rest ih =>
    rw [updateFirst]
    split
    · simp [keeps]
    · simp [ih]

namespace Project

theorem entity?_id {p : Project} {id : Id} {e : Entity} (h : p.entity? id = some e) : e.id = id := by
  simpa using List.find?_some h

theorem entity?_mem {p : Project} {id : Id} {e : Entity} (h : p.entity? id = some e) :
    e ∈ p.entities := List.mem_of_find?_eq_some h

theorem entity?_isSome (p : Project) (id : Id) :
    (p.entity? id).isSome ↔ id ∈ p.entities.map Entity.id := by
  simp [entity?, List.find?_isSome]

theorem updateEntity_ids (p : Project) (id : Id) (op : Operation) :
    (p.updateEntity id (·.append op)).entities.map Entity.id = p.entities.map Entity.id :=
  map_updateFirst (f := fun e : Entity => e.append op) (g := Entity.id) _ (fun _ => rfl) _

def place (p : Project) (id : Id) : Nat := p.entities.findIdx (·.id == id)

theorem entity?_place (p : Project) (id : Id) : p.entity? id = p.entities[p.place id]? :=
  List.find?_eq_getElem?_findIdx

theorem place_congr {p q : Project} (ids : p.entities.map Entity.id = q.entities.map Entity.id)
    (id : Id) : p.place id = q.place id := by
  have mapped := congrArg (List.findIdx (· == id)) ids
  rw [List.findIdx_map, List.findIdx_map] at mapped
  exact mapped

theorem id_at_place {p : Project} {id : Id} {e : Entity} (h : p.entities[p.place id]? = some e) :
    e.id = id := by
  obtain ⟨bound, rfl⟩ := List.getElem?_eq_some_iff.mp h
  exact beq_iff_eq.mp (List.findIdx_getElem (w := bound))

/-! ### Growth -/

/-- The model with new operations at the end of the entities that they name as their owners; of
entities with one identifier it is the first that gets them. -/
def appendAll (p : Project) (ops : List Operation) : Project :=
  { p with
    entities := p.entities.mapIdx fun i e =>
      if p.place e.id = i then
        { e with operations := e.operations ++ ops.filter (·.ownerId == e.id) }
      else e }

theorem appendAll_nil (p : Project) : p.appendAll [] = p := by
  have same : ∀ e : Entity, { e with operations := e.operations ++ [] } = e := by
    intro e
    rw [List.append_nil]
  simp only [appendAll, List.filter_nil, same, ite_self]
  refine congrArg (fun l => { p with entities := l }) (List.ext_getElem? fun i => ?_)
  simp

theorem appendAll_updateEntity (p : Project) (id : Id) (op : Operation) (ops : List Operation) :
    (p.updateEntity id (·.append op)).appendAll ops =
      p.appendAll ({ op with ownerId := id } :: ops) := by
  have places := place_congr (updateEntity_ids p id op)
  have entry (i : Nat) : (p.updateEntity id (·.append op)).entities[i]? =
      if p.place id = i then p.entities[i]?.map (·.append op) else p.entities[i]? :=
    getElem?_updateFirst _ _ _ i
  refine congrArg (fun l => { p with entities := l }) (List.ext_getElem? fun i => ?_)
  simp only [List.getElem?_mapIdx, entry, places]
  cases found : p.entities[i]? with
  | none => simp
  | some e =>
    by_cases target : p.place id = i
    · have owner : e.id = id := id_at_place (target ▸ found)
      simp [target, owner, Entity.append]
    · by_cases first : p.place e.id = i
      · have other : id ≠ e.id := by
          rintro rfl
          exact target first
        simp [target, first, other]
      · simp [target, first]

/-! ### Accepted insertions -/

variable {policy : Policy} {p p' : Project}

theorem insert_ok {i : FieldInsertion} (h : p.insert policy i = .ok p') :
    (p.entity? i.ownerId).isSome ∧ p' = p.updateEntity i.ownerId (·.append i.element) := by
  unfold insert at h
  split at h
  · cases h
  · rename_i e found
    split at h
    · cases h
    · split at h
      · cases h
      · cases h
        exact ⟨by rw [found]; rfl, rfl⟩

theorem insertAll_append (policy : Policy) (p : Project) (xs ys : List FieldInsertion) :
    p.insertAll policy (xs ++ ys) = (p.insertAll policy xs).bind (insertAll policy · ys) := by
  induction xs generalizing p with
  | nil => rfl
  | cons i xs ih =>
    rw [List.cons_append, insertAll, insertAll]
    cases p.insert policy i with
    | error e => rfl
    | ok p => exact ih p

end Project

def FieldInsertion.adopted (i : FieldInsertion) : Operation := { i.element with ownerId := i.ownerId }

namespace Project

variable {policy : Policy} {p p' : Project}

theorem insertAll_ok {is : List FieldInsertion} (h : p.insertAll policy is = .ok p') :
    (∀ i ∈ is, (p.entity? i.ownerId).isSome) ∧ p' = p.appendAll (is.map FieldInsertion.adopted) := by
  induction is generalizing p with
  | nil =>
    cases h
    exact ⟨by simp, (appendAll_nil _).symm⟩
  | cons i is ih =>
    rw [insertAll] at h
    cases inserted : p.insert policy i with
    | error e => rw [inserted] at h; cases h
    | ok q =>
      rw [inserted] at h
      obtain ⟨owner, rfl⟩ := insert_ok inserted
      obtain ⟨owners, rfl⟩ := ih h
      refine ⟨?_, appendAll_updateEntity p i.ownerId i.element _⟩
      intro j member
      rcases List.mem_cons.mp member with rfl | member
      · exact owner
      · have := owners j member
        rwa [entity?_isSome, updateEntity_ids, ← entity?_isSome] at this

/-! ### Taking insertions back -/

def operationIds (p : Project) : List Id := p.entities.flatMap fun e => e.operations.map (·.id)

variable {ids : List Id}

theorem filter_absent (absent : ∀ id ∈ ids, id ∉ p.operationIds) {e : Entity} (he : e ∈ p.entities) :
    e.operations.filter (fun op => !ids.contains op.id) = e.operations := by
  apply List.filter_eq_self.mpr
  intro op hop
  have known : op.id ∈ p.operationIds := List.mem_flatMap.mpr ⟨e, he, List.mem_map_of_mem hop⟩
  simpa using fun member => absent op.id member known

theorem removeOperations_absent (absent : ∀ id ∈ ids, id ∉ p.operationIds) :
    p.removeOperations ids = p := by
  obtain ⟨pid, name, entities⟩ := p
  simp only [removeOperations, Project.mk.injEq, true_and]
  refine map_eq_self fun e he => ?_
  have kept : e.operations.filter (fun op => !ids.contains op.id) = e.operations :=
    filter_absent absent he
  rw [kept]

/-- Taking appended operations out takes the older ones with their identifiers out, too. -/
theorem removeOperations_appendAll {ops : List Operation} (covered : ∀ op ∈ ops, op.id ∈ ids) :
    (p.appendAll ops).removeOperations ids = p.removeOperations ids := by
  have new : ∀ id : Id, (ops.filter (·.ownerId == id)).filter (fun op => !ids.contains op.id) = [] := by
    intro id
    apply List.filter_eq_nil_iff.mpr
    intro op hop
    simpa using covered op (List.mem_filter.mp hop).1
  simp only [appendAll, removeOperations, Project.mk.injEq, true_and]
  apply List.ext_getElem?
  intro i
  simp only [List.getElem?_map, List.getElem?_mapIdx, Option.map_map]
  refine congrArg (Option.map · p.entities[i]?) (funext fun e => ?_)
  simp only [Function.comp_apply]
  split
  · simp only [List.filter_append, new e.id, List.append_nil]
  · rfl

theorem removeOperations_inserted {is : List FieldInsertion} (h : p.insertAll policy is = .ok p') :
    p'.removeOperations (is.map (·.element.id)) = p.removeOperations (is.map (·.element.id)) := by
  obtain ⟨_, rfl⟩ := insertAll_ok h
  refine removeOperations_appendAll ?_
  intro op hop
  obtain ⟨i, hi, rfl⟩ := List.mem_map.mp hop
  exact List.mem_map_of_mem (f := (·.element.id)) hi

theorem removeOperations_insertAll {is : List FieldInsertion} (h : p.insertAll policy is = .ok p')
    (fresh : ∀ id ∈ is.map (·.element.id), id ∉ p.operationIds) :
    p'.removeOperations (is.map (·.element.id)) = p := by
  rw [removeOperations_inserted h, removeOperations_absent fresh]

end Project

end Accessors
