import Accessors.Proofs.Insertion

/-!
# Reachable repositories

The calls that change a repository, and the repositories that they lead to. `submit_cases`,
`undo_cases` and `redo_cases` say all that a call can do. `reachable_owned` says that every child
names its entity as its owner, whatever commands were submitted.
-/

namespace Accessors

inductive Call where
  | submit (c : EditCommand)
  | undo
  | redo
  | select (elements : List ElementRef)
  | selectPaths (paths : List String)

namespace Repository

def after (r : Repository) : Call → Repository
  | .submit c => (submit c r).2
  | .undo => (undo r).2
  | .redo => (redo r).2
  | .select elements => r.select elements
  | .selectPaths paths => (r.selectPaths paths).2

/-- The repositories that calls lead to, each of them allowed where it is made. -/
inductive Reaches (allowed : Repository → Call → Prop) (start : Repository) : Repository → Prop where
  | start : Reaches allowed start start
  | call {r : Repository} (c : Call) :
      Reaches allowed start r → allowed r c → Reaches allowed start (r.after c)

def Reachable (p : Project) (policy : Policy) (r : Repository) : Prop :=
  Reaches (fun _ _ => True) (.ofProject p policy) r

theorem submit_cases (c : EditCommand) (r : Repository) :
    (∃ e, r.project.insertAll r.policy c.insertions = .error e ∧ submit c r = (.error e, r)) ∨
    ∃ q, r.project.insertAll r.policy c.insertions = .ok q ∧
      submit c r =
        (.ok (), { r with project := q, undoStack := c :: r.undoStack, redoStack := [] }) := by
  unfold submit
  cases r.project.insertAll r.policy c.insertions with
  | error e => exact Or.inl ⟨e, rfl, rfl⟩
  | ok q => exact Or.inr ⟨q, rfl, rfl⟩

theorem undo_cases (r : Repository) :
    (r.undoStack = [] ∧ undo r = (.error .nothingToUndo, r)) ∨
    ∃ c rest, r.undoStack = c :: rest ∧
      undo r = (.ok c.label,
        { r with
          project := r.project.removeOperations c.insertedIds
          undoStack := rest
          redoStack := c :: r.redoStack }) := by
  unfold undo
  cases r.undoStack with
  | nil => exact Or.inl ⟨rfl, rfl⟩
  | cons c rest => exact Or.inr ⟨c, rest, rfl, rfl⟩

theorem redo_cases (r : Repository) :
    (r.redoStack = [] ∧ redo r = (.error .nothingToRedo, r)) ∨
    ∃ c rest, r.redoStack = c :: rest ∧
      ((∃ e, r.project.insertAll r.policy c.insertions = .error e ∧ redo r = (.error e, r)) ∨
      ∃ q, r.project.insertAll r.policy c.insertions = .ok q ∧
        redo r = (.ok c.label,
          { r with project := q, undoStack := c :: r.undoStack, redoStack := rest })) := by
  unfold redo
  cases r.redoStack with
  | nil => exact Or.inl ⟨rfl, rfl⟩
  | cons c rest =>
    refine Or.inr ⟨c, rest, rfl, ?_⟩
    dsimp only
    cases r.project.insertAll r.policy c.insertions with
    | error e => exact Or.inl ⟨e, rfl, rfl⟩
    | ok q => exact Or.inr ⟨q, rfl, rfl⟩

theorem submit_error {c : EditCommand} {e : RepositoryError} {r r' : Repository}
    (h : submit c r = (.error e, r')) : r' = r := by
  obtain ⟨_, _, run⟩ | ⟨q, _, run⟩ := submit_cases c r <;> rw [run] at h <;> cases h
  rfl

theorem undo_error {e : RepositoryError} {r r' : Repository} (h : undo r = (.error e, r')) :
    r' = r := by
  obtain ⟨_, run⟩ | ⟨c, rest, _, run⟩ := undo_cases r <;> rw [run] at h <;> cases h
  rfl

theorem redo_error {e : RepositoryError} {r r' : Repository} (h : redo r = (.error e, r')) :
    r' = r := by
  obtain ⟨_, run⟩ | ⟨c, rest, _, ⟨_, _, run⟩ | ⟨q, _, run⟩⟩ := redo_cases r <;>
    rw [run] at h <;> cases h <;> rfl

theorem submit_ok {c : EditCommand} {r r' : Repository} (h : submit c r = (.ok (), r')) :
    ∃ q, r.project.insertAll r.policy c.insertions = .ok q ∧
      r' = { r with project := q, undoStack := c :: r.undoStack, redoStack := [] } := by
  obtain ⟨_, _, run⟩ | ⟨q, inserted, run⟩ := submit_cases c r <;> rw [run] at h <;> cases h
  exact ⟨q, inserted, rfl⟩

theorem after_policy (r : Repository) (c : Call) : (r.after c).policy = r.policy := by
  cases c with
  | submit c =>
    obtain ⟨e, _, run⟩ | ⟨q, _, run⟩ := submit_cases c r <;> simp [after, run]
  | undo =>
    obtain ⟨_, run⟩ | ⟨c, rest, _, run⟩ := undo_cases r <;> simp [after, run]
  | redo =>
    obtain ⟨_, run⟩ | ⟨c, rest, _, ⟨e, _, run⟩ | ⟨q, _, run⟩⟩ := redo_cases r <;> simp [after, run]
  | select elements => rfl
  | selectPaths paths => rfl

theorem reaches_policy {allowed : Repository → Call → Prop} {s r : Repository}
    (h : Reaches allowed s r) : r.policy = s.policy := by
  induction h with
  | start => rfl
  | call c _ _ ih => rw [after_policy, ih]

end Repository

/-! ### Owners -/

/-- Every attribute and every operation names the entity that contains it. -/
def Project.Owned (p : Project) : Prop :=
  ∀ e ∈ p.entities,
    (∀ a ∈ e.attributes, a.ownerId = e.id) ∧ ∀ op ∈ e.operations, op.ownerId = e.id

namespace Project

theorem normalize_owned (p : Project) : p.normalize.Owned := by
  intro e he
  obtain ⟨e, -, rfl⟩ := List.mem_map.mp he
  constructor
  · intro a ha
    obtain ⟨a, -, rfl⟩ := List.mem_map.mp ha
    rfl
  · intro op hop
    obtain ⟨op, -, rfl⟩ := List.mem_map.mp hop
    rfl

theorem appendAll_owned {p : Project} (h : p.Owned) (ops : List Operation) :
    (p.appendAll ops).Owned := by
  intro e he
  obtain ⟨i, hi, rfl⟩ := List.mem_mapIdx.mp he
  obtain ⟨attributes, operations⟩ := h p.entities[i] (List.getElem_mem hi)
  split
  · refine ⟨attributes, ?_⟩
    intro op hop
    rcases List.mem_append.mp hop with old | new
    · exact operations op old
    · simpa using (List.mem_filter.mp new).2
  · exact ⟨attributes, operations⟩

theorem insertAll_owned {policy : Policy} {p q : Project} {is : List FieldInsertion} (h : p.Owned)
    (run : p.insertAll policy is = .ok q) : q.Owned := by
  obtain ⟨-, rfl⟩ := insertAll_ok run
  exact appendAll_owned h _

theorem removeOperations_owned {p : Project} (h : p.Owned) (ids : List Id) :
    (p.removeOperations ids).Owned := by
  intro e he
  obtain ⟨e, member, rfl⟩ := List.mem_map.mp he
  obtain ⟨attributes, operations⟩ := h e member
  exact ⟨attributes, fun op hop => operations op (List.mem_filter.mp hop).1⟩

end Project

namespace Repository

theorem after_owned {r : Repository} (h : r.project.Owned) (c : Call) : (r.after c).project.Owned := by
  cases c with
  | submit c =>
    obtain ⟨e, _, run⟩ | ⟨q, inserted, run⟩ := submit_cases c r
    · simpa [after, run] using h
    · simpa [after, run] using Project.insertAll_owned h inserted
  | undo =>
    obtain ⟨_, run⟩ | ⟨c, rest, _, run⟩ := undo_cases r
    · simpa [after, run] using h
    · simpa [after, run] using Project.removeOperations_owned h _
  | redo =>
    obtain ⟨_, run⟩ | ⟨c, rest, _, ⟨e, _, run⟩ | ⟨q, inserted, run⟩⟩ := redo_cases r
    · simpa [after, run] using h
    · simpa [after, run] using h
    · simpa [after, run] using Project.insertAll_owned h inserted
  | select elements => exact h
  | selectPaths paths => exact h

theorem reaches_owned {allowed : Repository → Call → Prop} {s r : Repository}
    (start : s.project.Owned) (h : Reaches allowed s r) : r.project.Owned := by
  induction h with
  | start => exact start
  | call c _ _ ih => exact after_owned ih c

theorem reachable_owned {p : Project} {policy : Policy} {r : Repository}
    (h : Reachable p policy r) : r.project.Owned := reaches_owned p.normalize_owned h

end Repository

end Accessors
