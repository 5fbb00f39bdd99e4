import Accessors.Proofs.Reachable
import Accessors.Sample

/-!
# Linear history

A repository whose commands bring identifiers of their own behaves as a list of commands with a
cursor: the model is the loaded one with the commands before the cursor applied, undo and redo move
the cursor, and an accepted command replaces what lies behind it. `reachable_linearHistory` states
this for all runs. Undo does not restore a copy but filters by identifier, so the proof keeps the model
before every command, applied or undone (`Repository.Linear`).
-/

namespace Accessors

/-- An accepted command inserts no identifier that an operation of the model has. -/
def Call.FreshIn (r : Repository) : Call → Prop
  | .submit c =>
    (Repository.submit c r).1 = .ok () → ∀ id ∈ c.insertedIds, id ∉ r.project.operationIds
  | _ => True

def Project.replay (policy : Policy) (p : Project) (cs : List EditCommand) :
    Except RepositoryError Project :=
  cs.foldlM (fun q c => q.insertAll policy c.insertions) p

/-- The repository holds `p` with the first `k` of the commands `cs` applied, and can apply the
others again. -/
structure Timeline (p : Project) (policy : Policy) (cs : List EditCommand) (k : Nat)
    (r : Repository) : Prop where
  cursor_le : k ≤ cs.length
  project : p.normalize.replay policy (cs.take k) = .ok r.project
  /-- What the applied commands leave in each entity. -/
  operations : r.project =
    p.normalize.appendAll ((cs.take k).flatMap fun c => c.insertions.map FieldInsertion.adopted)
  undoStack : r.undoStack = (cs.take k).reverse
  redoStack : r.redoStack = cs.drop k
  policy : r.policy = policy

theorem Project.replay_concat {policy : Policy} {p q s : Project} {cs : List EditCommand}
    {c : EditCommand} (before : p.replay policy cs = .ok q)
    (last : q.insertAll policy c.insertions = .ok s) : p.replay policy (cs ++ [c]) = .ok s := by
  unfold replay at before ⊢
  rw [List.foldlM_append, before]
  simp only [bind, Except.bind, List.foldlM_cons, last]
  rfl

theorem Project.replay_eq (policy : Policy) (p : Project) (cs : List EditCommand) :
    p.replay policy cs = p.insertAll policy (cs.flatMap (·.insertions)) := by
  induction cs generalizing p with
  | nil => rfl
  | cons c cs ih =>
    rw [List.flatMap_cons, insertAll_append, replay, List.foldlM_cons]
    exact congrArg (p.insertAll policy c.insertions).bind (funext ih)

theorem Project.replay_ok {policy : Policy} {p q : Project} {cs : List EditCommand}
    (applied : p.replay policy cs = .ok q) :
    q = p.appendAll (cs.flatMap fun c => c.insertions.map FieldInsertion.adopted) := by
  rw [replay_eq] at applied
  rw [(insertAll_ok applied).2, List.map_flatMap]

/-! ### From model to model -/

/-- Commands lead from one model to another, each with identifiers that are new where it is
applied. -/
inductive Leads (policy : Policy) : Project → List EditCommand → Project → Prop where
  | nil (p : Project) : Leads policy p [] p
  | cons {p q s : Project} {c : EditCommand} {cs : List EditCommand} :
      p.insertAll policy c.insertions = .ok q → (∀ id ∈ c.insertedIds, id ∉ p.operationIds) →
      Leads policy q cs s → Leads policy p (c :: cs) s

variable {policy : Policy} {p q s : Project} {c : EditCommand} {xs ys cs : List EditCommand}

theorem leads_cons (h : Leads policy p (c :: cs) s) :
    ∃ q, p.insertAll policy c.insertions = .ok q ∧ (∀ id ∈ c.insertedIds, id ∉ p.operationIds) ∧
      Leads policy q cs s := by
  cases h with
  | cons inserted fresh rest => exact ⟨_, inserted, fresh, rest⟩

theorem leads_append : Leads policy p (xs ++ ys) s ↔ ∃ q, Leads policy p xs q ∧ Leads policy q ys s := by
  constructor
  · intro h
    induction xs generalizing p with
    | nil => exact ⟨p, .nil p, h⟩
    | cons c xs ih =>
      obtain ⟨q, inserted, fresh, rest⟩ := leads_cons h
      obtain ⟨t, first, second⟩ := ih rest
      exact ⟨t, .cons inserted fresh first, second⟩
  · rintro ⟨q, first, second⟩
    induction first with
    | nil => exact second
    | cons inserted fresh _ ih => exact .cons inserted fresh (ih second)

theorem leads_replay (h : Leads policy p cs s) : p.replay policy cs = .ok s := by
  induction h with
  | nil p => rfl
  | cons inserted _ _ ih =>
    rw [Project.replay, List.foldlM_cons, inserted]
    exact ih

/-- Taking a command's identifiers out leads back over it. -/
theorem leads_undo (h : Leads policy p (cs ++ [c]) s) :
    ∃ q, Leads policy p cs q ∧ s.removeOperations c.insertedIds = q ∧
      q.insertAll policy c.insertions = .ok s ∧ ∀ id ∈ c.insertedIds, id ∉ q.operationIds := by
  obtain ⟨q, before, last⟩ := leads_append.mp h
  obtain ⟨t, inserted, fresh, done⟩ := leads_cons last
  cases done
  exact ⟨q, before, Project.removeOperations_insertAll inserted fresh, inserted, fresh⟩

/-! ### The invariant -/

namespace Repository

/-- The applied commands lead to the model, and the undone ones lead on from it. -/
def Linear (start : Project) (r : Repository) : Prop :=
  ∃ last, Leads r.policy start r.undoStack.reverse r.project ∧ Leads r.policy r.project r.redoStack last

variable {r : Repository} {start : Project}

theorem submit_linear (h : Linear start r) (fresh : (Call.submit c).FreshIn r) :
    Linear start (submit c r).2 := by
  obtain ⟨e, _, run⟩ | ⟨q, inserted, run⟩ := submit_cases c r
  · rwa [run]
  · obtain ⟨last, applied, _⟩ := h
    have new := fresh (by rw [run])
    rw [run]
    refine ⟨q, ?_, .nil q⟩
    rw [List.reverse_cons]
    exact leads_append.mpr ⟨r.project, applied, .cons inserted new (.nil q)⟩

theorem undo_linear (h : Linear start r) : Linear start (undo r).2 := by
  obtain ⟨_, run⟩ | ⟨c, rest, stack, run⟩ := undo_cases r
  · rwa [run]
  · obtain ⟨last, applied, undone⟩ := h
    rw [stack, List.reverse_cons] at applied
    obtain ⟨q, before, rfl, inserted, fresh⟩ := leads_undo applied
    rw [run]
    exact ⟨last, before, .cons inserted fresh undone⟩

/-- Redo succeeds wherever a command has been undone. -/
theorem redo_linear (h : Linear start r) :
    (r.redoStack = [] ∧ redo r = (.error .nothingToRedo, r)) ∨
    ∃ c rest r', r.redoStack = c :: rest ∧ redo r = (.ok c.label, r') ∧ Linear start r' ∧
      r'.undoStack = c :: r.undoStack ∧ r'.redoStack = rest ∧ r'.policy = r.policy := by
  obtain ⟨empty, run⟩ | ⟨c, rest, stack, run⟩ := redo_cases r
  · exact Or.inl ⟨empty, run⟩
  · obtain ⟨last, applied, undone⟩ := h
    rw [stack] at undone
    obtain ⟨q, inserted, fresh, onward⟩ := leads_cons undone
    obtain ⟨e, failed, _⟩ | ⟨q', again, run⟩ := run
    · rw [inserted] at failed
      cases failed
    · obtain rfl := Except.ok.inj (inserted.symm.trans again)
      refine Or.inr ⟨c, rest, _, stack, run, ⟨last, ?_, onward⟩, rfl, rfl, rfl⟩
      rw [List.reverse_cons]
      exact leads_append.mpr ⟨r.project, applied, .cons inserted fresh (.nil q)⟩

theorem after_linear (h : Linear start r) (call : Call) (fresh : call.FreshIn r) :
    Linear start (r.after call) := by
  cases call with
  | submit c => exact submit_linear h fresh
  | undo => exact undo_linear h
  | redo =>
    obtain ⟨_, run⟩ | ⟨c, rest, r', _, run, linear, _⟩ := redo_linear h
    · simpa only [after, run] using h
    · simpa only [after, run] using linear
  | select elements => exact h
  | selectPaths paths => exact h

theorem reaches_linear {s : Repository} (empty : s.undoStack = [] ∧ s.redoStack = [])
    (h : Reaches Call.FreshIn s r) : Linear s.project r := by
  induction h with
  | start => exact ⟨s.project, by rw [empty.1]; exact .nil _, by rw [empty.2]; exact .nil _⟩
  | call c _ fresh ih => exact after_linear ih c fresh

/-! ### The cursor -/

theorem linear_timeline (h : Linear p.normalize r) :
    Timeline p r.policy (r.undoStack.reverse ++ r.redoStack) r.undoStack.length r := by
  obtain ⟨last, applied, _⟩ := h
  have length : r.undoStack.length = r.undoStack.reverse.length := by simp
  have replayed : p.normalize.replay r.policy
      ((r.undoStack.reverse ++ r.redoStack).take r.undoStack.length) = .ok r.project := by
    rw [length, List.take_left]
    exact leads_replay applied
  refine ⟨by simp, replayed, Project.replay_ok replayed, ?_, ?_, rfl⟩
  · rw [length, List.take_left, List.reverse_reverse]
  · rw [length, List.drop_left]

/-- A command is refused only for an insertion that the model refuses. -/
theorem submit_timeline {k : Nat} (h : Timeline p policy cs k r) (c : EditCommand) :
    (∃ e, r.project.insertAll policy c.insertions = .error e ∧ submit c r = (.error e, r)) ∨
    ∃ r', submit c r = (.ok (), r') ∧ Timeline p policy (cs.take k ++ [c]) (k + 1) r' := by
  obtain ⟨e, failed, run⟩ | ⟨q, inserted, run⟩ := submit_cases c r
  · rw [h.policy] at failed
    exact Or.inl ⟨e, failed, run⟩
  · have length : k + 1 = (cs.take k ++ [c]).length := by
      have := h.cursor_le
      simp [Nat.min_eq_left this]
    have replayed : p.normalize.replay policy ((cs.take k ++ [c]).take (k + 1)) = .ok q := by
      rw [length, List.take_length]
      exact Project.replay_concat h.project (h.policy ▸ inserted)
    refine Or.inr ⟨_, run, by omega, replayed, Project.replay_ok replayed, ?_, ?_, h.policy⟩
    · rw [length, List.take_length, List.reverse_append, ← h.undoStack]
      rfl
    · rw [length, List.drop_length]

/-- What the repository answers at a cursor, and where each call moves the cursor. -/
structure LinearHistory (p : Project) (policy : Policy) (cs : List EditCommand) (k : Nat)
    (r : Repository) : Prop where
  timeline : Timeline p policy cs k r
  history : r.history = (cs.take k).map (·.label)
  canUndo : r.canUndo ↔ 0 < k
  canRedo : r.canRedo ↔ k < cs.length
  undo : (k = 0 ∧ undo r = (.error .nothingToUndo, r)) ∨
    ∃ j c r', k = j + 1 ∧ cs[j]? = some c ∧ undo r = (.ok c.label, r') ∧ Timeline p policy cs j r'
  redo : (k = cs.length ∧ redo r = (.error .nothingToRedo, r)) ∨
    ∃ c r', cs[k]? = some c ∧ redo r = (.ok c.label, r') ∧ Timeline p policy cs (k + 1) r'
  submit : ∀ c,
    (∃ e, r.project.insertAll policy c.insertions = .error e ∧ submit c r = (.error e, r)) ∨
    ∃ r', submit c r = (.ok (), r') ∧ Timeline p policy (cs.take k ++ [c]) (k + 1) r'
  select : ∀ elements, Timeline p policy cs k (r.select elements)
  selectPaths : ∀ paths, Timeline p policy cs k (r.selectPaths paths).2

/-- The repository is a list of commands with a cursor. -/
theorem reachable_linearHistory (h : Reaches Call.FreshIn (.ofProject p policy) r) :
    ∃ cs k, LinearHistory p policy cs k r := by
  have linear : Linear p.normalize r := reaches_linear ⟨rfl, rfl⟩ h
  have now := linear_timeline linear
  obtain rfl : r.policy = policy := reaches_policy h
  refine ⟨_, _, now, ?history, ?canUndo, ?canRedo, ?undo, ?redo, submit_timeline now, ?_, ?_⟩
  case history =>
    rw [Repository.history, ← List.map_reverse]
    simp
  case canUndo => simp [Repository.canUndo, List.length_pos_iff]
  case canRedo => simp [Repository.canRedo, List.length_pos_iff]
  case undo =>
    obtain ⟨empty, run⟩ | ⟨c, rest, stack, run⟩ := undo_cases r
    · exact Or.inl ⟨by rw [empty]; rfl, run⟩
    · have next := linear_timeline (undo_linear linear)
      rw [run] at next
      refine Or.inr ⟨rest.length, c, _, by rw [stack]; rfl, ?_, run, ?_⟩
      · simp [stack]
      · simpa [stack] using next
  case redo =>
    obtain ⟨empty, run⟩ | ⟨c, rest, r', stack, run, after, applied, undone, same⟩ := redo_linear linear
    · exact Or.inl ⟨by simp [empty], run⟩
    · have next := linear_timeline after
      refine Or.inr ⟨c, r', ?_, run, ?_⟩
      · rw [stack, List.getElem?_append_right (by simp)]
        simp
      · simpa [applied, undone, same, stack] using next
  all_goals
    exact fun _ => ⟨now.cursor_le, now.project, now.operations, now.undoStack, now.redoStack, now.policy⟩

/-- One identifier twice in a command, into two classes, undone and then applied again. -/
theorem reachable_linearHistory_sample :
    let c : EditCommand := ⟨"c", "edit", "", "",
      [⟨"car", .operations, ⟨"x", "start", .public, "", []⟩⟩,
        ⟨"engine", .operations, ⟨"x", "start", .public, "engine", []⟩⟩]⟩
    let r := (((Repository.ofProject Sample.project {}).after (.submit c)).after .undo).after .redo
    r.history = ["edit"] ∧ Reaches Call.FreshIn (.ofProject Sample.project {}) r ∧
      ∃ cs k, LinearHistory Sample.project {} cs k r := by
  intro c r
  have fresh : (Call.submit c).FreshIn (.ofProject Sample.project {}) := fun _ => by decide
  have reach : Reaches Call.FreshIn (.ofProject Sample.project {}) r :=
    .call .redo (.call .undo (.call (.submit c) .start fresh) trivial) trivial
  exact ⟨by decide, reach, reachable_linearHistory reach⟩

end Repository

end Accessors
