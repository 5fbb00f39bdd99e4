import Accessors.Proofs.Generation.Granularity

/-!
# Sessions

A session makes calls on a repository and requests, in any order. A request submits only commands
with the insertions that it was made for (`generate_reaches`). Undo and redo take commands from the
history, so a property of models holds throughout a session once it is kept by making good insertions
and by taking them back, and the history holds only these (`session_holds`).
-/

namespace Accessors

namespace Repository

/-- A step of a session. A request reads the model of the repository, has a new builder and draws
its identifiers from a supply of its own. -/
inductive Step where
  | call (c : Call)
  | generate (options : Options) (selection : List ElementRef) (supply : Supply)

def next (r : Repository) : Step → Repository
  | .call c => r.after c
  | .generate options selection supply =>
    (Host.generate options selection { repository := r, supply }).2.repository

inductive Session (allowed : Repository → Step → Prop) (start : Repository) : Repository → Prop where
  | start : Session allowed start start
  | step {r : Repository} (s : Step) :
      Session allowed start r → allowed r s → Session allowed start (r.next s)

theorem reaches_submit {allowed : Repository → Call → Prop} {s r r' : Repository} {c : EditCommand}
    (reach : Reaches allowed s r) (safe : allowed r (.submit c)) (run : submit c r = (.ok (), r')) :
    Reaches allowed s r' := by
  have next := Reaches.call (.submit c) reach safe
  rwa [after, run] at next

end Repository

namespace Host

open Repository (Reaches)

variable {allowed : Repository → Call → Prop} {s : Repository} {h h' : Host}

theorem commits_reaches {batches : List (Batch Operation)} {cs : List EditCommand}
    (trace : Commits h batches cs h')
    (safe : ∀ r c, (∀ i ∈ c.insertions, i ∈ batches.flatMap Batch.insertions) → allowed r (.submit c))
    (reach : Reaches allowed s h.repository) : Reaches allowed s h'.repository := by
  -- on the trace; each of its commands is allowed because its insertions are those of one batch
  induction trace with
  | nil => exact reach
  | @cons h h₁ h₂ b rest c cs _ inserts submitted _ _ ih =>
    rw [List.flatMap_cons] at safe
    refine ih (fun r c within => safe r c fun i member => List.mem_append_right _ (within i member)) ?_
    exact Repository.reaches_submit reach
      (safe _ _ fun i member => List.mem_append_left _ (inserts ▸ member)) submitted

theorem transact_reaches {label : String} {is : List FieldInsertion} (new : h.builder = {})
    (safe : ∀ r c, (∀ i ∈ c.insertions, i ∈ is) → allowed r (.submit c))
    (reach : Reaches allowed s h.repository) {result : Except RepositoryError (Option Receipt)}
    (run : transact label (Transaction.stageEach is) h = (result, h')) :
    Reaches allowed s h'.repository := by
  cases result with
  | error source =>
    rwa [outcome_unchanged (transact_outcome run) (Or.inr ⟨source, rfl⟩)]
  | ok receipt =>
    cases is with
    | nil =>
      have submitted := transact_staged new run
      rw [Transaction.submit_opened_nil] at submitted
      cases submitted
      exact reach
    | cons i is =>
      obtain ⟨c, _, _, inserts, submitted, _⟩ := transact_ok new (List.cons_ne_nil i is) run
      exact Repository.reaches_submit reach (safe _ _ fun j member => inserts ▸ member) submitted

/-- A request leads only where commands lead whose insertions are among those that it is for,
whether it succeeds or fails. -/
theorem generate_reaches (new : h.builder = {}) {options : Options} {selection : List ElementRef}
    (safe : ∀ r c, (∀ i ∈ c.insertions, i ∈ h.requested options.constructorPolicy selection) →
      allowed r (.submit c))
    (reach : Reaches allowed s h.repository) :
    Reaches allowed s (generate options selection h).2.repository := by
  obtain ⟨policy, granularity⟩ := options
  cases granularity with
  | perRequest =>
    rw [generate_request]
    rcases run : transact requestLabel _ (h.drawn policy selection) with ⟨_ | _, h'⟩
    all_goals exact transact_reaches (h := h.drawn policy selection) new safe reach run
  | perMember =>
    rcases run : generate ⟨policy, .perMember⟩ selection h with ⟨result, h'⟩
    obtain ⟨cs, trace, -⟩ | ⟨done, b, rest, cs, h₁, source, split, trace, refused, -⟩ :=
      generate_trace new run
    · exact commits_reaches (h := h.drawn policy selection) trace safe reach
    · rw [outcome_unchanged (transact_outcome refused) (Or.inr ⟨source, rfl⟩)]
      refine commits_reaches (h := h.drawn policy selection) trace (fun r c within => ?_) reach
      refine safe r c fun i member => ?_
      rw [requested, split, List.flatMap_append]
      exact List.mem_append_left _ (within i member)

end Host

/-! ### What sessions keep -/

/-- Making insertions that are `good`, and taking them back, keeps a property of models. -/
structure Project.Stable (P : Project → Prop) (good : FieldInsertion → Prop) : Prop where
  inserted {policy : Policy} {p q : Project} {is : List FieldInsertion} :
    P p → (∀ i ∈ is, good i) → p.insertAll policy is = .ok q → P q
  removed {p : Project} {is : List FieldInsertion} :
    P p → (∀ i ∈ is, good i) → P (p.removeOperations (is.map (·.element.id)))

namespace Repository

variable {P : Project → Prop} {good : FieldInsertion → Prop} {r s : Repository}

/-- The model has the property, and the commands of the history have good insertions. -/
structure Holds (P : Project → Prop) (good : FieldInsertion → Prop) (r : Repository) : Prop where
  project : P r.project
  undo : ∀ c ∈ r.undoStack, ∀ i ∈ c.insertions, good i
  redo : ∀ c ∈ r.redoStack, ∀ i ∈ c.insertions, good i

theorem ofProject_holds {p : Project} (policy : Policy) (h : P p.normalize) :
    Holds P good (.ofProject p policy) := ⟨h, List.forall_mem_nil _, List.forall_mem_nil _⟩

def Submits (good : FieldInsertion → Prop) (r : Repository) : Call → Prop
  | .submit c => (submit c r).1 = .ok () → ∀ i ∈ c.insertions, good i
  | _ => True

theorem after_holds (stable : Project.Stable P good) (h : r.Holds P good) (call : Call)
    (safe : r.Submits good call) : (r.after call).Holds P good := by
  cases call with
  | submit c =>
    obtain ⟨e, _, run⟩ | ⟨q, inserted, run⟩ := submit_cases c r
    · rwa [after, run]
    · have fine := safe (by rw [run])
      rw [after, run]
      exact ⟨stable.inserted h.project fine inserted, List.forall_mem_cons.mpr ⟨fine, h.undo⟩,
        List.forall_mem_nil _⟩
  | undo =>
    obtain ⟨_, run⟩ | ⟨c, rest, stack, run⟩ := undo_cases r
    · rwa [after, run]
    · obtain ⟨fine, others⟩ := List.forall_mem_cons.mp (stack ▸ h.undo)
      rw [after, run]
      exact ⟨stable.removed h.project fine, others, List.forall_mem_cons.mpr ⟨fine, h.redo⟩⟩
  | redo =>
    obtain ⟨_, run⟩ | ⟨c, rest, stack, ⟨e, _, run⟩ | ⟨q, inserted, run⟩⟩ := redo_cases r
    · rwa [after, run]
    · rwa [after, run]
    · obtain ⟨fine, others⟩ := List.forall_mem_cons.mp (stack ▸ h.redo)
      rw [after, run]
      exact ⟨stable.inserted h.project fine inserted, List.forall_mem_cons.mpr ⟨fine, h.undo⟩, others⟩
  | select elements => exact ⟨h.project, h.undo, h.redo⟩
  | selectPaths paths => exact ⟨h.project, h.undo, h.redo⟩

theorem reaches_holds (stable : Project.Stable P good) (start : s.Holds P good)
    (reach : Reaches (Submits good) s r) : r.Holds P good := by
  induction reach with
  | start => exact start
  | call c _ safe ih => exact after_holds stable ih c safe

def Brings (good : FieldInsertion → Prop) (r : Repository) : Step → Prop
  | .call c => r.Submits good c
  | .generate options selection supply =>
    ∀ i ∈ ({ repository := r, supply } : Host).requested options.constructorPolicy selection, good i

theorem next_holds (stable : Project.Stable P good) (h : r.Holds P good) (step : Step)
    (safe : r.Brings good step) : (r.next step).Holds P good := by
  cases step with
  | call c => exact after_holds stable h c safe
  | generate options selection supply =>
    refine reaches_holds stable h ?_
    exact Host.generate_reaches rfl (fun _ _ within _ i member => safe i (within i member)) .start

/-- What good insertions keep holds throughout a session that brings only these. -/
theorem session_holds {allowed : Repository → Step → Prop} (stable : Project.Stable P good)
    (safe : ∀ r step, P r.project → allowed r step → r.Brings good step)
    (start : s.Holds P good) (session : Session allowed s r) : r.Holds P good := by
  induction session with
  | start => exact start
  | step next _ admitted ih => exact next_holds stable ih next (safe _ next ih.project admitted)

end Repository

end Accessors
