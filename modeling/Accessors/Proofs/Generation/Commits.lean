import Accessors.Proofs.Generation.Batches
import Accessors.Proofs.Visits

/-!
# Batch after batch

A request in transactions of its own for each batch is a trace of commands (`Commits`), as far as it
gets: `generate_trace` gives the trace of a request that succeeds, and the trace before the batch
that was refused. `commits_project` compares the trace with all insertions made at once. However a
request is cut, it leads from one reachable repository to another (`generate_reachable`).
-/

namespace Accessors

/-! ### Planned batches -/

theorem planned_cases {reader : Project} {policy : ConstructorPolicy} {selection : List ElementRef}
    {b : Batch Operation.Draft} (h : b ∈ (Plan.ofSelection reader policy selection).batches) :
    (∃ e, b = .ofEntity e) ∨ ∃ a, b = .ofAttribute a := by
  rw [plan_batches] at h
  obtain ⟨v, -, member⟩ := List.mem_flatMap.mp h
  cases v with
  | entity e =>
    rw [Visit.batches] at member
    split at member
    · exact Or.inl ⟨e, List.mem_singleton.mp member⟩
    · cases member
  | «attribute» e a => exact Or.inr ⟨a, List.mem_singleton.mp member⟩

theorem planned_batch {reader : Project} {policy : ConstructorPolicy} {selection : List ElementRef}
    {b : Batch Operation.Draft} (h : b ∈ (Plan.ofSelection reader policy selection).batches) :
    b.members ≠ [] ∧ ∀ d ∈ b.members, d.ownerId = b.ownerId := by
  obtain ⟨e, rfl⟩ | ⟨a, rfl⟩ := planned_cases h
  · simp [Batch.ofEntity, Entity.constructor]
  · simp [Batch.ofAttribute, Attribute.accessors, Attribute.getter, Attribute.setter]

namespace Host

theorem identified_batch {h : Host} {policy : ConstructorPolicy} {selection : List ElementRef}
    {b : Batch Operation} (member : b ∈ h.batches policy selection) :
    b.members ≠ [] ∧ ∀ op ∈ b.members, op.ownerId = b.ownerId := by
  have drafts := Batch.identify_drafts (Plan.ofSelection h.reader policy selection).batches h.supply
  have planned : b.map Operation.draft ∈ (Plan.ofSelection h.reader policy selection).batches := by
    rw [← drafts]
    exact List.mem_map_of_mem member
  obtain ⟨nonempty, owners⟩ := planned_batch planned
  constructor
  · intro empty
    exact nonempty (by rw [Batch.map, empty]; rfl)
  · intro op hop
    exact owners op.draft (List.mem_map_of_mem hop)

/-! ### The trace -/

open Accessors.Action

theorem commit_eq (b : Batch Operation) :
    commit b.ownerId b.kind.label b.members =
      transact b.kind.label (Transaction.stageEach b.insertions) := by
  rw [commit, Transaction.stageAll_eq]
  rfl

/-- Batches committed one after another, each as one command. -/
inductive Commits : Host → List (Batch Operation) → List EditCommand → Host → Prop where
  | nil (h : Host) : Commits h [] [] h
  | cons {h h₁ h₂ : Host} {b : Batch Operation} {rest : List (Batch Operation)} {c : EditCommand}
      {cs : List EditCommand} :
      c.label = b.kind.label → c.insertions = b.insertions →
      Repository.submit c h.repository = (.ok (), h₁.repository) → h₁.builder = h.builder →
      Commits h₁ rest cs h₂ → Commits h (b :: rest) (c :: cs) h₂

theorem commits_builder {h h' : Host} {batches : List (Batch Operation)} {cs : List EditCommand}
    (trace : Commits h batches cs h') : h'.builder = h.builder := by
  induction trace with
  | nil => rfl
  | cons _ _ _ same _ ih => rw [ih, same]

theorem commits_project {h h' : Host} {batches : List (Batch Operation)} {cs : List EditCommand}
    (trace : Commits h batches cs h') :
    h.repository.project.insertAll h.repository.policy (batches.flatMap Batch.insertions) =
        .ok h'.repository.project ∧
      h'.repository.policy = h.repository.policy ∧
      cs.flatMap (·.insertions) = batches.flatMap Batch.insertions ∧
      h'.repository.undoStack = cs.reverse ++ h.repository.undoStack := by
  induction trace with
  | nil => exact ⟨rfl, rfl, rfl, rfl⟩
  | @cons h h₁ h₂ b rest c cs _ inserts submitted _ _ ih =>
    obtain ⟨q, inserted, after⟩ := Repository.submit_ok submitted
    rw [after] at ih
    obtain ⟨project, policy, flat, stack⟩ := ih
    refine ⟨?_, policy, ?_, ?_⟩
    · rw [List.flatMap_cons, Project.insertAll_append, ← inserts, inserted]
      exact project
    · rw [List.flatMap_cons, List.flatMap_cons, inserts, flat]
    · rw [stack, List.reverse_cons, List.append_assoc]
      rfl

theorem commitMembers_cons (applied : Nat) (b : Batch Operation) (rest : List (Batch Operation))
    (h : Host) :
    commitMembers applied (b :: rest) h =
      match transact b.kind.label (Transaction.stageEach b.insertions) h with
      | (.error source, h₁) => (.error (.rejected b.kind.label applied source), h₁)
      | (.ok receipt, h₁) =>
        match commitMembers (applied + receipt.toList.length) rest h₁ with
        | (.error e, h₂) => (.error e, h₂)
        | (.ok receipts, h₂) => (.ok (receipt.toList ++ receipts), h₂) := by
  rw [commitMembers, commit_eq, bind_apply, mapError_apply]
  rcases transact b.kind.label (Transaction.stageEach b.insertions) h with ⟨source | receipt, h₁⟩
  · rfl
  · simp only [mapError_ok, bind_apply]
    rcases commitMembers (applied + receipt.toList.length) rest h₁ with ⟨e | receipts, h₂⟩ <;> rfl

/-- A request in transactions of their own: either all batches were committed, or those before the
first that was refused. -/
theorem commitMembers_trace {h h' : Host} (new : h.builder = {}) {batches : List (Batch Operation)}
    (nonempty : ∀ b ∈ batches, b.members ≠ []) {applied : Nat}
    {result : Except GenerateError (List Receipt)} (run : commitMembers applied batches h = (result, h')) :
    (∃ cs, Commits h batches cs h' ∧ result = .ok (cs.map EditCommand.receipt)) ∨
    ∃ done b rest cs h₁ source, batches = done ++ b :: rest ∧ Commits h done cs h₁ ∧
      transact b.kind.label (Transaction.stageEach b.insertions) h₁ = (.error source, h') ∧
      result = .error (.rejected b.kind.label (applied + cs.length) source) := by
  induction batches generalizing h applied result with
  | nil =>
    cases run
    exact Or.inl ⟨[], .nil _, rfl⟩
  | cons b rest ih =>
    have filled : b.insertions ≠ [] := by
      simpa [Batch.insertions] using nonempty b List.mem_cons_self
    rw [commitMembers_cons] at run
    rcases first : transact b.kind.label (Transaction.stageEach b.insertions) h with ⟨source | receipt, h₁⟩
    · rw [first] at run
      obtain ⟨rfl, rfl⟩ := Prod.mk.inj run
      exact Or.inr ⟨[], b, rest, [], h, source, rfl, .nil h, first, rfl⟩
    · obtain ⟨c, rfl, label, inserts, submitted, same⟩ := transact_ok new filled first
      rw [first] at run
      dsimp only at run
      have rest_nonempty := fun b' member => nonempty b' (List.mem_cons_of_mem _ member)
      rcases later : commitMembers (applied + 1) rest h₁ with ⟨e | receipts, h₂⟩
      all_goals
        rw [show (some c.receipt).toList.length = 1 from rfl, later] at run
        obtain ⟨rfl, rfl⟩ := Prod.mk.inj run
        have cases := ih (same.trans new) rest_nonempty later
      · obtain ⟨cs, _, impossible⟩ | ⟨done, b', rest', cs, h₃, source, split, trace, refused, failed⟩ := cases
        · cases impossible
        · refine Or.inr ⟨b :: done, b', rest', c :: cs, h₃, source, by rw [split]; rfl,
            .cons label inserts submitted same trace, refused, ?_⟩
          rw [failed, List.length_cons, Nat.add_assoc, Nat.add_comm 1]
      · obtain ⟨cs, trace, done⟩ | ⟨_, _, _, _, _, _, _, _, _, impossible⟩ := cases
        · refine Or.inl ⟨c :: cs, .cons label inserts submitted same trace, ?_⟩
          rw [Except.ok.inj done]
          rfl
        · cases impossible

/-- A request in transactions of their own is a trace of its batches, up to the one that is
refused. -/
theorem generate_trace {policy : ConstructorPolicy} {selection : List ElementRef} {h h' : Host}
    (new : h.builder = {}) {result : Except GenerateError Report}
    (run : generate ⟨policy, .perMember⟩ selection h = (result, h')) :
    (∃ cs, Commits (h.drawn policy selection) (h.batches policy selection) cs h' ∧
      result = .ok ((Plan.ofSelection h.reader policy selection).report (cs.map EditCommand.receipt))) ∨
    ∃ done b rest cs h₁ source, h.batches policy selection = done ++ b :: rest ∧
      Commits (h.drawn policy selection) done cs h₁ ∧
      transact b.kind.label (Transaction.stageEach b.insertions) h₁ = (.error source, h') ∧
      result = .error (.rejected b.kind.label cs.length source) := by
  have nonempty : ∀ b ∈ h.batches policy selection, b.members ≠ [] :=
    fun _ member => (identified_batch member).1
  rw [generate_apply] at run
  simp only [commitAll] at run
  rcases committed : commitMembers 0 (h.batches policy selection) (h.drawn policy selection) with
    ⟨e | receipts, after⟩
  all_goals
    rw [committed] at run
    obtain ⟨rfl, rfl⟩ := Prod.mk.inj run
  · obtain ⟨_, _, impossible⟩ | ⟨done, b, rest, cs, h₁, source, split, trace, refused, failed⟩ :=
      commitMembers_trace (h := h.drawn policy selection) new nonempty committed
    · cases impossible
    · rw [Nat.zero_add] at failed
      cases failed
      exact Or.inr ⟨done, b, rest, cs, h₁, source, split, trace, refused, rfl⟩
  · obtain ⟨cs, trace, done⟩ | ⟨_, _, _, _, _, _, _, _, _, impossible⟩ :=
      commitMembers_trace (h := h.drawn policy selection) new nonempty committed
    · cases done
      exact Or.inl ⟨cs, trace, rfl⟩
    · cases impossible

/-! ### Reachable repositories -/

variable {p : Project} {policy : Policy}

theorem outcome_reachable {h h' : Host} {result : Except RepositoryError (Option Receipt)}
    (reach : Repository.Reachable p policy h.repository) (outcome : h.Outcome result h') :
    Repository.Reachable p policy h'.repository := by
  cases outcome with
  | failed e s => exact reach
  | empty s => exact reach
  | submitted c s r run =>
    have next := Repository.Reaches.call (.submit c) reach trivial
    rw [Repository.after, run] at next
    exact next

theorem commitMembers_reachable {h : Host} (reach : Repository.Reachable p policy h.repository)
    (applied : Nat) (batches : List (Batch Operation)) :
    Repository.Reachable p policy (commitMembers applied batches h).2.repository := by
  induction batches generalizing h applied with
  | nil => exact reach
  | cons b rest ih =>
    rw [commitMembers_cons]
    rcases first : transact b.kind.label (Transaction.stageEach b.insertions) h with
      ⟨source | receipt, h₁⟩
    · exact outcome_reachable reach (transact_outcome first)
    · have later := ih (outcome_reachable reach (transact_outcome first))
        (applied + receipt.toList.length)
      dsimp only
      rcases run : commitMembers (applied + receipt.toList.length) rest h₁ with
        ⟨e | receipts, h₂⟩ <;> rwa [run] at later

/-- A request makes of a repository nothing that commands could not make of it, whether it succeeds
or fails. -/
theorem generate_reachable {h : Host} (reach : Repository.Reachable p policy h.repository)
    (options : Options) (selection : List ElementRef) :
    Repository.Reachable p policy (generate options selection h).2.repository := by
  obtain ⟨constructorPolicy, granularity⟩ := options
  cases granularity with
  | perRequest =>
    rw [generate_request]
    rcases run : transact requestLabel _ (h.drawn constructorPolicy selection) with ⟨_ | _, h'⟩
    all_goals
      have outcome := transact_outcome run
      exact outcome_reachable (h := h.drawn constructorPolicy selection) reach outcome
  | perMember =>
    have committed := commitMembers_reachable (h := h.drawn constructorPolicy selection) reach 0
      (h.batches constructorPolicy selection)
    rw [generate_apply]
    simp only [commitAll]
    rcases run : commitMembers 0 _ _ with ⟨_ | _, h'⟩ <;> rwa [run] at committed

end Host

end Accessors
