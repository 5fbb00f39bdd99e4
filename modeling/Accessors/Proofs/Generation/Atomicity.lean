import Accessors.Proofs.Builder
import Accessors.Proofs.Generation.Batches
import Accessors.Proofs.Reachable
import Accessors.Sample

/-!
# All or nothing

What fails, and what submits nothing, leaves the repository as it was: a command, undo and redo, a
transaction, and a request that is one transaction. `failure_leaves_repository` says so for every
host, whatever model answers its look-ups and whatever was done with its builder.
-/

namespace Accessors

namespace Host

open Accessors.Action

/-- A transaction for which nothing was staged submits nothing, whatever was done with its
builder. -/
theorem transact_nothing {h : Host} (made : h.builder.Made) (label : String) :
    (transact label (Transaction.stageEach []) h).2.repository = h.repository := by
  cases stage : h.builder.stage with
  | idle =>
    have new := Builder.made_idle made stage
    have empty : (([] : List FieldInsertion).map (·.element.id)).Nodup := List.nodup_nil
    rw [transact_distinct new empty, Transaction.submit_opened_nil]
  | started current =>
    rw [transact_apply]
    simp [Transaction.start, Builder.start, stage]
  | ended current =>
    rw [transact_apply]
    simp [Transaction.start, Builder.start, stage]

theorem batches_insertions_nil {h : Host} {policy : ConstructorPolicy} {selection : List ElementRef}
    (none : (Plan.ofSelection h.reader policy selection).batches.flatMap (·.members) = []) :
    (h.batches policy selection).flatMap Batch.insertions = [] := by
  rw [← Batch.identify_drafts (Plan.ofSelection h.reader policy selection).batches h.supply] at none
  rw [List.flatMap_eq_nil_iff] at none ⊢
  intro b member
  have empty := none (b.map Operation.draft) (List.mem_map_of_mem member)
  rw [Batch.insertions, List.map_eq_nil_iff.mp empty]
  rfl

variable {policy : ConstructorPolicy} {selection : List ElementRef} {h h' : Host}

theorem generate_request_error {e : GenerateError}
    (run : generate ⟨policy, .perRequest⟩ selection h = (.error e, h')) :
    (∃ source, e = .rejected requestLabel 0 source) ∧ h'.repository = h.repository := by
  rw [generate_request] at run
  split at run
  · rename_i source h'' transacted
    cases run
    have unchanged := outcome_unchanged (transact_outcome transacted) (Or.inr ⟨source, rfl⟩)
    exact ⟨⟨source, rfl⟩, unchanged⟩
  · cases run

theorem generate_request_undoStack {report : Report}
    (run : generate ⟨policy, .perRequest⟩ selection h = (.ok report, h')) :
    h'.repository.undoStack = h.repository.undoStack ∨
      ∃ c, h'.repository.undoStack = c :: h.repository.undoStack := by
  rw [generate_request] at run
  split at run
  · cases run
  · rename_i receipt h'' transacted
    cases run
    have stack := outcome_undoStack (transact_outcome transacted)
    exact stack

theorem generate_request_nothing (made : h.builder.Made)
    (none : (Plan.ofSelection h.reader policy selection).batches.flatMap (·.members) = []) :
    (generate ⟨policy, .perRequest⟩ selection h).2.repository = h.repository := by
  have unchanged := transact_nothing (h := h.drawn policy selection) made requestLabel
  rw [generate_request, batches_insertions_nil none]
  split
  · rename_i source h' transacted
    rwa [transacted] at unchanged
  · rename_i receipt h' transacted
    rwa [transacted] at unchanged

/-- What fails or submits nothing leaves the whole repository as it was, and a request that is one
transaction adds at most one command to the history. -/
theorem failure_leaves_repository (h : Host) :
    (∀ c e r', Repository.submit c h.repository = (.error e, r') → r' = h.repository) ∧
    (∀ e r', Repository.undo h.repository = (.error e, r') → r' = h.repository) ∧
    (∀ e r', Repository.redo h.repository = (.error e, r') → r' = h.repository) ∧
    (∀ (t : Transaction) result h', t.submit h = (result, h') →
      (result = .ok none ∨ ∃ e, result = .error e) → h'.repository = h.repository) ∧
    (∀ target label operations result h', commit target label operations h = (result, h') →
      (result = .ok none ∨ ∃ e, result = .error e) → h'.repository = h.repository) ∧
    ∀ policy selection,
      (∀ e h', generate ⟨policy, .perRequest⟩ selection h = (.error e, h') →
        (∃ source, e = .rejected requestLabel 0 source) ∧ h'.repository = h.repository) ∧
      (h.builder.Made →
        (Plan.ofSelection h.reader policy selection).batches.flatMap (·.members) = [] →
        (generate ⟨policy, .perRequest⟩ selection h).2.repository = h.repository) ∧
      ∀ report h', generate ⟨policy, .perRequest⟩ selection h = (.ok report, h') →
        h'.repository.undoStack = h.repository.undoStack ∨
          ∃ c, h'.repository.undoStack = c :: h.repository.undoStack := by
  refine ⟨fun _ _ _ => Repository.submit_error, fun _ _ => Repository.undo_error,
    fun _ _ => Repository.redo_error, ?_, ?_, fun policy selection =>
      ⟨fun _ _ => generate_request_error, generate_request_nothing, fun _ _ => generate_request_undoStack⟩⟩
  · intro t result h' run nothing
    exact outcome_unchanged (Transaction.submit_outcome run) nothing
  · intro target label operations result h' run nothing
    exact outcome_unchanged (transact_outcome run) nothing

/-- A request for a class that only the view has, and what else fails or submits nothing there. -/
theorem failure_leaves_repository_sample :
    let ghost : Entity := ⟨"ghost", "Ghost", [], [], none⟩
    let h : Host :=
      { repository := .ofProject Sample.project {}
        supply := ⟨fun _ => "x", 0, ""⟩
        view := some ⟨"stale", "Stale", [ghost]⟩ }
    let c : EditCommand := ⟨"c", "edit", "", "",
      [⟨"car", .operations, ⟨"x", "start", .public, "", []⟩⟩,
        ⟨"ghost", .operations, ⟨"y", "haunt", .public, "", []⟩⟩]⟩
    let selection : List ElementRef := [⟨.entity, "ghost"⟩]
    (Repository.submit c h.repository).2 = h.repository ∧
      (Repository.undo h.repository).2 = h.repository ∧
      (Repository.redo h.repository).2 = h.repository ∧
      ((Transaction.opened "edit" []).submit h).2.repository = h.repository ∧
      (commit "ghost" "edit" [⟨"y", "haunt", .public, "", []⟩] h).2.repository = h.repository ∧
      (generate ⟨.always, .perRequest⟩ selection h).1 =
        .error (.rejected requestLabel 0 (.entityNotFound "ghost")) ∧
      (generate ⟨.always, .perRequest⟩ selection h).2.repository = h.repository ∧
      (generate ⟨.requireMandatory, .perRequest⟩ selection h).2.repository = h.repository := by
  intro ghost h c selection
  obtain ⟨submit, undo, redo, transaction, committed, request⟩ := failure_leaves_repository h
  have refused : (Repository.submit c h.repository).1 = .error (.entityNotFound "ghost") := rfl
  have empty : (Transaction.opened "edit" []).submit h = (.ok none, _) :=
    Transaction.submit_opened_nil "edit" h
  have rejected : (commit "ghost" "edit" [⟨"y", "haunt", .public, "", []⟩] h).1 =
      .error (.entityNotFound "ghost") := rfl
  have failed : (generate ⟨.always, .perRequest⟩ selection h).1 =
      .error (.rejected requestLabel 0 (.entityNotFound "ghost")) := rfl
  refine ⟨submit c _ _ (Prod.ext refused rfl), undo .nothingToUndo _ rfl, redo .nothingToRedo _ rfl,
    transaction _ _ _ empty (Or.inl rfl), ?_, failed, ?_, ?_⟩
  · exact committed _ _ _ _ _ (Prod.ext rejected rfl) (Or.inr ⟨_, rfl⟩)
  · exact ((request .always selection).1 _ _ (Prod.ext failed rfl)).2
  · exact (request .requireMandatory selection).2.1 .new rfl

end Host

end Accessors
