import Accessors.Proofs.Generation.Granularity
import Accessors.Proofs.Timeline
import Mathlib.Data.List.Induction

/-!
# How far a request gets

A request with a transaction for each batch commits the batches in order up to the first that is
refused. `generate_progress` says what is then in the model, in the history and in the report, and
that undoing as many commands as were announced gives back the model from before the request. The
commands bring identifiers of their own, so the trace of commits (`Host.Commits`) is a chain of models
(`Leads`) that undo follows backwards.
-/

namespace Accessors

/-! ### Identifiers of a grown model -/

namespace Project

variable {policy : Policy} {p q : Project}

theorem appendAll_operationIds {ops : List Operation} {id : Id}
    (h : id ∈ (p.appendAll ops).operationIds) : id ∈ p.operationIds ∨ id ∈ ops.map (·.id) := by
  obtain ⟨e, member, inside⟩ := List.mem_flatMap.mp h
  obtain ⟨i, bound, rfl⟩ := List.mem_mapIdx.mp member
  have old : id ∈ p.entities[i].operations.map (·.id) → id ∈ p.operationIds :=
    fun known => List.mem_flatMap.mpr ⟨_, List.getElem_mem bound, known⟩
  split at inside
  · rw [List.map_append, List.mem_append] at inside
    refine inside.imp old fun new => ?_
    obtain ⟨op, appended, rfl⟩ := List.mem_map.mp new
    exact List.mem_map_of_mem (List.mem_filter.mp appended).1
  · exact Or.inl (old inside)

theorem insertAll_operationIds {is : List FieldInsertion} (inserted : p.insertAll policy is = .ok q)
    {id : Id} (h : id ∈ q.operationIds) : id ∈ p.operationIds ∨ id ∈ is.map (·.element.id) := by
  obtain ⟨-, rfl⟩ := insertAll_ok inserted
  have grown := appendAll_operationIds h
  rwa [List.map_map] at grown

end Project

/-! ### Taking commands back -/

namespace Repository

def rewind : Nat → Action Repository RepositoryError (List String)
  | 0 => pure []
  | n + 1 => do
    let label ← undo
    let labels ← rewind n
    return label :: labels

theorem rewind_succ {n : Nat} {r r' s : Repository} {label : String} {labels : List String}
    (first : undo r = (.ok label, r')) (rest : rewind n r' = (.ok labels, s)) :
    rewind (n + 1) r = (.ok (label :: labels), s) := by
  rw [rewind, Action.bind_of_ok first, Action.bind_of_ok rest]
  rfl

/-- Commands that led from one model to another are taken back one by one, the last one first. -/
theorem rewind_leads {p : Project} {cs before : List EditCommand} {r : Repository}
    (leads : Leads r.policy p cs r.project) (stack : r.undoStack = cs.reverse ++ before) :
    rewind cs.length r =
      (.ok (cs.map (·.label)).reverse,
        { r with project := p, undoStack := before, redoStack := cs ++ r.redoStack }) := by
  -- on the commands from the last one on, as undo takes them
  induction cs using List.reverseRecOn generalizing r with
  | nil =>
    cases leads
    obtain rfl : r.undoStack = before := stack
    rfl
  | append_singleton cs c ih =>
    obtain ⟨q, earlier, removed, -, -⟩ := leads_undo leads
    rw [List.reverse_append] at stack
    have first : undo r = (.ok c.label,
        { r with project := q, undoStack := cs.reverse ++ before, redoStack := c :: r.redoStack }) := by
      simp only [undo, stack, List.reverse_singleton, List.cons_append, List.nil_append, removed]
    have rest := ih (r := { r with
      project := q, undoStack := cs.reverse ++ before, redoStack := c :: r.redoStack }) earlier rfl
    rw [List.length_append, List.length_singleton, rewind_succ first rest]
    simp

/-- `r'` is `r` with the batches `done` committed one after another, by the commands `cs`. -/
structure Advanced (r : Repository) (done : List (Batch Operation)) (cs : List EditCommand)
    (r' : Repository) : Prop where
  /-- The insertions of the batches were made, in order, and nothing else. -/
  project : r.project.insertAll r.policy (done.flatMap Batch.insertions) = .ok r'.project
  commands : cs.map (fun c => (c.label, c.insertions)) = done.map fun b => (b.kind.label, b.insertions)
  undoStack : r'.undoStack = cs.reverse ++ r.undoStack
  history : r'.history = r.history ++ done.map (·.kind.label)
  redoStack : r'.redoStack = if done.isEmpty then r.redoStack else []
  selection : r'.selection = r.selection
  policy : r'.policy = r.policy
  /-- As many calls of undo as there are batches all succeed and give the model back. -/
  rewound : rewind done.length r' =
    (.ok (done.map (·.kind.label)).reverse, { r with redoStack := cs ++ r'.redoStack })

end Repository

/-! ### The trace of a request -/

namespace Host

open Accessors.Action

variable {h h' : Host} {batches : List (Batch Operation)} {cs : List EditCommand}

theorem commits_commands (trace : Commits h batches cs h') :
    cs.map (fun c => (c.label, c.insertions)) = batches.map fun b => (b.kind.label, b.insertions) := by
  induction trace with
  | nil => rfl
  | cons label inserts _ _ _ ih => rw [List.map_cons, List.map_cons, label, inserts, ih]

theorem commits_selection (trace : Commits h batches cs h') :
    h'.repository.selection = h.repository.selection ∧
      h'.repository.redoStack = if batches.isEmpty then h.repository.redoStack else [] := by
  induction trace with
  | nil => exact ⟨rfl, rfl⟩
  | @cons h h₁ h₂ b rest c cs _ _ submitted _ _ ih =>
    obtain ⟨q, -, after⟩ := Repository.submit_ok submitted
    rw [after] at ih
    obtain ⟨selection, redo⟩ := ih
    refine ⟨selection, redo.trans ?_⟩
    rw [List.isEmpty_cons, if_neg Bool.false_ne_true, ite_self]

/-- With identifiers of their own, committed batches are a chain of models. -/
theorem commits_leads (trace : Commits h batches cs h')
    (distinct : ((batches.flatMap Batch.insertions).map (·.element.id)).Nodup)
    (fresh : ∀ i ∈ batches.flatMap Batch.insertions,
      i.element.id ∉ h.repository.project.operationIds) :
    Leads h.repository.policy h.repository.project cs h'.repository.project := by
  induction trace with
  | nil => exact .nil _
  | @cons h h₁ h₂ b rest c cs _ inserts submitted _ _ ih =>
    obtain ⟨q, inserted, after⟩ := Repository.submit_ok submitted
    rw [List.flatMap_cons] at distinct fresh
    rw [List.map_append, List.nodup_append] at distinct
    obtain ⟨-, later, apart⟩ := distinct
    rw [after] at ih
    refine .cons inserted ?_ (ih later fun i member known => ?_)
    · intro id member
      obtain ⟨i, inside, rfl⟩ := List.mem_map.mp member
      exact fresh i (List.mem_append_left _ (inserts ▸ inside))
    · rcases Project.insertAll_operationIds inserted known with old | new
      · exact fresh i (List.mem_append_right _ member) old
      · rw [inserts] at new
        exact apart _ new _ (List.mem_map_of_mem (f := (·.element.id)) member) rfl

theorem commits_advanced (trace : Commits h batches cs h')
    (distinct : ((batches.flatMap Batch.insertions).map (·.element.id)).Nodup)
    (fresh : ∀ i ∈ batches.flatMap Batch.insertions,
      i.element.id ∉ h.repository.project.operationIds) :
    h.repository.Advanced batches cs h'.repository := by
  obtain ⟨project, policy, -, stack⟩ := commits_project trace
  obtain ⟨selection, redo⟩ := commits_selection trace
  have commands := commits_commands trace
  have labels : cs.map (·.label) = batches.map (·.kind.label) := by
    have firsts := congrArg (List.map Prod.fst) commands
    rwa [List.map_map, List.map_map] at firsts
  have length : cs.length = batches.length := by
    simpa using congrArg List.length commands
  refine ⟨project, commands, stack, ?_, redo, selection, policy, ?_⟩
  · simp [Repository.history, stack, ← labels]
  · have leads := commits_leads trace distinct fresh
    rw [← policy] at leads
    rw [← length, Repository.rewind_leads leads stack, labels, selection, policy]

/-! ### The end of a request -/

inductive Progress (h : Host) (batches : List (Batch Operation)) :
    Except GenerateError Report × Host → Prop where
  | finished {report : Report} {h' : Host} (cs : List EditCommand) :
      h.repository.Advanced batches cs h'.repository →
      report.commands = cs.map (fun c => ⟨c.id, c.label, c.hash, c.insertions.length⟩) →
      Progress h batches (.ok report, h')
  /-- The batch `b` is refused for what it alone is refused for where the others are committed, and
  nothing of it or of a later one is in the model. -/
  | stopped {h' : Host} (done : List (Batch Operation)) (b : Batch Operation)
      (rest : List (Batch Operation)) (cs : List EditCommand) (source : RepositoryError) :
      batches = done ++ b :: rest →
      h.repository.Advanced done cs h'.repository →
      h'.repository.project.insertAll h'.repository.policy b.insertions = .error source →
      (∀ s, (commit b.ownerId b.kind.label b.members
        { repository := h'.repository, supply := s }).1 = .error source) →
      (∀ later ∈ b :: rest, ∀ op ∈ later.members, op.id ∉ h'.repository.project.operationIds) →
      Progress h batches (.error (.rejected b.kind.label done.length source), h')

theorem commit_refused {b : Batch Operation} {source : RepositoryError}
    (distinct : (b.insertions.map (·.element.id)).Nodup) (new : h.builder = {})
    (refused : h.repository.project.insertAll h.repository.policy b.insertions = .error source) :
    (commit b.ownerId b.kind.label b.members h).1 = .error source := by
  have filled : b.insertions ≠ [] := by
    intro empty
    rw [empty] at refused
    cases refused
  obtain ⟨c, s, -, inserts, submitted⟩ := Transaction.submit_opened b.kind.label filled h
  rw [commit_eq, transact_distinct new distinct, submitted]
  obtain ⟨e, failed, run⟩ | ⟨q, inserted, -⟩ := Repository.submit_cases c h.repository
  · rw [inserts, refused] at failed
    cases failed
    rw [run]
  · rw [inserts, refused] at inserted
    cases inserted

/-- A request with a transaction for each batch commits the batches before the first that is
refused, and says how many these are. -/
theorem generate_progress (h : Host) (policy : ConstructorPolicy) (selection : List ElementRef)
    (new : h.builder = {})
    (distinct : ((h.batches policy selection).flatMap fun b => b.members.map (·.id)).Nodup)
    (fresh : ∀ b ∈ h.batches policy selection, ∀ op ∈ b.members,
      op.id ∉ h.repository.project.operationIds) :
    h.Progress (h.batches policy selection) (generate ⟨policy, .perMember⟩ selection h) := by
  rw [← requested_ids] at distinct
  have unknown : ∀ i ∈ h.requested policy selection,
      i.element.id ∉ h.repository.project.operationIds := by
    intro i member
    obtain ⟨b, planned, inside⟩ := List.mem_flatMap.mp member
    obtain ⟨op, hop, rfl⟩ := List.mem_map.mp inside
    exact fresh b planned op hop
  rcases run : generate ⟨policy, .perMember⟩ selection h with ⟨result, h'⟩
  obtain ⟨cs, trace, rfl⟩ | ⟨done, b, rest, cs, h₁, source, split, trace, refused, rfl⟩ :=
    generate_trace new run
  · exact .finished cs (commits_advanced (h := h.drawn policy selection) trace distinct unknown) rfl
  · have parts : h.requested policy selection =
        done.flatMap Batch.insertions ++ (b :: rest).flatMap Batch.insertions := by
      rw [requested, split, List.flatMap_append]
    rw [parts, List.map_append, List.nodup_append] at distinct
    rw [parts] at unknown
    obtain ⟨before, later, apart⟩ := distinct
    have advanced : h.repository.Advanced done cs h₁.repository :=
      commits_advanced (h := h.drawn policy selection) trace before fun i member =>
        unknown i (List.mem_append_left _ member)
    have length : cs.length = done.length := by
      simpa using congrArg List.length advanced.commands
    have same : h'.repository = h₁.repository :=
      outcome_unchanged (transact_outcome refused) (Or.inr ⟨source, rfl⟩)
    have own : (b.insertions.map (·.element.id)).Nodup := by
      rw [List.flatMap_cons, List.map_append] at later
      exact (List.nodup_append.mp later).1
    have alone := transact_refused ((commits_builder trace).trans new) own refused
    rw [← same] at advanced alone
    rw [length]
    refine .stopped done b rest cs source split advanced alone (fun s => commit_refused own rfl alone) ?_
    intro other member op hop known
    have planned : (⟨other.ownerId, .operations, op⟩ : FieldInsertion) ∈
        (b :: rest).flatMap Batch.insertions :=
      List.mem_flatMap.mpr ⟨other, member, List.mem_map_of_mem hop⟩
    rcases Project.insertAll_operationIds advanced.project known with old | new
    · exact unknown _ (List.mem_append_right _ planned) old
    · exact apart _ new _ (List.mem_map_of_mem (f := (·.element.id)) planned) rfl

/-- A class whose last getter is there already, with a command that can be redone: three batches
are committed before the one that is refused. All batches of another class are committed. -/
theorem generate_progress_sample :
    let color : EditCommand :=
      ⟨"c", "edit", "", "", [⟨"car", .operations, ⟨"x", "getColor", .public, "", []⟩⟩]⟩
    let undone : EditCommand :=
      ⟨"d", "drive", "", "", [⟨"car", .operations, ⟨"y", "drive", .public, "", []⟩⟩]⟩
    let r := Repository.ofProject Sample.project {}
    let h : Host :=
      { repository := ((r.after (.submit color)).after (.submit undone)).after .undo
        supply := ⟨Nat.repr, 0, ""⟩ }
    let selection : List ElementRef := [⟨.attribute, "car-plate"⟩, ⟨.entity, "car"⟩]
    let person : List ElementRef := [⟨.entity, "person"⟩]
    h.builder = {} ∧ h.repository.redoStack = [undone] ∧
      ((h.batches .requireMandatory selection).flatMap fun b => b.members.map (·.id)).Nodup ∧
      (∀ b ∈ h.batches .requireMandatory selection, ∀ op ∈ b.members,
        op.id ∉ h.repository.project.operationIds) ∧
      (generate ⟨.requireMandatory, .perMember⟩ selection h).1 =
        .error (.rejected "generate getter & setter" 3 (.duplicateOperation "Car" "getColor")) ∧
      h.Progress (h.batches .requireMandatory selection)
        (generate ⟨.requireMandatory, .perMember⟩ selection h) ∧
      ∃ report h' cs, generate ⟨.requireMandatory, .perMember⟩ person h = (.ok report, h') ∧
        h.repository.Advanced (h.batches .requireMandatory person) cs h'.repository ∧
        report.commands = cs.map (fun c => ⟨c.id, c.label, c.hash, c.insertions.length⟩) ∧
        report.commands.map (fun r => (r.label, r.inserted)) =
          [("generate constructor", 1), ("generate getter & setter", 2),
            ("generate getter & setter", 2)] := by
  intro color undone r h selection person
  have distinct :
      ((h.batches .requireMandatory selection).flatMap fun b => b.members.map (·.id)).Nodup := by
    decide +kernel
  have fresh : ∀ b ∈ h.batches .requireMandatory selection, ∀ op ∈ b.members,
      op.id ∉ h.repository.project.operationIds := by
    decide +kernel
  have refused : (generate ⟨.requireMandatory, .perMember⟩ selection h).1 =
      .error (.rejected "generate getter & setter" 3 (.duplicateOperation "Car" "getColor")) := by
    decide +kernel
  have finished : (generate ⟨.requireMandatory, .perMember⟩ person h).1.toOption.map
      (fun report => report.commands.map fun r => (r.label, r.inserted)) =
        some [("generate constructor", 1), ("generate getter & setter", 2),
          ("generate getter & setter", 2)] := by
    decide +kernel
  have progress := generate_progress h .requireMandatory person rfl (by decide +kernel)
    (by decide +kernel)
  refine ⟨rfl, rfl, distinct, fresh, refused,
    generate_progress h .requireMandatory selection rfl distinct fresh, ?_⟩
  rcases run : generate ⟨.requireMandatory, .perMember⟩ person h with ⟨e | report, h'⟩
  · rw [run] at finished
    cases finished
  · rw [run] at finished progress
    cases progress with
    | finished cs advanced receipts =>
      exact ⟨report, h', cs, rfl, advanced, receipts, Option.some.inj finished⟩

end Host

end Accessors
