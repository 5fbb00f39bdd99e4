import Accessors.Proofs.Generation.Commits
import Accessors.Sample

/-!
# One transaction or many

A request as one transaction and the same request batch by batch come to the same end
(`granularities_agree`). Both make the insertions of all batches in order, so that each is compared
with `insertAll` of them.
-/

namespace Accessors

namespace Host

variable {h h' : Host} {policy : ConstructorPolicy} {selection : List ElementRef}

def requested (h : Host) (policy : ConstructorPolicy) (selection : List ElementRef) :
    List FieldInsertion :=
  (h.batches policy selection).flatMap Batch.insertions

theorem requested_ids (h : Host) (policy : ConstructorPolicy) (selection : List ElementRef) :
    (h.requested policy selection).map (·.element.id) =
      (h.batches policy selection).flatMap fun b => b.members.map (·.id) := by
  rw [requested, List.map_flatMap]
  congr 1
  funext b
  rw [Batch.insertions, List.map_map]
  rfl

theorem request_ok (new : h.builder = {}) {report : Report}
    (run : generate ⟨policy, .perRequest⟩ selection h = (.ok report, h')) :
    h.repository.project.insertAll h.repository.policy (h.requested policy selection) =
        .ok h'.repository.project ∧
      ∃ c : Option EditCommand,
        report = (Plan.ofSelection h.reader policy selection).report (c.toList.map EditCommand.receipt) ∧
        c.toList.flatMap (·.insertions) = h.requested policy selection ∧
        h'.repository.undoStack = c.toList ++ h.repository.undoStack := by
  rw [generate_request] at run
  split at run
  · cases run
  · rename_i receipt after transacted
    cases run
    refine ⟨transact_project (h := h.drawn policy selection) new transacted, ?_⟩
    by_cases empty : h.requested policy selection = []
    · have submitted := transact_staged (h := h.drawn policy selection) new transacted
      rw [requested] at empty
      rw [empty, Transaction.submit_opened_nil] at submitted
      cases submitted
      exact ⟨none, rfl, empty.symm, rfl⟩
    · obtain ⟨c, rfl, _, inserts, submitted, _⟩ :=
        transact_ok (h := h.drawn policy selection) new empty transacted
      obtain ⟨q, _, stacked⟩ := Repository.submit_ok submitted
      refine ⟨some c, rfl, ?_, ?_⟩
      · rw [Option.toList_some, List.flatMap_singleton, inserts, requested]
      · rw [stacked]
        rfl

theorem request_error (new : h.builder = {})
    (distinct : ((h.requested policy selection).map (·.element.id)).Nodup)
    {e : GenerateError} (run : generate ⟨policy, .perRequest⟩ selection h = (.error e, h')) :
    ∃ source, e = .rejected requestLabel 0 source ∧
      h.repository.project.insertAll h.repository.policy (h.requested policy selection) =
        .error source := by
  rw [generate_request] at run
  split at run
  · rename_i source after transacted
    cases run
    exact ⟨source, rfl, transact_refused (h := h.drawn policy selection) new distinct transacted⟩
  · cases run

/-- Batch by batch, too, all insertions are made in order. -/
theorem members_ok (new : h.builder = {}) {report : Report}
    (run : generate ⟨policy, .perMember⟩ selection h = (.ok report, h')) :
    h.repository.project.insertAll h.repository.policy (h.requested policy selection) =
        .ok h'.repository.project ∧
      ∃ cs : List EditCommand,
        report = (Plan.ofSelection h.reader policy selection).report (cs.map EditCommand.receipt) ∧
        cs.flatMap (·.insertions) = h.requested policy selection ∧
        h'.repository.undoStack = cs.reverse ++ h.repository.undoStack := by
  obtain ⟨cs, trace, done⟩ | ⟨_, _, _, _, _, _, _, _, _, impossible⟩ := generate_trace new run
  · cases done
    obtain ⟨accepted, _, inserted, stack⟩ := commits_project trace
    exact ⟨accepted, cs, rfl, inserted, stack⟩
  · cases impossible

/-- The batch that is refused is refused for what is wrong with all insertions in order: those of
the batches before it were accepted. -/
theorem members_error (new : h.builder = {})
    (distinct : ((h.requested policy selection).map (·.element.id)).Nodup)
    {e : GenerateError} (run : generate ⟨policy, .perMember⟩ selection h = (.error e, h')) :
    ∃ label applied source, e = .rejected label applied source ∧
      h.repository.project.insertAll h.repository.policy (h.requested policy selection) =
        .error source := by
  obtain ⟨_, _, impossible⟩ | ⟨done, b, rest, cs, h₁, source, split, trace, refused, failed⟩ :=
    generate_trace new run
  · cases impossible
  · cases failed
    refine ⟨_, _, source, rfl, ?_⟩
    obtain ⟨accepted, samePolicy, _, _⟩ := commits_project trace
    have accepted : h.repository.project.insertAll h.repository.policy (done.flatMap Batch.insertions) =
        .ok h₁.repository.project := accepted
    have samePolicy : h₁.repository.policy = h.repository.policy := samePolicy
    have parts : h.requested policy selection =
        done.flatMap Batch.insertions ++ (b.insertions ++ rest.flatMap Batch.insertions) := by
      rw [requested, split, List.flatMap_append, List.flatMap_cons]
    have fresh : (b.insertions.map (·.element.id)).Nodup := by
      rw [parts, List.map_append, List.map_append] at distinct
      exact (List.nodup_append.mp (List.nodup_append.mp distinct).2.1).1
    have stopped := transact_refused ((commits_builder trace).trans new) fresh refused
    rw [samePolicy] at stopped
    rw [parts, Project.insertAll_append, accepted, Except.bind, Project.insertAll_append, stopped,
      Except.bind]

/-- A request that succeeds has made all insertions in order, in whatever transactions. -/
theorem generate_inserts (new : h.builder = {}) {options : Options} {report : Report}
    (run : generate options selection h = (.ok report, h')) :
    h.repository.project.insertAll h.repository.policy
      (h.requested options.constructorPolicy selection) = .ok h'.repository.project := by
  obtain ⟨policy, granularity⟩ := options
  cases granularity with
  | perRequest => exact (request_ok new run).1
  | perMember => exact (members_ok new run).1

/-- Two answers to a request for the insertions `is` that come to the same end, the first as one
transaction and the second batch by batch. -/
inductive Agree (h : Host) (is : List FieldInsertion) :
    Except GenerateError Report × Host → Except GenerateError Report × Host → Prop where
  | ok {request members : Report} {h₁ h₂ : Host} (c : Option EditCommand) (cs : List EditCommand) :
      h.repository.project.insertAll h.repository.policy is = .ok h₁.repository.project →
      h₁.repository.project = h₂.repository.project →
      { request with commands := members.commands } = members →
      request.commands = c.toList.map EditCommand.receipt →
      members.commands = cs.map EditCommand.receipt →
      h₁.repository.undoStack = c.toList ++ h.repository.undoStack →
      h₂.repository.undoStack = cs.reverse ++ h.repository.undoStack →
      c.toList.flatMap (·.insertions) = is →
      cs.flatMap (·.insertions) = c.toList.flatMap (·.insertions) →
      Agree h is (.ok request, h₁) (.ok members, h₂)
  | error (source : RepositoryError) (label : String) (applied : Nat) (h₁ h₂ : Host) :
      h.repository.project.insertAll h.repository.policy is = .error source →
      Agree h is (.error (.rejected requestLabel 0 source), h₁)
        (.error (.rejected label applied source), h₂)

/-- A request as one transaction and the same request batch by batch come to the same end: either
both succeed, with one model, one set of counters and the same insertions in their commands, or both
are refused for one reason. -/
theorem granularities_agree (h : Host) (policy : ConstructorPolicy) (selection : List ElementRef)
    (new : h.builder = {})
    (distinct : ((h.batches policy selection).flatMap fun b => b.members.map (·.id)).Nodup) :
    h.Agree (h.requested policy selection)
      (generate ⟨policy, .perRequest⟩ selection h) (generate ⟨policy, .perMember⟩ selection h) := by
  rw [← requested_ids] at distinct
  rcases one : generate ⟨policy, .perRequest⟩ selection h with ⟨e₁ | request, h₁⟩ <;>
    rcases many : generate ⟨policy, .perMember⟩ selection h with ⟨e₂ | members, h₂⟩
  · obtain ⟨source, rfl, refused⟩ := request_error new distinct one
    obtain ⟨label, applied, source', rfl, refused'⟩ := members_error new distinct many
    cases refused.symm.trans refused'
    exact .error source label applied h₁ h₂ refused
  · obtain ⟨_, _, refused⟩ := request_error new distinct one
    obtain ⟨accepted, _⟩ := members_ok new many
    cases refused.symm.trans accepted
  · obtain ⟨accepted, _⟩ := request_ok new one
    obtain ⟨_, _, _, _, refused⟩ := members_error new distinct many
    cases refused.symm.trans accepted
  · obtain ⟨accepted, c, rfl, inserted, stack⟩ := request_ok new one
    obtain ⟨accepted', cs, rfl, inserted', stack'⟩ := members_ok new many
    have project : h₁.repository.project = h₂.repository.project :=
      Except.ok.inj (accepted.symm.trans accepted')
    exact .ok c cs accepted project rfl rfl rfl stack stack' inserted (inserted'.trans inserted.symm)

/-- A class after one of its attributes, where the last getter is there already. -/
theorem granularities_agree_sample :
    let c : EditCommand :=
      ⟨"c", "edit", "", "", [⟨"car", .operations, ⟨"x", "getColor", .public, "", []⟩⟩]⟩
    let h : Host :=
      { repository := (Repository.ofProject Sample.project {}).after (.submit c)
        supply := ⟨Nat.repr, 0, ""⟩ }
    let selection : List ElementRef := [⟨.attribute, "car-plate"⟩, ⟨.entity, "car"⟩]
    h.builder = {} ∧
      ((h.batches .requireMandatory selection).flatMap fun b => b.members.map (·.id)).Nodup ∧
      (generate ⟨.requireMandatory, .perMember⟩ selection h).1.isOk = false ∧
      h.Agree (h.requested .requireMandatory selection)
        (generate ⟨.requireMandatory, .perRequest⟩ selection h)
        (generate ⟨.requireMandatory, .perMember⟩ selection h) := by
  intro c h selection
  have distinct :
      ((h.batches .requireMandatory selection).flatMap fun b => b.members.map (·.id)).Nodup := by
    decide +kernel
  have refused : (generate ⟨.requireMandatory, .perMember⟩ selection h).1.isOk = false := by
    decide +kernel
  exact ⟨rfl, distinct, refused, granularities_agree h .requireMandatory selection rfl distinct⟩

end Host

end Accessors
