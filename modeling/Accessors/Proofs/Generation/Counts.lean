import Accessors.Proofs.Generation.Members

/-!
# What a request reports

A report counts the members of its plan (`report_members`), and a request that succeeds makes the
model larger by as many operations (`generate_appends`).
-/

namespace Accessors

/-! ### Members of a plan -/

def Batch.Kind.size : Batch.Kind → Nat
  | .constructor => 1
  | .accessors => 2

theorem planned_size {reader : Project} {policy : ConstructorPolicy} {selection : List ElementRef}
    {b : Batch Operation.Draft} (h : b ∈ (Plan.ofSelection reader policy selection).batches) :
    b.members.length = b.kind.size := by
  obtain ⟨e, rfl⟩ | ⟨a, rfl⟩ := planned_cases h
  · rfl
  · rfl

theorem length_members {batches : List (Batch Operation.Draft)}
    (sized : ∀ b ∈ batches, b.members.length = b.kind.size) :
    (batches.flatMap (·.members)).length =
      batches.countP (·.kind == .constructor) + 2 * batches.countP (·.kind == .accessors) := by
  induction batches with
  | nil => rfl
  | cons b rest ih =>
    obtain ⟨own, others⟩ := List.forall_mem_cons.mp sized
    rw [List.flatMap_cons, List.length_append, ih others, own, List.countP_cons, List.countP_cons]
    cases b.kind with
    | constructor =>
      simp only [Batch.Kind.size, beq_self_eq_true, if_true, reduceCtorEq, beq_iff_eq, if_false]
      omega
    | accessors =>
      simp only [Batch.Kind.size, beq_self_eq_true, if_true, reduceCtorEq, beq_iff_eq, if_false]
      omega

theorem report_members (reader : Project) (policy : ConstructorPolicy) (selection : List ElementRef)
    (commands : List Receipt) :
    ((Plan.ofSelection reader policy selection).report commands).members =
      ((Plan.ofSelection reader policy selection).batches.flatMap (·.members)).length := by
  rw [length_members fun _ => planned_size]
  simp only [Report.members, Plan.report, Plan.count]
  omega

/-! ### Operations of a model -/

theorem length_updateFirst {α β : Type} {p : α → Bool} {f : α → α} {g : α → List β}
    (grows : ∀ a, (g (f a)).length = (g a).length + 1) {l : List α} (found : (l.find? p).isSome) :
    ((updateFirst p f l).flatMap g).length = (l.flatMap g).length + 1 := by
  induction l with
  | nil => cases found
  | cons a rest ih =>
    rw [updateFirst]
    rw [List.find?_cons] at found
    cases first : p a with
    | true =>
      simp only [if_true, List.flatMap_cons, List.length_append, grows]
      omega
    | false =>
      rw [first] at found
      simp only [Bool.false_eq_true, if_false, List.flatMap_cons, List.length_append, ih found]
      omega

namespace Project

theorem insertAll_operationCount {policy : Policy} {p q : Project} {is : List FieldInsertion}
    (inserted : p.insertAll policy is = .ok q) : q.operationCount = p.operationCount + is.length := by
  induction is generalizing p with
  | nil =>
    cases inserted
    rfl
  | cons i is ih =>
    rw [insertAll] at inserted
    cases first : p.insert policy i with
    | error e =>
      rw [first] at inserted
      cases inserted
    | ok p' =>
      rw [first] at inserted
      obtain ⟨owner, rfl⟩ := insert_ok first
      have one : (p.updateEntity i.ownerId (·.append i.element)).operationCount = p.operationCount + 1 :=
        length_updateFirst (fun e => List.length_append) owner
      rw [ih inserted, one, List.length_cons]
      omega

end Project

/-! ### Requests -/

namespace Host

variable {h h' : Host} {options : Options} {selection : List ElementRef} {report : Report}

theorem generate_report (run : generate options selection h = (.ok report, h')) :
    ∃ commands,
      report = (Plan.ofSelection h.reader options.constructorPolicy selection).report commands := by
  rw [generate_apply] at run
  split at run
  · cases run
  · cases run
    exact ⟨_, rfl⟩

theorem length_requested (h : Host) (policy : ConstructorPolicy) (selection : List ElementRef)
    (commands : List Receipt) :
    (h.requested policy selection).length =
      ((Plan.ofSelection h.reader policy selection).report commands).members := by
  rw [report_members, ← members_drafts, List.length_map, ← requested_adopted, List.length_map]

/-- A request that succeeds appends the members that the selection calls for, and reports their
number. -/
theorem generate_appends (new : h.builder = {}) (owned : h.reader.Owned)
    (run : generate options selection h = (.ok report, h')) :
    ∃ ops : List Operation,
      ops.map Operation.draft = h.reader.expectedMembers options.constructorPolicy selection ∧
      (∀ op ∈ ops, (h.repository.project.entity? op.ownerId).isSome) ∧
      h'.repository.project = h.repository.project.appendAll ops ∧
      h'.repository.project.operationCount = h.repository.project.operationCount + ops.length ∧
      report.members = ops.length := by
  have inserted := generate_inserts new run
  obtain ⟨present, appended⟩ := Project.insertAll_ok inserted
  refine ⟨_, ?_, ?_, appended, ?_, ?_⟩
  · rw [requested_adopted, members_drafts, plan_members owned]
  · intro op member
    obtain ⟨i, requested, rfl⟩ := List.mem_map.mp member
    exact present i requested
  · rw [List.length_map]
    exact Project.insertAll_operationCount inserted
  · obtain ⟨commands, rfl⟩ := generate_report run
    rw [List.length_map, length_requested]

end Host

end Accessors
