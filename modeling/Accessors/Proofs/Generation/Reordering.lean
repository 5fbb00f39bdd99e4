import Accessors.Proofs.Generation.Accounting
import Accessors.Proofs.Generation.Rejection

/-!
# The order of a selection

Where every attribute has an identifier of its own, what is visited first under an identifier is the
same in any order of the selection, so that two orders plan the same batches in some order
(`firstVisits_perm`). What is skipped and what is a duplicate depends on the set of identifiers alone.
`generate_reordered` compares the ends of the two requests.
-/

namespace Accessors

namespace Project

variable {p : Project} {s t : List ElementRef}

theorem visited_entity {e : Entity} (visited : .entity e ∈ p.visits s) : p.entity? e.id = some e := by
  obtain ⟨element, -, leads⟩ := List.mem_flatMap.mp visited
  obtain ⟨-, e', found, same | ⟨a, -, same⟩⟩ | ⟨-, e', a, -, same⟩ := visitsOf_cases leads <;> cases same
  rwa [entity?_id found]

theorem visit_unique (unique : (p.entities.flatMap fun e => e.attributes.map (·.id)).Nodup)
    {v w : Visit} (hv : v ∈ p.visits s) (hw : w ∈ p.visits s) (same : v.ref = w.ref) : v = w := by
  obtain ⟨e, he, rfl | ⟨a, ha, rfl⟩⟩ := visits_cases hv
  all_goals obtain ⟨e', he', rfl | ⟨a', ha', rfl⟩⟩ := visits_cases hw
  · have found := visited_entity hv
    rw [(ElementRef.mk.inj same).2, visited_entity hw] at found
    cases found
    rfl
  · cases same
  · cases same
  · obtain ⟨rfl, rfl⟩ := attribute_unique unique he he' ha ha' (ElementRef.mk.inj same).2
    rfl

end Project

theorem mem_firstVisits {visits : List Visit}
    (unique : ∀ v ∈ visits, ∀ w ∈ visits, v.ref = w.ref → v = w) (v : Visit) :
    v ∈ firstVisits visits ↔ v ∈ visits := by
  constructor
  · exact mem_of_mem_eraseDupsBy visits
  · intro visited
    obtain ⟨w, first, same⟩ := List.mem_map.mp
      (((firstVisits_refs visits).2 v.ref).mpr (List.mem_map_of_mem visited))
    rwa [← unique w (mem_of_mem_eraseDupsBy visits first) v visited same]

theorem firstVisits_perm {p : Project} {s t : List ElementRef}
    (unique : (p.entities.flatMap fun e => e.attributes.map (·.id)).Nodup) (reordered : s.Perm t) :
    (firstVisits (p.visits s)).Perm (firstVisits (p.visits t)) := by
  have visits : (p.visits s).Perm (p.visits t) := reordered.flatMap_right p.visitsOf
  have distinct : ∀ l, (firstVisits l).Nodup := fun l => (firstVisits_refs l).1.of_map
  have unique : ∀ s, ∀ v ∈ p.visits s, ∀ w ∈ p.visits s, v.ref = w.ref → v = w :=
    fun _ _ hv _ hw same => Project.visit_unique unique hv hw same
  refine (List.perm_ext_iff_of_nodup (distinct _) (distinct _)).mpr fun v => ?_
  rw [mem_firstVisits (unique s), mem_firstVisits (unique t), visits.mem_iff]

theorem selectedIds_perm {s t : List ElementRef} (reordered : s.Perm t) (kind : ElementKind) :
    selectedIds kind s = selectedIds kind t :=
  List.toFinset_eq_of_perm _ _ ((reordered.filter _).map _)

/-! ### Counters -/

namespace Plan

variable {p : Project} {s t : List ElementRef} {policy : ConstructorPolicy}

theorem skipped_perm (reordered : s.Perm t) :
    (ofSelection p policy s).skipped = (ofSelection p policy t).skipped := by
  rw [(run_counted p policy s).skipped, (run_counted p policy t).skipped, Project.skips, Project.skips,
    Project.missingEntities, Project.missingEntities, Project.missingAttributes, Project.missingAttributes,
    selectedIds_perm reordered, selectedIds_perm reordered, reordered.countP_eq]

theorem count_perm (unique : (p.entities.flatMap fun e => e.attributes.map (·.id)).Nodup)
    (reordered : s.Perm t) (kind : Batch.Kind) :
    (ofSelection p policy s).count kind = (ofSelection p policy t).count kind := by
  have batches := (firstVisits_perm unique reordered).flatMap_right (Visit.batches policy)
  rw [← plan_batches, ← plan_batches] at batches
  exact batches.countP_eq _

theorem duplicates_perm (unique : (p.entities.flatMap fun e => e.attributes.map (·.id)).Nodup)
    (reordered : s.Perm t) :
    (ofSelection p policy s).duplicates = (ofSelection p policy t).duplicates := by
  have first := (run_counted p policy s).total
  have second := (run_counted p policy t).total
  rw [Project.selectedEntities, selectedIds_perm reordered, reordered.length_eq,
    count_perm unique reordered, skipped_perm reordered] at first
  rw [Project.selectedEntities] at second
  omega

theorem report_perm (policy : ConstructorPolicy)
    (unique : (p.entities.flatMap fun e => e.attributes.map (·.id)).Nodup) (reordered : s.Perm t)
    (commands : List Receipt) :
    (ofSelection p policy s).report commands = (ofSelection p policy t).report commands := by
  rw [report, report, count_perm unique reordered, count_perm unique reordered,
    skipped_perm reordered, duplicates_perm unique reordered]

end Plan

/-! ### Requests -/

theorem Project.admits_perm {p : Project} {first second : List Operation.Draft}
    (reordered : first.Perm second) (owner : Id) : p.Admits first owner ↔ p.Admits second owner := by
  simp only [Admits, ((reordered.filter _).map _).nodup_iff, reordered.mem_iff]

namespace Host

/-- How two requests end that are alike but for the order of what they append. -/
inductive Alike (r : Repository) :
    Except GenerateError Report × Host → Except GenerateError Report × Host → Prop where
  | ok {first second : Report} {h₁ h₂ : Host}
      (counters : { first with commands := second.commands } = second)
      (commands : first.commands.length = second.commands.length)
      (appended : ∀ (n : Nat) e, r.project.entities[n]? = some e → ∃ new₁ new₂ : List Operation,
        h₁.repository.project.entities[n]? = some { e with operations := e.operations ++ new₁ } ∧
        h₂.repository.project.entities[n]? = some { e with operations := e.operations ++ new₂ } ∧
        (new₁.map Operation.draft).Perm (new₂.map Operation.draft)) :
      Alike r (.ok first, h₁) (.ok second, h₂)
  | error (e₁ e₂ : GenerateError) (h₁ h₂ : Host) : Alike r (.error e₁, h₁) (.error e₂, h₂)

variable {r : Repository} {s t : List ElementRef} {supply supply₁ supply₂ : Supply} {options : Options}

theorem generate_isOk_iff (owned : r.project.Owned)
    (distinct : ((Host.batches { repository := r, supply } options.constructorPolicy s).flatMap
      fun b => b.members.map (·.id)).Nodup) :
    (generate options s { repository := r, supply }).1.isOk ↔
      (r.policy.rejectDuplicateOperations →
        ∀ owner, r.project.Admits (r.project.expectedMembers options.constructorPolicy s) owner) := by
  let h : Host := { repository := r, supply }
  have elements : ((h.requested options.constructorPolicy s).map (·.element.id)).Nodup := by
    rwa [requested_ids]
  exact (generate_isOk (h := h) rfl elements options.granularity).trans
    (requested_accepts (h := h) r.policy owned options.constructorPolicy s)

theorem appended_perm {p : Project} {ops₁ ops₂ : List Operation}
    (same : (ops₁.map Operation.draft).Perm (ops₂.map Operation.draft)) {n : Nat} {e : Entity}
    (there : p.entities[n]? = some e) : ∃ new₁ new₂ : List Operation,
      (p.appendAll ops₁).entities[n]? = some { e with operations := e.operations ++ new₁ } ∧
      (p.appendAll ops₂).entities[n]? = some { e with operations := e.operations ++ new₂ } ∧
      (new₁.map Operation.draft).Perm (new₂.map Operation.draft) := by
  have owned : ∀ ops : List Operation, (ops.filter (·.ownerId == e.id)).map Operation.draft =
      (ops.map Operation.draft).filter (·.ownerId == e.id) := by
    intro ops
    rw [List.filter_map]
    rfl
  by_cases first : p.place e.id = n
  · refine ⟨ops₁.filter (·.ownerId == e.id), ops₂.filter (·.ownerId == e.id), ?_, ?_, ?_⟩
    · simp [Project.appendAll, there, first]
    · simp [Project.appendAll, there, first]
    · rw [owned, owned]
      exact same.filter _
  · refine ⟨[], [], ?_, ?_, .nil⟩
    all_goals simp [Project.appendAll, there, first]

/-- Two orders of a selection are both refused, or have one set of counters and append the same
operations to each entity in some order, whichever distinct identifiers they draw. -/
theorem generate_reordered {p : Project} {policy : Policy} (reach : Repository.Reachable p policy r)
    (unique : (r.project.entities.flatMap fun e => e.attributes.map (·.id)).Nodup)
    (reordered : s.Perm t)
    (distinct₁ : ((Host.batches { repository := r, supply := supply₁ } options.constructorPolicy
      s).flatMap fun b => b.members.map (·.id)).Nodup)
    (distinct₂ : ((Host.batches { repository := r, supply := supply₂ } options.constructorPolicy
      t).flatMap fun b => b.members.map (·.id)).Nodup) :
    Alike r (generate options s { repository := r, supply := supply₁ })
      (generate options t { repository := r, supply := supply₂ }) := by
  let h₁ : Host := { repository := r, supply := supply₁ }
  let h₂ : Host := { repository := r, supply := supply₂ }
  have owned := Repository.reachable_owned reach
  have members : (r.project.expectedMembers options.constructorPolicy s).Perm
      (r.project.expectedMembers options.constructorPolicy t) :=
    (firstVisits_perm unique reordered).flatMap_right _
  have decides : (generate options s { repository := r, supply := supply₁ }).1.isOk ↔
      (generate options t { repository := r, supply := supply₂ }).1.isOk := by
    rw [generate_isOk_iff owned distinct₁, generate_isOk_iff owned distinct₂]
    simp only [Project.admits_perm members]
  rcases one : generate options s { repository := r, supply := supply₁ } with ⟨e₁ | first, h₁'⟩ <;>
    rcases other : generate options t { repository := r, supply := supply₂ } with ⟨e₂ | second, h₂'⟩
  · exact .error e₁ e₂ h₁' h₂'
  · rw [one, other] at decides
    cases decides.mpr rfl
  · rw [one, other] at decides
    cases decides.mp rfl
  · obtain ⟨ops₁, drafts₁, -, project₁, -⟩ := generate_appends (h := h₁) rfl owned one
    obtain ⟨ops₂, drafts₂, -, project₂, -⟩ := generate_appends (h := h₂) rfl owned other
    obtain ⟨cs₁, rfl, -, -, length₁⟩ := generate_commands (h := h₁) rfl one
    obtain ⟨cs₂, rfl, -, -, length₂⟩ := generate_commands (h := h₂) rfl other
    have counters := Plan.report_perm options.constructorPolicy unique reordered
      (cs₂.map EditCommand.receipt)
    refine .ok counters ?_ fun n e there => ?_
    · rw [length₁, length₂]
      cases options.granularity with
      | perMember => exact congrArg (fun report => report.constructors + report.getters) counters
      | perRequest => exact congrArg (fun report => if report.members = 0 then 0 else 1) counters
    · rw [project₁, project₂]
      refine appended_perm ?_ there
      rwa [drafts₁, drafts₂]

/-- An attribute before its class and after it, with identifiers of two supplies. -/
theorem generate_reordered_sample :
    let r := Repository.ofProject Sample.project {}
    let s : List ElementRef :=
      [⟨.attribute, "car-plate"⟩, ⟨.entity, "gone"⟩, ⟨.entity, "car"⟩, ⟨.entity, "car"⟩]
    let t : List ElementRef :=
      [⟨.entity, "car"⟩, ⟨.entity, "gone"⟩, ⟨.attribute, "car-plate"⟩, ⟨.entity, "car"⟩]
    let first := generate ⟨.requireMandatory, .perMember⟩ s
      { repository := r, supply := ⟨Nat.repr, 0, ""⟩ }
    let second := generate ⟨.requireMandatory, .perMember⟩ t
      { repository := r, supply := ⟨Nat.repr, 40, ""⟩ }
    (r.project.entities.flatMap fun e => e.attributes.map (·.id)).Nodup ∧ s.Perm t ∧
      [first, second].map (fun (_, h) => h.repository.project.entities.flatMap Entity.operationNames) =
        [["getPlate", "setPlate", "__construct", "getEngine", "setEngine", "getColor", "setColor"],
          ["__construct", "getEngine", "setEngine", "getPlate", "setPlate", "getColor", "setColor"]] ∧
      Alike r first second := by
  intro r s t first second
  have unique : (r.project.entities.flatMap fun e => e.attributes.map (·.id)).Nodup := by
    decide +kernel
  have reordered : s.Perm t := by decide +kernel
  have names : [first, second].map
      (fun (_, h) => h.repository.project.entities.flatMap Entity.operationNames) =
        [["getPlate", "setPlate", "__construct", "getEngine", "setEngine", "getColor", "setColor"],
          ["__construct", "getEngine", "setEngine", "getPlate", "setPlate", "getColor", "setColor"]] := by
    decide +kernel
  exact ⟨unique, reordered, names,
    generate_reordered .start unique reordered (by decide +kernel) (by decide +kernel)⟩

end Host

end Accessors
