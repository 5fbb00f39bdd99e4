import Accessors.Proofs.Acceptance
import Accessors.Proofs.Generation.Atomicity
import Accessors.Proofs.Generation.Members
import Mathlib.Data.Prod.Basic

/-!
# Rejected requests

A request on a repository that reads its own model is refused for duplicate names only, and
`generate_decides` says for which. All that it inserts finds its entity (`requested_routes`), so the
check of each insertion against the model as it is by then comes down to the planned names.
-/

namespace Accessors

def Operation.Draft.slot (d : Operation.Draft) : Id × String := (d.ownerId, d.name)

/-! ### Planned names -/

theorem nodup_slots {members : List Operation.Draft} :
    (members.map Operation.Draft.slot).Nodup ↔
      ∀ owner, ((members.filter (·.ownerId = owner)).map (·.name)).Nodup := by
  simp only [List.Nodup, List.pairwise_map, List.pairwise_filter]
  simp only [List.pairwise_iff_forall_sublist]
  constructor
  · intro distinct owner c d pair hc hd same
    rw [decide_eq_true_iff] at hc hd
    exact distinct pair (Prod.ext (hc.trans hd.symm) same)
  · intro distinct c d pair same
    obtain ⟨owners, names⟩ := Prod.mk.inj same
    exact distinct d.ownerId pair (decide_eq_true owners) (decide_eq_true rfl) names

/-- What is planned for an owner has distinct names, none of which is there yet. -/
def Project.Admits (p : Project) (members : List Operation.Draft) (owner : Id) : Prop :=
  ((members.filter (·.ownerId = owner)).map (·.name)).Nodup ∧
    ∀ e, p.entity? owner = some e → ∀ d ∈ members, d.ownerId = owner → d.name ∉ e.operationNames

theorem Project.admits_iff {p : Project} {members : List Operation.Draft} :
    (∀ owner, p.Admits members owner) ↔
      (members.map Operation.Draft.slot).Nodup ∧ ∀ d ∈ members, ¬p.Taken [] d.slot := by
  rw [nodup_slots]
  unfold Admits Taken
  constructor
  · intro admits
    refine ⟨fun owner => (admits owner).1, ?_⟩
    rintro d planned (none | ⟨e, found, there⟩)
    · cases none
    · exact (admits d.ownerId).2 e found d planned rfl there
  · rintro ⟨distinct, free⟩ owner
    refine ⟨distinct owner, ?_⟩
    rintro e found d planned rfl there
    exact free d planned (Or.inr ⟨e, found, there⟩)

theorem constructor_name_ne {policy : ConstructorPolicy} {e owner : Entity} {a : Attribute}
    {c d : Operation.Draft} (constructs : c ∈ Visit.members policy (.entity e))
    (accesses : d ∈ Visit.members policy (.attribute owner a)) : c.name ≠ d.name := by
  have constructor : c.name = "__construct" := by
    simp only [Visit.members] at constructs
    split at constructs
    · cases constructs
    · rw [List.mem_singleton.mp constructs]
  have head : "__construct".toList.head? = some '_' := rfl
  obtain rfl | rfl : d = _ ∨ d = _ := by simpa [Visit.members] using accesses
  all_goals
    intro same
    rw [← constructor, same] at head
    simp at head

namespace Host

variable {h h' : Host} {policy : ConstructorPolicy} {selection : List ElementRef}

/-! ### What a request inserts -/

theorem requested_drafts (owned : h.reader.Owned) (policy : ConstructorPolicy)
    (selection : List ElementRef) :
    (h.requested policy selection).map (fun i => i.adopted.draft) =
      h.reader.expectedMembers policy selection := by
  have split : (fun i : FieldInsertion => i.adopted.draft) = Operation.draft ∘ FieldInsertion.adopted := rfl
  rw [split, ← List.map_map, requested_adopted, members_drafts, plan_members owned]

theorem requested_routes (owned : h.reader.Owned) (policy : ConstructorPolicy)
    (selection : List ElementRef) : h.reader.Routes (h.requested policy selection) := by
  intro i member
  constructor
  · have planned : i.adopted.draft ∈ h.reader.expectedMembers policy selection := by
      rw [← requested_drafts owned policy selection]
      exact List.mem_map_of_mem member
    exact Project.expectedMembers_owner planned
  · obtain ⟨b, committed, inside⟩ := List.mem_flatMap.mp member
    obtain ⟨op, hop, rfl⟩ := List.mem_map.mp inside
    exact Or.inr ((identified_batch committed).2 op hop)

theorem requested_slots (owned : h.reader.Owned) (policy : ConstructorPolicy)
    (selection : List ElementRef) :
    (h.requested policy selection).map FieldInsertion.slot =
      (h.reader.expectedMembers policy selection).map Operation.Draft.slot := by
  rw [← requested_drafts owned policy selection, List.map_map]
  rfl

theorem requested_accepts (rules : Policy) (owned : h.reader.Owned) (policy : ConstructorPolicy)
    (selection : List ElementRef) :
    h.reader.Accepts rules (h.requested policy selection) ↔
      (rules.rejectDuplicateOperations →
        ∀ owner, h.reader.Admits (h.reader.expectedMembers policy selection) owner) := by
  have free : (∀ i ∈ h.requested policy selection, ¬h.reader.Taken [] i.slot) ↔
      ∀ d ∈ h.reader.expectedMembers policy selection, ¬h.reader.Taken [] d.slot := by
    rw [← requested_drafts owned policy selection, List.forall_mem_map]
    rfl
  rw [Project.accepts_iff (requested_routes owned policy selection),
    requested_slots owned policy selection, free, Project.admits_iff]

/-- A request of distinct elements fails with what is wrong with its insertions in order. -/
theorem generate_error (new : h.builder = {})
    (distinct : ((h.requested policy selection).map (·.element.id)).Nodup) {granularity : Granularity}
    {e : GenerateError} (run : generate ⟨policy, granularity⟩ selection h = (.error e, h')) :
    ∃ label applied source, e = .rejected label applied source ∧
      h.repository.project.insertAll h.repository.policy (h.requested policy selection) =
        .error source := by
  cases granularity with
  | perRequest =>
    obtain ⟨source, rejected, failed⟩ := request_error new distinct run
    exact ⟨requestLabel, 0, source, rejected, failed⟩
  | perMember => exact members_error new distinct run

theorem generate_isOk (new : h.builder = {})
    (distinct : ((h.requested policy selection).map (·.element.id)).Nodup) (granularity : Granularity) :
    (generate ⟨policy, granularity⟩ selection h).1.isOk ↔
      h.repository.project.Accepts h.repository.policy (h.requested policy selection) := by
  rw [← Project.insertAll_isOk]
  rcases run : generate ⟨policy, granularity⟩ selection h with ⟨e | report, h'⟩
  · obtain ⟨_, _, source, -, failed⟩ := generate_error new distinct run
    rw [failed]
    exact iff_of_false Bool.false_ne_true Bool.false_ne_true
  · rw [generate_inserts new run]
    exact iff_of_true rfl rfl

/-! ### The decision -/

/-- What a request that is refused was refused for: the first planned member whose name is taken. -/
inductive Refused (p : Project) (planned : List Operation.Draft) : GenerateError → Prop where
  | duplicate (label : String) (applied : Nat) {earlier later : List Operation.Draft}
      {d : Operation.Draft} {target : Entity} :
      planned = earlier ++ d :: later → p.entity? d.ownerId = some target →
      p.Taken (earlier.map Operation.Draft.slot) d.slot →
      (∀ before c after, earlier = before ++ c :: after →
        ¬p.Taken (before.map Operation.Draft.slot) c.slot) →
      Refused p planned (.rejected label applied (.duplicateOperation target.name d.name))

theorem requested_refused {rules : Policy} {source : RepositoryError} (owned : h.reader.Owned)
    (failed : h.reader.insertAll rules (h.requested policy selection) = .error source)
    (label : String) (applied : Nat) :
    Refused h.reader (h.reader.expectedMembers policy selection) (.rejected label applied source) := by
  have routes := requested_routes owned policy selection
  have drafts := requested_drafts owned policy selection
  obtain ⟨before, i, after, split, accepted, refused⟩ := Project.first_refused failed
  have member : i ∈ h.requested policy selection := by simp [split]
  have within : h.reader.Routes before := fun j early => routes j (by simp [split, early])
  obtain ⟨free, -⟩ | ⟨target, found, rejects, taken, same⟩ := Project.refusal?_cases rules routes member _
  · rw [refused] at free
    cases free
  · obtain rfl : source = _ := Option.some.inj (refused.symm.trans same)
    rw [split, List.map_append, List.map_cons] at drafts
    refine .duplicate label applied drafts.symm found ?_ ?_
    · rw [List.map_map]
      exact taken
    · intro first c rest early
      obtain ⟨firsts, others, rfl, rfl, tail⟩ := List.map_eq_append_iff.mp early
      obtain ⟨j, rests, rfl, rfl, -⟩ := List.map_eq_cons_iff.mp tail
      rw [List.map_map]
      exact Project.not_taken_of_accepts within rejects accepted rfl

theorem commits_refused {done : List (Batch Operation)} {cs : List EditCommand} {i : FieldInsertion}
    {rest : List FieldInsertion} {source : RepositoryError} (trace : Commits h done cs h')
    (filled : ∀ b ∈ done, b.members ≠ [])
    (refused : h.repository.project.refusal? h.repository.policy [] i = some source)
    (begins : done.flatMap Batch.insertions <+: i :: rest) : cs = [] := by
  obtain none | ⟨more, first, -⟩ := List.prefix_cons_iff.mp begins
  · cases trace with
    | nil => rfl
    | @cons _ _ _ b =>
      have empty : b.insertions = [] := by simp_all
      exact absurd (List.map_eq_nil_iff.mp empty) (filled b List.mem_cons_self)
  · obtain ⟨accepted, -⟩ := commits_project trace
    rw [first, Project.insertAll_first_refused refused more] at accepted
    cases accepted

/-- Where the first insertion is refused, nothing has been committed. -/
theorem generate_nothing_applied (new : h.builder = {}) {i : FieldInsertion} {rest : List FieldInsertion}
    {source : RepositoryError} (inserts : h.requested policy selection = i :: rest)
    (refused : h.repository.project.refusal? h.repository.policy [] i = some source)
    (granularity : Granularity) :
    ∃ label cause, (generate ⟨policy, granularity⟩ selection h).1 = .error (.rejected label 0 cause) := by
  rcases run : generate ⟨policy, granularity⟩ selection h with ⟨e | report, h'⟩
  · cases granularity with
    | perRequest =>
      obtain ⟨⟨cause, rfl⟩, -⟩ := generate_request_error run
      exact ⟨requestLabel, cause, rfl⟩
    | perMember =>
      obtain ⟨_, _, impossible⟩ | ⟨done, b, later, cs, h₁, cause, split, trace, -, rejected⟩ :=
        generate_trace new run
      · cases impossible
      have filled : ∀ b ∈ done, b.members ≠ [] := by
        intro b member
        have committed : b ∈ h.batches policy selection := by simp [split, member]
        exact (identified_batch committed).1
      have begins : done.flatMap Batch.insertions <+: i :: rest := by
        rw [← inserts, requested, split, List.flatMap_append]
        exact List.prefix_append _ _
      cases rejected
      cases commits_refused (h := h.drawn policy selection) trace filled refused begins
      exact ⟨_, cause, rfl⟩
  · have accepted := generate_inserts new run
    rw [inserts, Project.insertAll_first_refused refused rest] at accepted
    cases accepted

/-- With identifiers of their own the members are refused for what the first is refused for. -/
theorem generate_first_refused (new : h.builder = {})
    (distinct : ((h.requested policy selection).map (·.element.id)).Nodup)
    {i : FieldInsertion} {rest : List FieldInsertion} {source cause : RepositoryError}
    (inserts : h.requested policy selection = i :: rest)
    (refused : h.repository.project.refusal? h.repository.policy [] i = some source)
    {granularity : Granularity} {label : String} {applied : Nat}
    (run : (generate ⟨policy, granularity⟩ selection h).1 = .error (.rejected label applied cause)) :
    cause = source := by
  obtain ⟨_, _, cause', same, failed⟩ := generate_error new distinct (Prod.ext run rfl)
  cases same
  rw [inserts, Project.insertAll_first_refused refused rest] at failed
  exact (Except.error.inj failed).symm

end Host

/-! ### A class alone -/

theorem accessor_names {names : List String} :
    (names.flatMap fun name => ["get" ++ name, "set" ++ name]).Nodup ↔ names.Nodup := by
  have differ : ∀ c d : String, "get" ++ c ≠ "set" ++ d := by
    intro c d same
    have chars := congrArg String.toList same
    simp at chars
  rw [List.nodup_flatMap]
  constructor
  · rintro ⟨-, apart⟩
    refine apart.imp fun {c d} disjoint => ?_
    rintro rfl
    exact disjoint List.mem_cons_self List.mem_cons_self
  · intro distinct
    refine ⟨fun c _ => by simp [differ], distinct.imp fun {c d} other => ?_⟩
    simp [Function.onFun, differ, (differ _ _).symm, other.symm]

theorem member_names (policy : ConstructorPolicy) (e : Entity) :
    ((Visit.members policy (.entity e) ++
        e.attributes.flatMap fun a => Visit.members policy (.attribute e a)).map (·.name)).Nodup ↔
      (e.attributes.map fun a => Text.capitalize a.name).Nodup := by
  have accessors : (e.attributes.flatMap fun a => Visit.members policy (.attribute e a)).map (·.name) =
      (e.attributes.map fun a => Text.capitalize a.name).flatMap fun name =>
        ["get" ++ name, "set" ++ name] := by
    rw [List.map_flatMap, List.flatMap_map]
    rfl
  have constructor : ((Visit.members policy (.entity e)).map (·.name)).Nodup := by
    simp only [Visit.members]
    split <;> simp
  have apart : ∀ name ∈ (Visit.members policy (.entity e)).map (·.name),
      ∀ other ∈ (e.attributes.flatMap fun a => Visit.members policy (.attribute e a)).map (·.name),
        name ≠ other := by
    intro name constructs other accesses
    obtain ⟨c, hc, rfl⟩ := List.mem_map.mp constructs
    obtain ⟨d, hd, rfl⟩ := List.mem_map.mp accesses
    obtain ⟨a, -, inside⟩ := List.mem_flatMap.mp hd
    exact constructor_name_ne hc inside
  rw [List.map_append, List.nodup_append, and_iff_right constructor, and_iff_left apart, accessors,
    accessor_names]

/-- On a class without operations only its attributes can be in each other's way. -/
theorem Project.entity_admits {p : Project} {id : Id} {e : Entity} (found : p.entity? id = some e)
    (bare : e.operations = []) (distinct : (e.attributes.map (·.id)).Nodup)
    (policy : ConstructorPolicy) :
    (∀ owner, p.Admits (p.expectedMembers policy [⟨.entity, id⟩]) owner) ↔
      (e.attributes.map fun a => Text.capitalize a.name).Nodup := by
  obtain rfl : e.id = id := entity?_id found
  have owners : ∀ d ∈ p.expectedMembers policy [⟨.entity, e.id⟩], d.ownerId = e.id :=
    fun d planned => expectedMembers_entity_owner found planned
  have untaken : ∀ d ∈ p.expectedMembers policy [⟨.entity, e.id⟩], ¬p.Taken [] d.slot := by
    rintro d planned (none | ⟨target, found', there⟩)
    · cases none
    · have same : p.entity? d.ownerId = some target := found'
      rw [owners d planned, found] at same
      cases same
      simp [Entity.operationNames, bare] at there
  have slots : (p.expectedMembers policy [⟨.entity, e.id⟩]).map Operation.Draft.slot =
      ((p.expectedMembers policy [⟨.entity, e.id⟩]).map (·.name)).map (Prod.mk e.id) := by
    rw [List.map_map]
    exact List.map_congr_left fun d planned => congrArg (Prod.mk · d.name) (owners d planned)
  rw [admits_iff, and_iff_left untaken, slots, List.nodup_map_iff (Prod.mk_right_injective e.id),
    expectedMembers_entity found distinct, member_names]

namespace Host

/-- A request is refused exactly if duplicates are rejected and some planned name is taken, for the
first member whose name is, and for no other reason. -/
theorem generate_decides {p : Project} {policy : Policy} {r : Repository}
    (reach : Repository.Reachable p policy r) (supply : Supply) (options : Options)
    (selection : List ElementRef)
    (distinct : ((Host.batches { repository := r, supply } options.constructorPolicy
      selection).flatMap fun b => b.members.map (·.id)).Nodup) :
    let answer := (generate options selection { repository := r, supply }).1
    let planned := r.project.expectedMembers options.constructorPolicy selection
    (answer.isOk ↔
      policy.rejectDuplicateOperations = false ∨ ∀ owner, r.project.Admits planned owner) ∧
    (∀ e, answer = .error e → Refused r.project planned e) ∧
    (∀ e owner a, ∀ c ∈ Visit.members options.constructorPolicy (.entity e),
      ∀ d ∈ Visit.members options.constructorPolicy (.attribute owner a), c.name ≠ d.name) ∧
    ∀ id e, selection = [⟨.entity, id⟩] → r.project.entity? id = some e → e.operations = [] →
      (e.attributes.map (·.id)).Nodup →
      (answer.isOk ↔ policy.rejectDuplicateOperations = false ∨
        (e.attributes.map fun a => Text.capitalize a.name).Nodup) := by
  intro answer planned
  let h : Host := { repository := r, supply }
  have owned : h.reader.Owned := Repository.reachable_owned reach
  have same : r.policy = policy := Repository.reaches_policy reach
  have elements : ((h.requested options.constructorPolicy selection).map (·.element.id)).Nodup := by
    rwa [requested_ids]
  have decides : answer.isOk ↔
      policy.rejectDuplicateOperations = false ∨ ∀ owner, r.project.Admits planned owner := by
    have criterion := requested_accepts policy owned options.constructorPolicy selection
    have accepts := generate_isOk (h := h) rfl elements options.granularity
    rw [← same] at criterion ⊢
    rw [accepts.trans criterion, Bool.eq_false_iff, imp_iff_not_or]
    rfl
  refine ⟨decides, ?_, fun e owner a c hc d hd => constructor_name_ne hc hd, ?_⟩
  · intro e failed
    obtain ⟨label, applied, source, rfl, refused⟩ :=
      generate_error (h := h) rfl elements (Prod.ext failed rfl)
    exact requested_refused (h := h) owned refused label applied
  · rintro id e rfl found bare attributes
    rw [decides]
    exact or_congr_right (Project.entity_admits found bare attributes options.constructorPolicy)

/-- Two attributes whose names differ, and not their accessors. -/
theorem generate_decides_sample :
    let p : Project := ⟨"shop", "Shop",
      [⟨"o", "Order", [⟨"a", "ßum", .parse "Int", "o"⟩, ⟨"b", "SSum", .parse "?Int", "o"⟩], [], none⟩]⟩
    let r := Repository.ofProject p {}
    let supply : Supply := ⟨Nat.repr, 0, ""⟩
    let selection : List ElementRef := [⟨.entity, "o"⟩]
    let planned := r.project.expectedMembers .requireMandatory selection
    let e := GenerateError.rejected requestLabel 0 (.duplicateOperation "Order" "getSSum")
    ((Host.batches { repository := r, supply } .requireMandatory selection).flatMap
      fun b => b.members.map (·.id)).Nodup ∧
    (generate {} selection { repository := r, supply }).1 = .error e ∧
    planned.map (·.name) = ["__construct", "getSSum", "setSSum", "getSSum", "setSSum"] ∧
    ¬(∀ owner, r.project.Admits planned owner) ∧ Refused r.project planned e := by
  intro p r supply selection planned e
  have distinct : ((Host.batches { repository := r, supply } .requireMandatory selection).flatMap
      fun b => b.members.map (·.id)).Nodup := by
    decide +kernel
  have failed : (generate {} selection { repository := r, supply }).1 = .error e := by
    decide +kernel
  have names : planned.map (·.name) = ["__construct", "getSSum", "setSSum", "getSSum", "setSSum"] := by
    decide +kernel
  have decided := generate_decides .start supply {} selection distinct
  obtain ⟨decides, refused, -, -⟩ := decided
  have clash : ¬(∀ owner, r.project.Admits planned owner) := by
    intro admits
    have succeeds := decides.mpr (Or.inr admits)
    rw [failed] at succeeds
    cases succeeds
  exact ⟨distinct, failed, names, clash, refused e failed⟩

end Host

end Accessors
