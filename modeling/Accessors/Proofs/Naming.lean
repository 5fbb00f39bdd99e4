import Accessors.Proofs.Acceptance
import Accessors.Proofs.Generation.Session
import Mathlib.Data.List.Forall2

/-!
# Operation names

A policy that rejects duplicates looks at one insertion and at one entity. The bound that follows for a
whole run is on the number of operations with a name: it never exceeds what the model began with, or
one where the model began with none. The bound is kept also by undoing, which may take out operations
that the command did not bring, and by redoing, which inserts into the model that is there then.
-/

namespace Accessors

theorem forall₂_updateFirst {α β : Type} {R : α → β → Prop} {test : β → Bool} {f : β → β} {l : List α}
    {m : List β} (related : List.Forall₂ R l m)
    (changed : ∀ a b, m.find? test = some b → R a b → R a (f b)) :
    List.Forall₂ R l (updateFirst test f m) := by
  induction related with
  | nil => exact .nil
  | @cons a b l m head tail ih =>
    unfold updateFirst
    by_cases hit : test b
    · rw [if_pos hit]
      exact .cons (changed a b (List.find?_cons_of_pos hit) head) tail
    · rw [if_neg hit]
      refine .cons head (ih fun a b found => changed a b ?_)
      rwa [List.find?_cons_of_neg hit]

/-! ### The bound -/

/-- No more operations with one name than `e` has, or one where it has none. -/
def Entity.NamesWithin (e e' : Entity) : Prop :=
  ∀ name, e'.operationNames.count name ≤ max 1 (e.operationNames.count name)

def Project.NamesWithin (p q : Project) : Prop :=
  List.Forall₂ (fun e e' => e'.id = e.id ∧ e.NamesWithin e') p.entities q.entities

namespace Entity

variable {e e' : Entity}

theorem namesWithin_append (within : e.NamesWithin e') {op : Operation}
    (new : op.name ∉ e'.operationNames) : e.NamesWithin (e'.append op) := by
  intro name
  have names : (e'.append op).operationNames = e'.operationNames ++ [op.name] := by
    simp [operationNames, append]
  have bound := within name
  rw [names, List.count_append, List.count_singleton]
  by_cases same : op.name = name
  · -- the name is new, so the operation is the only one that has it
    subst same
    rw [List.count_eq_zero_of_not_mem new, beq_self_eq_true, if_pos rfl]
    omega
  · rw [if_neg (by simpa using same)]
    omega

theorem namesWithin_sublist {ops : List Operation} (within : e.NamesWithin e')
    (fewer : ops.Sublist e'.operations) : e.NamesWithin { e' with operations := ops } := by
  intro name
  have counts : (ops.map (·.name)).count name ≤ e'.operationNames.count name :=
    (fewer.map (·.name)).count_le name
  exact Nat.le_trans counts (within name)

theorem nodup_of_namesWithin (within : e.NamesWithin e') (distinct : e.operationNames.Nodup) :
    e'.operationNames.Nodup := by
  rw [List.nodup_iff_count_le_one] at distinct ⊢
  intro name
  have bound := within name
  have once := distinct name
  omega

end Entity

namespace Project

variable {p q q' : Project} {policy : Policy}

theorem normalize_namesWithin (p : Project) : p.NamesWithin p.normalize := by
  refine List.forall₂_map_right_iff.mpr (List.forall₂_same.mpr fun e _ => ⟨rfl, fun name => ?_⟩)
  have names : e.adoptChildren.operationNames = e.operationNames := by
    simp [Entity.operationNames, Entity.adoptChildren]
  rw [names]
  exact Nat.le_max_right _ _

theorem insert_new (rejects : policy.rejectDuplicateOperations = true) {i : FieldInsertion}
    (inserted : q.insert policy i = .ok q') {e : Entity} (found : q.entity? i.ownerId = some e) :
    i.element.name ∉ e.operationNames := by
  unfold insert at inserted
  rw [found] at inserted
  dsimp only at inserted
  split at inserted
  · cases inserted
  · split at inserted
    · cases inserted
    · rename_i absent
      intro there
      apply absent
      rw [rejects, Bool.true_and]
      exact hasOperationNamed_iff.mpr there

theorem insert_namesWithin (rejects : policy.rejectDuplicateOperations = true) {i : FieldInsertion}
    (within : p.NamesWithin q) (inserted : q.insert policy i = .ok q') : p.NamesWithin q' := by
  obtain ⟨-, rfl⟩ := insert_ok inserted
  refine forall₂_updateFirst within ?_
  rintro e e' found ⟨same, bound⟩
  exact ⟨same, Entity.namesWithin_append bound (insert_new rejects inserted found)⟩

theorem insertAll_namesWithin (rejects : policy.rejectDuplicateOperations = true)
    {is : List FieldInsertion} (within : p.NamesWithin q) (inserted : q.insertAll policy is = .ok q') :
    p.NamesWithin q' := by
  induction is generalizing q with
  | nil =>
    cases inserted
    exact within
  | cons i is ih =>
    unfold insertAll at inserted
    cases first : q.insert policy i with
    | error e =>
      rw [first] at inserted
      cases inserted
    | ok next =>
      rw [first] at inserted
      exact ih (insert_namesWithin rejects within first) inserted

theorem removeOperations_namesWithin (within : p.NamesWithin q) (ids : List Id) :
    p.NamesWithin (q.removeOperations ids) := by
  refine List.forall₂_map_right_iff.mpr (within.imp ?_)
  rintro e e' ⟨same, bound⟩
  exact ⟨same, Entity.namesWithin_sublist bound List.filter_sublist⟩

theorem nodup_of_namesWithin (within : p.NamesWithin q)
    (distinct : ∀ e ∈ p.entities, e.operationNames.Nodup) :
    ∀ e ∈ q.entities, e.operationNames.Nodup := by
  intro e' member
  obtain ⟨n, bound, rfl⟩ := List.getElem_of_mem member
  have lengths := within.length_eq
  obtain ⟨-, names⟩ := within.get (i := n) (by omega) bound
  exact Entity.nodup_of_namesWithin names (distinct _ (List.getElem_mem _))

end Project

/-! ### Runs -/

namespace Repository

variable {p : Project} {policy : Policy} {r : Repository}

theorem after_namesWithin (rejects : r.policy.rejectDuplicateOperations = true)
    (within : p.NamesWithin r.project) (call : Call) : p.NamesWithin (r.after call).project := by
  cases call with
  | submit c =>
    obtain ⟨e, -, run⟩ | ⟨q, inserted, run⟩ := submit_cases c r
    · rwa [after, run]
    · rw [after, run]
      exact Project.insertAll_namesWithin rejects within inserted
  | undo =>
    obtain ⟨-, run⟩ | ⟨c, rest, -, run⟩ := undo_cases r
    · rwa [after, run]
    · rw [after, run]
      exact Project.removeOperations_namesWithin within _
  | redo =>
    obtain ⟨-, run⟩ | ⟨c, rest, -, ⟨e, -, run⟩ | ⟨q, inserted, run⟩⟩ := redo_cases r
    · rwa [after, run]
    · rwa [after, run]
    · rw [after, run]
      exact Project.insertAll_namesWithin rejects within inserted
  | select elements => exact within
  | selectPaths paths => exact within

theorem reachable_namesWithin (rejects : policy.rejectDuplicateOperations = true)
    (reach : Reachable p policy r) : p.NamesWithin r.project := by
  induction reach with
  | start => exact p.normalize_namesWithin
  | call c earlier _ ih =>
    have same := reaches_policy earlier
    refine after_namesWithin ?_ ih c
    rwa [same]

theorem session_reachable (session : Session (fun _ _ => True) (.ofProject p policy) r) :
    Reachable p policy r := by
  induction session with
  | start => exact .start
  | step s _ _ ih =>
    cases s with
    | call c => exact .call c ih trivial
    | generate options selection supply =>
      exact Host.generate_reachable (h := { repository := _, supply }) ih options selection

/-- Where duplicates are rejected, no run gives an entity a name twice that it did not have twice. -/
theorem session_keeps_names (rejects : policy.rejectDuplicateOperations = true)
    (session : Session (fun _ _ => True) (.ofProject p policy) r) :
    p.NamesWithin r.project ∧
      ((∀ e ∈ p.entities, e.operationNames.Nodup) →
        ∀ e ∈ r.project.entities, e.operationNames.Nodup) := by
  have within := reachable_namesWithin rejects (session_reachable session)
  exact ⟨within, Project.nodup_of_namesWithin within⟩

/-- A command whose identifier an older operation has, undone and redone, between commands that are
refused for a name, on a model that has a name three times and on one whose names are distinct. -/
theorem session_keeps_names_sample :
    let shop (operations : List (Id × String)) : Project := ⟨"shop", "Shop",
      [⟨"o", "Order", [⟨"a", "total", .parse "Int", "o"⟩],
        operations.map fun (id, name) => ⟨id, name, .public, "o", []⟩, none⟩]⟩
    let insert (id name : String) : Step :=
      .call (.submit ⟨"c", "edit", "", "", [⟨"o", .operations, ⟨id, name, .public, "", []⟩⟩]⟩)
    let request (granularity : Granularity) : Step :=
      .generate ⟨.always, granularity⟩ [⟨.entity, "o"⟩] ⟨Nat.repr, 0, ""⟩
    let run (p : Project) : Repository :=
      ((((((Repository.ofProject p {}).next (request .perMember)).next (insert "x" "save")).next
        (insert "s" "close")).next (.call .undo)).next (.call .redo)).next (request .perRequest)
    let p := shop [("s", "save"), ("t", "save"), ("u", "save")]
    let q := shop [("s", "save"), ("t", "load")]
    (run p).project.entities.map Entity.operationNames =
        [["save", "save", "__construct", "getTotal", "setTotal", "close"]] ∧
      p.NamesWithin (run p).project ∧ ∀ e ∈ (run q).project.entities, e.operationNames.Nodup := by
  intro shop insert request run p q
  have names : (run p).project.entities.map Entity.operationNames =
      [["save", "save", "__construct", "getTotal", "setTotal", "close"]] := by
    decide +kernel
  have session : ∀ p, Session (fun _ _ => True) (.ofProject p {}) (run p) := fun _ =>
    .step _ (.step _ (.step _ (.step _ (.step _ (.step _ .start trivial) trivial) trivial) trivial)
      trivial) trivial
  have distinct : ∀ e ∈ q.entities, e.operationNames.Nodup := by decide +kernel
  obtain ⟨within, -⟩ := session_keeps_names rfl (session p)
  obtain ⟨-, kept⟩ := session_keeps_names rfl (session q)
  exact ⟨names, within, kept distinct⟩

end Repository

end Accessors
