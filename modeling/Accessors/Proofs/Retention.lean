import Accessors.Proofs.Generation.Session
import Mathlib.Data.List.Forall2

/-!
# Loaded operations

Insertions append, so an entity keeps the operations that it was loaded with in front of all others
until undo takes some of them out. Undo takes out whatever has one of the identifiers of a command,
whether the command inserted it or not. So a session keeps all loaded operations as long as no
accepted command brings an identifier of one of them, and no longer (`session_keeps_loaded`).
-/

namespace Accessors

theorem forall₂_mapIdx_right {α β : Type} {R : α → β → Prop} {l : List α} {l' : List β}
    (h : List.Forall₂ R l l') {f : Nat → β → β} (keeps : ∀ i a b, R a b → R a (f i b)) :
    List.Forall₂ R l (l'.mapIdx f) := by
  induction h generalizing f with
  | nil => exact .nil
  | cons first _ ih =>
    rw [List.mapIdx_cons]
    exact .cons (keeps 0 _ _ first) (ih fun i => keeps (i + 1))

namespace Project

variable {policy : Policy} {p q : Project}

/-- Entity by entity, the operations of `q` begin with those of `p`. -/
def Extends (q p : Project) : Prop :=
  List.Forall₂ (fun e e' : Entity => e'.id = e.id ∧ e.operations <+: e'.operations)
    p.entities q.entities

theorem extends_refl (p : Project) : p.Extends p :=
  List.forall₂_same.mpr fun _ _ => ⟨rfl, List.prefix_rfl⟩

theorem appendAll_extends (h : q.Extends p) (ops : List Operation) : (q.appendAll ops).Extends p := by
  refine forall₂_mapIdx_right h fun i e e' same => ?_
  split
  · exact ⟨same.1, same.2.trans (List.prefix_append _ _)⟩
  · exact same

theorem insertAll_extends {is : List FieldInsertion} {s : Project} (h : q.Extends p)
    (inserted : q.insertAll policy is = .ok s) : s.Extends p := by
  obtain ⟨-, rfl⟩ := insertAll_ok inserted
  exact appendAll_extends h _

theorem removeOperations_extends {ids : List Id} (h : q.Extends p)
    (apart : ∀ id ∈ ids, id ∉ p.operationIds) : (q.removeOperations ids).Extends p := by
  have kept : ∀ e ∈ p.entities, e.operations.filter (fun op => !ids.contains op.id) = e.operations :=
    fun e he => filter_absent apart he
  refine List.forall₂_map_right_iff.mpr ?_
  refine ((List.forall₂_and_left _ _).mpr ⟨kept, h⟩).imp fun e e' ⟨same, id, front⟩ => ⟨id, ?_⟩
  rw [← same]
  exact front.filter _

theorem extends_stable (p : Project) :
    Stable (·.Extends p) fun i => i.element.id ∉ p.operationIds where
  inserted h _ inserted := insertAll_extends h inserted
  removed h apart := by
    refine removeOperations_extends h fun id member => ?_
    obtain ⟨i, inside, rfl⟩ := List.mem_map.mp member
    exact apart i inside

theorem extends_operationIds (h : q.Extends p) {id : Id} (known : id ∈ p.operationIds) :
    id ∈ q.operationIds := by
  obtain ⟨e, he, inside⟩ := List.mem_flatMap.mp known
  obtain ⟨i, bound, rfl⟩ := List.mem_iff_getElem.mp he
  obtain ⟨_, front⟩ := List.Forall₂.get h bound (h.length_eq ▸ bound)
  exact List.mem_flatMap.mpr ⟨_, List.getElem_mem _, (front.map (·.id)).subset inside⟩

theorem removeOperations_ids {ids : List Id} {id : Id}
    (h : id ∈ (p.removeOperations ids).operationIds) : id ∉ ids := by
  obtain ⟨e, he, inside⟩ := List.mem_flatMap.mp h
  obtain ⟨e, -, rfl⟩ := List.mem_map.mp he
  obtain ⟨op, survivor, rfl⟩ := List.mem_map.mp inside
  simpa using (List.mem_filter.mp survivor).2

end Project

namespace Repository

variable {p : Project} {policy : Policy} {r : Repository}

/-- Undoing an accepted command gives the model before it without the operations that have an
identifier of the command. -/
theorem undo_submit {c : EditCommand} (accepted : (submit c r).1 = .ok ()) :
    ((r.after (.submit c)).after .undo).project = r.project.removeOperations c.insertedIds := by
  obtain ⟨e, _, run⟩ | ⟨q, inserted, run⟩ := submit_cases c r
  · rw [run] at accepted
    cases accepted
  · simp only [after, run, undo]
    exact Project.removeOperations_inserted inserted

/-- The loaded operations stay in front in a session in which no accepted command brings an
identifier of theirs. They do not survive an accepted command that does, once it is undone. -/
theorem session_keeps_loaded
    (session : Session (Brings fun i => i.element.id ∉ p.normalize.operationIds)
      (.ofProject p policy) r) :
    r.project.Extends p.normalize ∧
      ∀ c, (submit c r).1 = .ok () →
        (((r.after (.submit c)).after .undo).project.Extends p.normalize ↔
          ∀ id ∈ c.insertedIds, id ∉ p.normalize.operationIds) := by
  have loaded : r.project.Extends p.normalize :=
    (session_holds (Project.extends_stable p.normalize) (fun _ _ _ safe => safe)
      (ofProject_holds policy (Project.extends_refl _)) session).project
  refine ⟨loaded, fun c accepted => ?_⟩
  -- the insertions of the command leave no trace: undoing only takes identifiers out
  rw [undo_submit accepted]
  constructor
  · intro kept id member known
    exact Project.removeOperations_ids (Project.extends_operationIds kept known) member
  · exact Project.removeOperations_extends loaded

/-- A class with one operation, which keeps it through a command and a request that are undone. -/
theorem session_keeps_loaded_sample :
    let save : Operation := ⟨"save-1", "save", .public, "order", []⟩
    let order : Entity := ⟨"order", "Order", [⟨"total", "total", .parse "int", ""⟩], [save], none⟩
    let p : Project := ⟨"shop", "Shop", [order]⟩
    let c : EditCommand := ⟨"c", "edit", "", "", [⟨"order", .operations, ⟨"x", "load", .public, "", []⟩⟩]⟩
    let request : Step := .generate {} [⟨.entity, "order"⟩] ⟨Nat.repr, 0, ""⟩
    let r := ((((Repository.ofProject p {}).next (.call (.submit c))).next request).next (.call .undo)).next
      (.call .undo)
    r.project = p.normalize ∧
      Session (Brings fun i => i.element.id ∉ p.normalize.operationIds) (.ofProject p {}) r ∧
      r.project.Extends p.normalize := by
  intro save order p c request r
  have own : ∀ i ∈ c.insertions, i.element.id ∉ p.normalize.operationIds := by decide
  have drawn : ∀ i ∈ ({ repository := (Repository.ofProject p {}).next (.call (.submit c))
                        supply := ⟨Nat.repr, 0, ""⟩ } : Host).requested .requireMandatory
        [⟨.entity, "order"⟩], i.element.id ∉ p.normalize.operationIds := by
    decide +kernel
  have session : Session (Brings fun i => i.element.id ∉ p.normalize.operationIds)
      (.ofProject p {}) r := by
    refine .step (.call .undo) (.step (.call .undo) (.step request (.step (.call (.submit c)) .start ?_) ?_)
      trivial) trivial
    · exact fun _ => own
    · exact drawn
  have restored : r.project = p.normalize := by decide +kernel
  exact ⟨restored, session, (session_keeps_loaded session).1⟩

/-- An identifier that the model has already: the command that brings it again is accepted, and
undoing it takes the loaded operation out as well. -/
theorem loaded_operation_lost :
    ¬ ∀ (p : Project) (policy : Policy) (r : Repository),
      Session (fun _ _ => True) (.ofProject p policy) r → r.project.Extends p.normalize := by
  intro kept
  let save : Operation := ⟨"save-1", "save", .public, "order", []⟩
  let p : Project := ⟨"shop", "Shop", [⟨"order", "Order", [], [save], none⟩]⟩
  let c : EditCommand :=
    ⟨"c", "edit", "", "", [⟨"order", .operations, ⟨"save-1", "load", .public, "", []⟩⟩]⟩
  let r := ((Repository.ofProject p {}).next (.call (.submit c))).next (.call .undo)
  have session : Session (fun _ _ => True) (.ofProject p {}) r :=
    .step (.call .undo) (.step (.call (.submit c)) .start trivial) trivial
  have known : "save-1" ∈ p.normalize.operationIds := by decide
  have lost : "save-1" ∉ r.project.operationIds := by decide +kernel
  exact lost (Project.extends_operationIds (kept p {} r session) known)

end Repository

end Accessors
