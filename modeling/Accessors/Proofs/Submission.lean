import Accessors.Proofs.Acceptance
import Accessors.Proofs.Reachable

/-!
# Submitted commands

A command is decided on the model that it is submitted to, although each of its insertions is checked
against what those before it have made. `submit_decides` says when it is accepted, what every entity
then holds, and otherwise which insertion gives the error.
-/

namespace Accessors

namespace Project

/-- What the model asks of an insertion that comes after `before` in its command. -/
structure Fits (policy : Policy) (p : Project) (before : List FieldInsertion) (i : FieldInsertion) :
    Prop where
  owner : ∃ e ∈ p.entities, e.id = i.ownerId
  home : i.element.ownerId = "" ∨ i.element.ownerId = i.ownerId
  name : policy.rejectDuplicateOperations = true →
    (∀ e, p.entity? i.ownerId = some e → i.element.name ∉ e.operationNames) ∧
      ∀ j ∈ before, j.ownerId = i.ownerId → j.element.name ≠ i.element.name

def FitsAll (policy : Policy) (p : Project) (is : List FieldInsertion) : Prop :=
  ∀ before i after, is = before ++ i :: after → p.Fits policy before i

/-- What is wrong with an insertion after `before`: its entity first, then the owner that its element
names, then its name. -/
inductive Fault (policy : Policy) (p : Project) (before : List FieldInsertion) (i : FieldInsertion) :
    RepositoryError → Prop where
  | entityNotFound : (∀ e ∈ p.entities, e.id ≠ i.ownerId) →
      Fault policy p before i (.entityNotFound i.ownerId)
  | ownerMismatch : (∃ e ∈ p.entities, e.id = i.ownerId) → i.element.ownerId ≠ "" →
      i.element.ownerId ≠ i.ownerId →
      Fault policy p before i (.ownerMismatch i.element.name i.element.ownerId i.ownerId)
  | duplicateOperation {e : Entity} : p.entity? i.ownerId = some e →
      i.element.ownerId = "" ∨ i.element.ownerId = i.ownerId →
      policy.rejectDuplicateOperations = true →
      (i.element.name ∈ e.operationNames ∨
        ∃ j ∈ before, j.ownerId = i.ownerId ∧ j.element.name = i.element.name) →
      Fault policy p before i (.duplicateOperation e.name i.element.name)

structure Receives (p : Project) (is : List FieldInsertion) (q : Project) : Prop where
  id : q.id = p.id
  name : q.name = p.name
  length : q.entities.length = p.entities.length
  /-- The first entity with an identifier gets what is inserted for it, in order. -/
  first : ∀ (n : Nat) e, p.entities[n]? = some e → e.id ∉ (p.entities.take n).map Entity.id →
    q.entities[n]? = some { e with
      operations := e.operations ++
        (is.filter (·.ownerId = e.id)).map fun i => { i.element with ownerId := e.id } }
  other : ∀ (n : Nat) e, p.entities[n]? = some e → e.id ∈ (p.entities.take n).map Entity.id →
    q.entities[n]? = some e

variable {policy : Policy} {p : Project} {before is : List FieldInsertion} {i : FieldInsertion}

theorem entity?_none {id : Id} : p.entity? id = none ↔ ∀ e ∈ p.entities, e.id ≠ id := by
  simp [entity?, List.find?_eq_none]

theorem slot_mem : i.slot ∈ before.map FieldInsertion.slot ↔
    ∃ j ∈ before, j.ownerId = i.ownerId ∧ j.element.name = i.element.name := by
  simp [FieldInsertion.slot]

theorem refusal?_decides (policy : Policy) (p : Project) (before : List FieldInsertion)
    (i : FieldInsertion) :
    (p.refusal? policy (before.map FieldInsertion.slot) i = none ∧ p.Fits policy before i) ∨
    ∃ e, p.refusal? policy (before.map FieldInsertion.slot) i = some e ∧ p.Fault policy before i e := by
  unfold refusal?
  cases found : p.entity? i.ownerId with
  | none => exact Or.inr ⟨_, rfl, .entityNotFound (entity?_none.mp found)⟩
  | some target =>
    have owner : ∃ e ∈ p.entities, e.id = i.ownerId := ⟨target, entity?_mem found, entity?_id found⟩
    dsimp only
    split
    · rename_i foreign
      exact Or.inr ⟨_, rfl, .ownerMismatch owner foreign.1 foreign.2⟩
    · rename_i home
      rw [not_and_or, not_not, not_not] at home
      split
      · rename_i taken
        obtain ⟨rejects, clash⟩ := taken
        exact Or.inr ⟨_, rfl, .duplicateOperation found home rejects (clash.imp_right slot_mem.mp)⟩
      · rename_i untaken
        refine Or.inl ⟨rfl, owner, home, fun rejects => ⟨?_, ?_⟩⟩
        · intro e same there
          cases found.symm.trans same
          exact untaken ⟨rejects, Or.inl there⟩
        · intro j member owner name
          exact untaken ⟨rejects, Or.inr (slot_mem.mpr ⟨j, member, owner, name⟩)⟩

theorem fault_unfit {e : RepositoryError} (fault : p.Fault policy before i e) :
    ¬p.Fits policy before i := by
  rintro ⟨⟨target, member, same⟩, home, name⟩
  cases fault with
  | entityNotFound absent => exact absent target member same
  | ownerMismatch _ named foreign => exact home.elim named foreign
  | duplicateOperation found _ rejects taken =>
    obtain ⟨own, earlier⟩ := name rejects
    obtain there | ⟨j, member, owner, name⟩ := taken
    · exact own _ found there
    · exact earlier j member owner name

theorem refusal?_fault {e : RepositoryError}
    (refused : p.refusal? policy (before.map FieldInsertion.slot) i = some e) :
    p.Fault policy before i e := by
  obtain ⟨free, -⟩ | ⟨source, found, fault⟩ := refusal?_decides policy p before i
  · cases free.symm.trans refused
  · cases found.symm.trans refused
    exact fault

theorem refusal?_fits :
    p.refusal? policy (before.map FieldInsertion.slot) i = none ↔ p.Fits policy before i := by
  obtain ⟨free, fits⟩ | ⟨source, refused, fault⟩ := refusal?_decides policy p before i
  · exact iff_of_true free fits
  · rw [refused]
    exact iff_of_false nofun (fault_unfit fault)

theorem accepts_fitsAll : p.Accepts policy is ↔ p.FitsAll policy is := by
  simp only [Accepts, FitsAll, refusal?_fits]

/-! ### What an accepted command makes -/

theorem place_eq {n : Nat} {e : Entity} (there : p.entities[n]? = some e) :
    p.place e.id = n ↔ e.id ∉ (p.entities.take n).map Entity.id := by
  obtain ⟨bound, same⟩ := List.getElem?_eq_some_iff.mp there
  rw [place, List.findIdx_eq bound, same, beq_self_eq_true, eq_self_iff_true, true_and]
  simp only [List.mem_map, List.mem_take_iff_getElem, beq_eq_false_iff_ne]
  grind

theorem adopted_filter (is : List FieldInsertion) (id : Id) :
    (is.map FieldInsertion.adopted).filter (·.ownerId == id) =
      (is.filter (·.ownerId = id)).map fun i => { i.element with ownerId := id } := by
  rw [List.filter_map]
  refine List.map_congr_left fun i member => ?_
  have owner : i.ownerId = id := by
    simpa [FieldInsertion.adopted] using (List.mem_filter.mp member).2
  rw [FieldInsertion.adopted, owner]

theorem appendAll_receives (p : Project) (is : List FieldInsertion) :
    p.Receives is (p.appendAll (is.map FieldInsertion.adopted)) := by
  refine ⟨rfl, rfl, List.length_mapIdx, ?_, ?_⟩
  · intro n e there first
    simp only [appendAll, List.getElem?_mapIdx, there, Option.map_some]
    rw [if_pos ((place_eq there).mpr first), adopted_filter]
  · intro n e there again
    simp only [appendAll, List.getElem?_mapIdx, there, Option.map_some]
    rw [if_neg fun first => (place_eq there).mp first again]

end Project

namespace Repository

/-- A command is accepted if each of its insertions fits the model and the insertions before it, and
is then made as a whole. Otherwise the error is that of the first insertion that does not fit. -/
theorem submit_decides (r : Repository) (c : EditCommand) :
    ((submit c r).1 = .ok () ↔ r.project.FitsAll r.policy c.insertions) ∧
    ((submit c r).1 = .ok () → r.project.Receives c.insertions (submit c r).2.project) ∧
    ∀ e, (submit c r).1 = .error e →
      ∃ before i after, c.insertions = before ++ i :: after ∧
        r.project.FitsAll r.policy before ∧ r.project.Fault r.policy before i e := by
  rw [← Project.accepts_fitsAll, ← Project.insertAll_isOk]
  obtain ⟨source, failed, run⟩ | ⟨q, inserted, run⟩ := submit_cases c r
  · rw [run, failed]
    refine ⟨by simp [Except.isOk, Except.toBool], nofun, fun e same => ?_⟩
    cases same
    obtain ⟨before, i, after, split, accepted, refused⟩ := Project.first_refused failed
    exact ⟨before, i, after, split, Project.accepts_fitsAll.mp accepted, Project.refusal?_fault refused⟩
  · rw [run, inserted]
    refine ⟨by simp [Except.isOk, Except.toBool], fun _ => ?_, nofun⟩
    obtain ⟨-, rfl⟩ := Project.insertAll_ok inserted
    exact Project.appendAll_receives r.project c.insertions

/-- Two classes with one identifier, a command for two owners in turn, and one whose second insertion
names a foreign owner and takes the name of the first. -/
theorem submit_decides_sample :
    let p : Project := ⟨"shop", "Shop",
      [⟨"o", "Order", [], [⟨"a", "save", .public, "o", []⟩], none⟩, ⟨"o", "Offer", [], [], none⟩,
        ⟨"i", "Invoice", [], [], none⟩]⟩
    let r := Repository.ofProject p {}
    let insert (owner id name named : String) : FieldInsertion :=
      ⟨owner, .operations, ⟨id, name, .public, named, []⟩⟩
    let c : EditCommand := ⟨"c", "edit", "", "",
      [insert "o" "x" "load" "", insert "i" "y" "save" "i", insert "o" "z" "send" "o"]⟩
    let c' : EditCommand := ⟨"d", "edit", "", "",
      [insert "i" "x" "load" "", insert "i" "y" "load" "o", insert "gone" "z" "send" ""]⟩
    let e := RepositoryError.ownerMismatch "load" "o" "i"
    r.project.FitsAll r.policy c.insertions ∧
      r.project.Receives c.insertions (submit c r).2.project ∧
      (submit c r).2.project.entities.map Entity.operationNames =
        [["save", "load", "send"], [], ["save"]] ∧
      (submit c' r).1 = .error e ∧
      ∃ before i after, c'.insertions = before ++ i :: after ∧
        r.project.FitsAll r.policy before ∧ r.project.Fault r.policy before i e := by
  intro p r insert c c' e
  have accepted : (submit c r).1 = .ok () := by decide +kernel
  have names : (submit c r).2.project.entities.map Entity.operationNames =
      [["save", "load", "send"], [], ["save"]] := by
    decide +kernel
  have refused : (submit c' r).1 = .error e := by decide +kernel
  obtain ⟨decides, receives, -⟩ := submit_decides r c
  obtain ⟨-, -, faults⟩ := submit_decides r c'
  exact ⟨decides.mp accepted, receives accepted, names, refused, faults e refused⟩

end Repository

end Accessors
