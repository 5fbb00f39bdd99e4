import Accessors.Proofs.Action
import Accessors.Proofs.Reachable
import Accessors.Transaction

/-!
# Transactions

What a transaction does to its host (`transact_outcome`), for any builder, and what staging does to
a transaction that began with a new builder (`stageEach_ok`, `stageEach_distinct`).
-/

namespace Accessors

/-- The three ends of a transaction. Only a submitted command reaches the repository. -/
inductive Host.Outcome (h : Host) : Except RepositoryError (Option Receipt) → Host → Prop where
  | failed (e : RepositoryError) (s : Supply) : Outcome h (.error e) { h with supply := s }
  | empty (s : Supply) : Outcome h (.ok none) { h with supply := s }
  | submitted (c : EditCommand) (s : Supply) (r : Repository) :
      Repository.submit c h.repository = (.ok (), r) →
      Outcome h (.ok (some c.receipt)) { h with supply := s, repository := r }

namespace Transaction

open Accessors.Action

/-- Running a submit is taking the command out of the ended builder and giving it to the
repository. -/
theorem submit_of_finish {t : Transaction} {b : Builder} (finished : Builder.finish t.builder = (.ok (), b))
    (h : Host) :
    t.submit h =
      match b.command h.supply with
      | (.error e, s) => (.error (.builder e), { h with supply := s })
      | (.ok c, s) =>
        if c.insertions.isEmpty then (.ok none, { h with supply := s })
        else
          match Repository.submit c h.repository with
          | (.error e, r) => (.error e, { h with supply := s, repository := r })
          | (.ok (), r) => (.ok (some c.receipt), { h with supply := s, repository := r }) := by
  unfold submit
  rw [finished]
  simp only [bind_apply, Host.onSupply, focus_apply, mapError_apply]
  rcases b.command h.supply with ⟨e | c, s⟩
  · rfl
  · simp only [mapError_ok]
    split
    · rfl
    · simp only [bind_apply, Host.onRepository, focus_apply]
      rcases Repository.submit c h.repository with ⟨e | _, r⟩ <;> rfl

theorem submit_outcome {t : Transaction} {h h' : Host} {result : Except RepositoryError (Option Receipt)}
    (run : t.submit h = (result, h')) : h.Outcome result h' := by
  rcases finished : Builder.finish t.builder with ⟨e | _, b⟩
  · have failed : t.submit h = (.error (.builder e), h) := by
      unfold submit
      rw [finished]
      rfl
    cases failed.symm.trans run
    exact .failed _ h.supply
  · rw [submit_of_finish finished] at run
    rcases command : b.command h.supply with ⟨e | c, s⟩ <;> rw [command] at run
    · cases run
      exact .failed _ s
    · dsimp only at run
      split at run
      · cases run
        exact .empty s
      · rcases submitted : Repository.submit c h.repository with ⟨e | _, r⟩ <;>
          rw [submitted] at run <;> cases run
        · obtain rfl := Repository.submit_error submitted
          exact .failed e s
        · exact .submitted c s r submitted

end Transaction

namespace Host

open Accessors.Action

theorem transact_apply (label : String) (fill : Action Transaction RepositoryError Unit) (h : Host) :
    transact label fill h =
      match Transaction.start h.builder label with
      | .error e => (.error e, h)
      | .ok t =>
        match fill t with
        | (.error e, _) => (.error e, h)
        | (.ok (), t) => t.submit h := by
  unfold transact
  rw [bind_of_ok (get_apply h)]
  cases Transaction.start h.builder label with
  | error e => rfl
  | ok t =>
    dsimp only
    rcases fill t with ⟨e | _, t⟩ <;> rfl

theorem transact_outcome {label : String} {fill : Action Transaction RepositoryError Unit}
    {h h' : Host} {result : Except RepositoryError (Option Receipt)}
    (run : transact label fill h = (result, h')) : h.Outcome result h' := by
  rw [transact_apply] at run
  split at run
  · cases run
    exact .failed _ h.supply
  · split at run
    · cases run
      exact .failed _ h.supply
    · exact Transaction.submit_outcome run

theorem outcome_unchanged {h h' : Host} {result : Except RepositoryError (Option Receipt)}
    (outcome : h.Outcome result h') (nothing : result = .ok none ∨ ∃ e, result = .error e) :
    h'.repository = h.repository := by
  cases outcome with
  | failed e s => rfl
  | empty s => rfl
  | submitted c s r run =>
    obtain same | ⟨e, same⟩ := nothing <;> cases same

theorem outcome_undoStack {h h' : Host} {result : Except RepositoryError (Option Receipt)}
    (outcome : h.Outcome result h') :
    h'.repository.undoStack = h.repository.undoStack ∨
      ∃ c, h'.repository.undoStack = c :: h.repository.undoStack := by
  cases outcome with
  | failed e s => exact Or.inl rfl
  | empty s => exact Or.inl rfl
  | submitted c s r run =>
    obtain ⟨q, _, rfl⟩ := Repository.submit_ok run
    exact Or.inr ⟨c, rfl⟩

end Host

/-! ### Staging with a new builder -/

namespace Transaction

open Accessors.Action

/-- A transaction in which insertions have been staged, and no element is left without a place. -/
def opened (label : String) (is : List FieldInsertion) : Transaction where
  builder := { stage := .started label, placed := is }
  staged := is.length

theorem start_new (label : String) : start {} label = .ok (opened label []) := rfl

variable {label : String} {is : List FieldInsertion}

theorem stage_opened (label : String) (is : List FieldInsertion) (ownerId : Id) (op : Operation) :
    stage ownerId op (opened label is) =
      if op.id ∈ is.map (·.element.id) then
        (.error (.builder (.duplicateElement op.id)), opened label is)
      else (.ok (), opened label (is ++ [⟨ownerId, .operations, op⟩])) := by
  have known : (opened label is).builder.knows op.id = decide (op.id ∈ is.map (·.element.id)) := by
    simp [Builder.knows, opened, List.any_eq]
  unfold stage
  by_cases member : op.id ∈ is.map (·.element.id)
  · rw [if_pos member]
    refine bind_of_error ?_ _
    simp only [onBuilder, focus_apply, mapError_apply, Builder.insert, known, member]
    rfl
  · rw [if_neg member]
    have inserted : onBuilder (Builder.insert op) (opened label is) =
        (.ok (), { opened label is with
          builder := { (opened label is).builder with registered := [op] } }) := by
      simp only [onBuilder, focus_apply, mapError_apply, Builder.insert, known, member]
      rfl
    rw [bind_of_ok inserted, bind_apply]
    simp [onBuilder, focus_apply, mapError_apply, Builder.place, Builder.label?, takeFirst?, opened,
      modify_apply, mapError_ok]

def stageEach : List FieldInsertion → Action Transaction RepositoryError Unit
  | [] => pure ()
  | i :: rest => do
    stage i.ownerId i.element
    stageEach rest

theorem stageEach_append (xs ys : List FieldInsertion) :
    stageEach (xs ++ ys) = (do stageEach xs; stageEach ys) := by
  induction xs with
  | nil => simp [stageEach]
  | cons i xs ih => simp [stageEach, ih]

theorem stageAll_eq (ownerId : Id) (ops : List Operation) :
    stageAll ownerId ops = stageEach (ops.map fun op => ⟨ownerId, .operations, op⟩) := by
  induction ops with
  | nil => rfl
  | cons op ops ih => rw [stageAll, ih, List.map_cons, stageEach]

theorem stageEach_ok {xs : List FieldInsertion} {t : Transaction}
    (h : stageEach xs (opened label is) = (.ok (), t)) : t = opened label (is ++ xs) := by
  induction xs generalizing is with
  | nil =>
    cases h
    rw [List.append_nil]
  | cons i xs ih =>
    obtain ⟨_, t', staged, rest⟩ := bind_ok h
    rw [stage_opened] at staged
    split at staged <;> cases staged
    rw [ih rest, List.append_assoc]
    rfl

theorem stageEach_distinct {xs : List FieldInsertion}
    (distinct : ((is ++ xs).map (·.element.id)).Nodup) :
    stageEach xs (opened label is) = (.ok (), opened label (is ++ xs)) := by
  induction xs generalizing is with
  | nil => rw [List.append_nil]; rfl
  | cons i xs ih =>
    have fresh : i.element.id ∉ is.map (·.element.id) := by
      rw [List.map_append, List.nodup_append] at distinct
      intro member
      exact distinct.2.2 _ member _ (by simp) rfl
    have staged := stage_opened label is i.ownerId i.element
    rw [if_neg fresh] at staged
    rw [List.append_cons] at distinct ⊢
    rw [stageEach, bind_of_ok staged]
    exact ih distinct

theorem submit_opened_nil (label : String) (h : Host) :
    (opened label []).submit h = (.ok none, { h with supply := (EditCommand.create label [] h.supply).2 }) :=
  submit_of_finish (t := opened label []) rfl h

theorem submit_opened (label : String) (nonempty : is ≠ []) (h : Host) :
    ∃ c s, c.label = label ∧ c.insertions = is ∧
      (opened label is).submit h =
        match Repository.submit c h.repository with
        | (.error e, r) => (.error e, { h with supply := s, repository := r })
        | (.ok (), r) => (.ok (some c.receipt), { h with supply := s, repository := r }) := by
  refine ⟨(EditCommand.create label is h.supply).1, (EditCommand.create label is h.supply).2, rfl, rfl, ?_⟩
  have run := submit_of_finish (t := opened label is) rfl h
  exact run.trans (if_neg (by simpa [opened] using nonempty))

end Transaction

namespace Host

variable {h h' : Host} {label : String} {is : List FieldInsertion} {receipt : Option Receipt}

/-- With a new builder, a transaction that could stage all its insertions submits them. -/
theorem transact_new (new : h.builder = {}) {fill : Action Transaction RepositoryError Unit}
    (staged : fill (.opened label []) = (.ok (), .opened label is)) :
    transact label fill h = (Transaction.opened label is).submit h := by
  rw [transact_apply, new, Transaction.start_new]
  simp only [staged]

theorem transact_distinct (new : h.builder = {}) (distinct : (is.map (·.element.id)).Nodup) :
    transact label (Transaction.stageEach is) h = (Transaction.opened label is).submit h := by
  have staged : Transaction.stageEach is (.opened label []) = (.ok (), .opened label ([] ++ is)) :=
    Transaction.stageEach_distinct distinct
  exact transact_new new staged

theorem transact_staged (new : h.builder = {})
    (run : transact label (Transaction.stageEach is) h = (.ok receipt, h')) :
    (Transaction.opened label is).submit h = (.ok receipt, h') := by
  rw [transact_apply, new, Transaction.start_new] at run
  dsimp only at run
  split at run
  · cases run
  · rename_i t staged
    rwa [Transaction.stageEach_ok staged] at run

theorem transact_ok (new : h.builder = {}) (nonempty : is ≠ [])
    (run : transact label (Transaction.stageEach is) h = (.ok receipt, h')) :
    ∃ c, receipt = some c.receipt ∧ c.label = label ∧ c.insertions = is ∧
      Repository.submit c h.repository = (.ok (), h'.repository) ∧ h'.builder = h.builder := by
  obtain ⟨c, s, labelled, inserts, submit⟩ := Transaction.submit_opened label nonempty h
  rw [transact_staged new run] at submit
  rcases submitted : Repository.submit c h.repository with ⟨e | _, r⟩ <;> rw [submitted] at submit <;>
    cases submit
  exact ⟨c, rfl, labelled, inserts, submitted, rfl⟩

/-- A transaction of distinct elements is refused only by the repository. -/
theorem transact_refused (new : h.builder = {}) (distinct : (is.map (·.element.id)).Nodup)
    {source : RepositoryError}
    (run : transact label (Transaction.stageEach is) h = (.error source, h')) :
    h.repository.project.insertAll h.repository.policy is = .error source := by
  rw [transact_distinct new distinct] at run
  cases is with
  | nil =>
    rw [Transaction.submit_opened_nil] at run
    cases run
  | cons i is =>
    obtain ⟨c, s, _, inserts, submit⟩ :=
      Transaction.submit_opened label (List.cons_ne_nil i is) h
    rw [run] at submit
    rw [← inserts]
    obtain ⟨e, failed, refused⟩ | ⟨q, _, accepted⟩ := Repository.submit_cases c h.repository
    · rw [refused] at submit
      cases submit
      exact failed
    · rw [accepted] at submit
      cases submit

/-- However many insertions a successful transaction has, the repository accepts them. -/
theorem transact_project (new : h.builder = {})
    (run : transact label (Transaction.stageEach is) h = (.ok receipt, h')) :
    h.repository.project.insertAll h.repository.policy is = .ok h'.repository.project := by
  cases is with
  | nil =>
    have submitted := transact_staged new run
    rw [Transaction.submit_opened_nil] at submitted
    cases submitted
    rfl
  | cons i is =>
    obtain ⟨c, _, _, inserts, submitted, _⟩ := transact_ok new (List.cons_ne_nil i is) run
    obtain ⟨q, inserted, after⟩ := Repository.submit_ok submitted
    rw [after, ← inserts, inserted]

end Host

end Accessors
