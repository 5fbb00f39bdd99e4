import Accessors.Proofs.Transaction

/-!
# What a transaction submits

A transaction can be asked to stage operations as often as one likes, also after it has refused some.
What it submits is what it has staged, no more and no less (`staged_submitted`).
-/

namespace Accessors

def FieldInsertion.appending (ownerId : Id) (op : Operation) : FieldInsertion := ⟨ownerId, .operations, op⟩

namespace Transaction

open Accessors.Action

inductive Staging where
  | one (ownerId : Id) (op : Operation)
  | all (ownerId : Id) (ops : List Operation)

def Staging.action : Staging → Action Transaction RepositoryError Unit
  | .one ownerId op => stage ownerId op
  | .all ownerId ops => stageAll ownerId ops

/-- Stages as much as can be staged; what a transaction answers is passed over. -/
def attempts : List Staging → Action Transaction RepositoryError Unit
  | [] => pure ()
  | request :: rest => do
    tryCatch request.action fun _ => pure ()
    attempts rest

def stagedBy (ownerId : Id) : List Operation → Transaction → List FieldInsertion
  | [], _ => []
  | op :: rest, t =>
    match stage ownerId op t with
    | (.ok (), t) => FieldInsertion.appending ownerId op :: stagedBy ownerId rest t
    | (.error _, _) => []

structure Progress where
  transaction : Transaction
  staged : List FieldInsertion := []

namespace Progress

def next (p : Progress) (request : Staging) : Progress where
  transaction := (request.action p.transaction).2
  staged := p.staged ++
    match request with
    | .one ownerId op => stagedBy ownerId [op] p.transaction
    | .all ownerId ops => stagedBy ownerId ops p.transaction

def run : Progress → List Staging → Progress
  | p, [] => p
  | p, request :: rest => run (p.next request) rest

/-- What a transaction answers from here on. -/
structure Exact (p : Progress) : Prop where
  /-- An operation is refused just when its identifier has been staged. -/
  refused : ∀ ownerId op e, (stage ownerId op p.transaction).1 = .error e ↔
    op.id ∈ p.staged.map (·.element.id) ∧ e = .builder (.duplicateElement op.id)
  unchanged : ∀ ownerId op e t, stage ownerId op p.transaction = (.error e, t) → t = p.transaction
  /-- Of several operations, those before the first that is refused are staged. -/
  cut : ∀ ownerId ops e t, stageAll ownerId ops p.transaction = (.error e, t) →
    ∃ before op after, ops = before ++ op :: after ∧
      stageAll ownerId before p.transaction = (.ok (), t) ∧ stage ownerId op t = (.error e, t) ∧
      (p.next (.all ownerId ops)).staged = p.staged ++ before.map (.appending ownerId)
  whole : ∀ ownerId ops t, stageAll ownerId ops p.transaction = (.ok (), t) →
    (p.next (.all ownerId ops)).staged = p.staged ++ ops.map (.appending ownerId)
  length : p.transaction.staged = p.staged.length

end Progress

variable {label : String} {is : List FieldInsertion}

/-! ### Single operations -/

theorem stage_opened_error {ownerId : Id} {op : Operation} {e : RepositoryError} :
    (stage ownerId op (opened label is)).1 = .error e ↔
      op.id ∈ is.map (·.element.id) ∧ e = .builder (.duplicateElement op.id) := by
  rw [stage_opened]
  split
  · rename_i again
    simp [again, eq_comm]
  · rename_i new
    simp [new]

theorem stage_opened_unchanged {ownerId : Id} {op : Operation} {e : RepositoryError} {t : Transaction}
    (h : stage ownerId op (opened label is) = (.error e, t)) : t = opened label is := by
  rw [stage_opened] at h
  split at h <;> cases h
  rfl

/-! ### Several operations -/

theorem stageAll_cons (ownerId : Id) (op : Operation) (rest : List Operation) (t : Transaction) :
    stageAll ownerId (op :: rest) t =
      match stage ownerId op t with
      | (.ok (), t) => stageAll ownerId rest t
      | (.error e, t) => (.error e, t) := by
  rw [stageAll, bind_apply]
  rcases stage ownerId op t with ⟨_ | _, t⟩ <;> rfl

/-- Staging stops at the first operation that is refused. -/
theorem stageAll_opened (ownerId : Id) (ops : List Operation) (is : List FieldInsertion) :
    (stageAll ownerId ops (opened label is) =
        (.ok (), opened label (is ++ ops.map (.appending ownerId))) ∧
      stagedBy ownerId ops (opened label is) = ops.map (.appending ownerId)) ∨
    ∃ before op after e, ops = before ++ op :: after ∧
      stagedBy ownerId ops (opened label is) = before.map (.appending ownerId) ∧
      let t := opened label (is ++ before.map (.appending ownerId))
      stageAll ownerId before (opened label is) = (.ok (), t) ∧
        stage ownerId op t = (.error e, t) ∧
        stageAll ownerId ops (opened label is) = (.error e, t) := by
  -- each staged operation joins `is`, against which the next one is checked
  induction ops generalizing is with
  | nil =>
    left
    rw [List.map_nil, List.append_nil]
    exact ⟨rfl, rfl⟩
  | cons op rest ih =>
    have staged := stage_opened label is ownerId op
    by_cases again : op.id ∈ is.map (·.element.id)
    · right
      rw [if_pos again] at staged
      refine ⟨[], op, rest, .builder (.duplicateElement op.id), rfl, ?_, ?_⟩
      · rw [stagedBy, staged]
        rfl
      · rw [List.map_nil, List.append_nil, stageAll_cons, staged]
        exact ⟨rfl, staged, rfl⟩
    · rw [if_neg again] at staged
      rw [stagedBy, stageAll_cons, staged]
      rcases ih (is ++ [.appending ownerId op]) with
        ⟨run, all⟩ | ⟨before, refused, after, e, split, some, run, refuses, stop⟩
      · left
        rw [List.append_assoc] at run
        exact ⟨run, congrArg _ all⟩
      · right
        refine ⟨op :: before, refused, after, e, congrArg _ split, congrArg _ some, ?_⟩
        rw [List.append_assoc] at run refuses stop
        rw [stageAll_cons, staged]
        exact ⟨run, refuses, stop⟩

/-! ### Requests -/

theorem attempts_cons (request : Staging) (rest : List Staging) (t : Transaction) :
    attempts (request :: rest) t = attempts rest (request.action t).2 := by
  rw [attempts, bind_apply, tryCatch_apply]
  rcases request.action t with ⟨_ | _, t⟩ <;> rfl

namespace Progress

variable {p : Progress}

theorem next_opened (opened : p.transaction = .opened label p.staged) (request : Staging) :
    (p.next request).transaction = .opened label (p.next request).staged := by
  cases request with
  | one ownerId op =>
    simp only [next, Staging.action, stagedBy, opened, stage_opened]
    split
    · rw [List.append_nil]
    · rfl
  | all ownerId ops =>
    simp only [next, Staging.action, opened]
    rcases stageAll_opened ownerId ops p.staged with ⟨run, all⟩ | ⟨before, _, _, e, _, some, _, _, stop⟩
    · rw [run, all]
    · rw [stop, some]

theorem run_opened (opened : p.transaction = .opened label p.staged) (requests : List Staging) :
    (p.run requests).transaction = .opened label (p.run requests).staged := by
  induction requests generalizing p with
  | nil => exact opened
  | cons request rest ih => exact ih (next_opened opened request)

theorem attempts_run (p : Progress) (requests : List Staging) :
    attempts requests p.transaction = (.ok (), (p.run requests).transaction) := by
  induction requests generalizing p with
  | nil => rfl
  | cons request rest ih =>
    rw [attempts_cons]
    exact ih (p.next request)

theorem opened_exact (opened : p.transaction = .opened label p.staged) : p.Exact where
  refused ownerId op e := by
    rw [opened]
    exact stage_opened_error
  unchanged ownerId op e t := by
    rw [opened]
    exact stage_opened_unchanged
  cut := by
    intro ownerId ops e t run
    simp only [next, Staging.action]
    rw [opened] at run ⊢
    rcases stageAll_opened ownerId ops p.staged with
      ⟨whole, -⟩ | ⟨before, op, after, _, split, some, first, refused, stop⟩
    · cases whole.symm.trans run
    · cases stop.symm.trans run
      exact ⟨before, op, after, split, first, refused, congrArg _ some⟩
  whole := by
    intro ownerId ops t run
    simp only [next]
    rw [opened] at run ⊢
    rcases stageAll_opened ownerId ops p.staged with ⟨-, all⟩ | ⟨_, _, _, _, _, _, _, _, stop⟩
    · rw [all]
    · cases stop.symm.trans run
  length := by
    rw [opened]
    rfl

end Progress

end Transaction

/-! ### Submitting -/

/-- The ends of a transaction in which `count` operations have been staged, where `c` is the command of
them all and `s` the supply after it. -/
inductive Host.Submits (h : Host) (c : EditCommand) (s : Supply) (count : Nat) :
    Except RepositoryError (Option Receipt) → Host → Prop where
  | nothing : count = 0 → Submits h c s count (.ok none) { h with supply := s }
  | accepted (r : Repository) : count ≠ 0 → Repository.submit c h.repository = (.ok (), r) →
      r.undoStack = c :: h.repository.undoStack →
      Submits h c s count (.ok (some ⟨c.id, c.label, c.hash, count⟩))
        { h with supply := s, repository := r }
  | refused (e : RepositoryError) : count ≠ 0 →
      Repository.submit c h.repository = (.error e, h.repository) →
      Submits h c s count (.error e) { h with supply := s }

theorem Transaction.opened_submits (label : String) (is : List FieldInsertion) (h : Host) :
    h.Submits (EditCommand.create label is h.supply).1 (EditCommand.create label is h.supply).2 is.length
      ((opened label is).submit h).1 ((opened label is).submit h).2 := by
  cases is with
  | nil =>
    rw [submit_opened_nil]
    exact .nothing rfl
  | cons i is =>
    have run := submit_of_finish (t := opened label (i :: is)) rfl h
    have command : Builder.command { stage := .ended label, placed := i :: is } h.supply =
        (.ok (EditCommand.create label (i :: is) h.supply).1,
          (EditCommand.create label (i :: is) h.supply).2) := rfl
    rw [run, opened, command]
    dsimp only
    rcases submitted : Repository.submit (EditCommand.create label (i :: is) h.supply).1 h.repository with
      ⟨e | _, r⟩
    · obtain rfl := Repository.submit_error submitted
      exact .refused e (Nat.succ_ne_zero _) submitted
    · obtain ⟨q, _, rfl⟩ := Repository.submit_ok submitted
      exact .accepted _ (Nat.succ_ne_zero _) submitted rfl

/-- A new transaction submits what it has staged, whatever it has been asked to stage. Giving it up
leaves everything as it was. -/
theorem staged_submitted (r : Repository) (s : Supply) (view : Option Project) (label : String)
    (requests : List Transaction.Staging) :
    let h : Host := { repository := r, supply := s, view }
    ∃ t, Transaction.start h.builder label = .ok t ∧
      let p := Transaction.Progress.run ⟨t, []⟩ requests
      let fill := Transaction.attempts requests
      let c := (EditCommand.create label p.staged s).1
      p.Exact ∧
        (∀ e, Host.transact label (do fill; throw e) h = (.error e, h)) ∧
        c.label = label ∧ c.insertions = p.staged ∧
        h.Submits c (EditCommand.create label p.staged s).2 p.transaction.staged
          (Host.transact label fill h).1 (Host.transact label fill h).2 := by
  intro h
  refine ⟨.opened label [], Transaction.start_new label, ?_⟩
  intro p fill c
  have opened : p.transaction = .opened label p.staged := Transaction.Progress.run_opened rfl requests
  have filled : fill (.opened label []) = (.ok (), .opened label p.staged) := by
    rw [← opened]
    exact Transaction.Progress.attempts_run ⟨.opened label [], []⟩ requests
  refine ⟨Transaction.Progress.opened_exact opened, ?_, rfl, rfl, ?_⟩
  · intro e
    rw [Host.transact_apply, Transaction.start_new]
    dsimp only
    rw [Action.bind_of_ok filled]
    rfl
  · rw [Host.transact_new rfl filled, opened]
    exact Transaction.opened_submits label p.staged h

-- the second `a` stops the list before `c`, which can be staged later on
example :
    let op (id : Id) : Operation := ⟨id, id, .public, "", []⟩
    let p := Transaction.Progress.run ⟨.opened "edit" [], []⟩
      [.one "o" (op "a"), .all "o" [op "b", op "a", op "c"], .one "i" (op "c")]
    p.staged = [.appending "o" (op "a"), .appending "o" (op "b"), .appending "i" (op "c")] ∧
      p.transaction.staged = 3 := by
  decide

end Accessors
