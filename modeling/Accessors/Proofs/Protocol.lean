import Mathlib.Data.List.Nodup
import Mathlib.Data.List.Perm.Basic
import Accessors.Proofs.Builder

/-!
# The protocol of builders

Whatever is asked of a new builder, the calls that have succeeded tell all about it: which of them
there can be, what has become of the elements, which call succeeds next and what the command is
(`dialogue_obeys`).
-/

namespace Accessors.Builder

variable {b b' : Builder} {c : Call} {done : List Call}

/-! ### What the successful calls tell -/

def Call.Fills : Call → Prop
  | .insert _ => True
  | .place .. => True
  | _ => False

/-- One start, then elements, then one end, as far as it has come. -/
inductive InOrder : List Call → Stage → Prop where
  | idle : InOrder [] .idle
  | started (label : String) {fills : List Call} : (∀ c ∈ fills, c.Fills) →
      InOrder (.start label :: fills) (.started label)
  | ended (label : String) {fills : List Call} : (∀ c ∈ fills, c.Fills) →
      InOrder (.start label :: fills ++ [.finish]) (.ended label)

def inserted (done : List Call) : List Operation :=
  done.filterMap fun
    | .insert op => some op
    | _ => none

/-- One insertion for each element that has been placed, in order, with the element that had been
registered under that identifier. -/
inductive Records : List Call → List FieldInsertion → Prop where
  | new : Records [] []
  | place {done : List Call} {is : List FieldInsertion} (ownerId : Id) (field : OwnerField)
      {op : Operation} : Records done is → op ∈ inserted done →
      Records (done ++ [.place ownerId field op.id]) (is ++ [⟨ownerId, field, op⟩])
  | other {done : List Call} {is : List FieldInsertion} {c : Call} : Records done is →
      (∀ ownerId field id, c ≠ .place ownerId field id) → Records (done ++ [c]) is

def Due (done : List Call) : Call → Prop
  | .start _ => done = []
  | .insert op => done ≠ [] ∧ .finish ∉ done ∧ ∀ known ∈ inserted done, known.id ≠ op.id
  | .place _ _ id => done ≠ [] ∧ .finish ∉ done ∧ (∃ op ∈ inserted done, op.id = id) ∧
      ∀ ownerId field, .place ownerId field id ∉ done
  | .finish => done ≠ [] ∧ .finish ∉ done

theorem inserted_concat (done : List Call) (c : Call) : inserted (done ++ [c]) = inserted done ++ inserted [c] :=
  List.filterMap_append

theorem records_placed {is : List FieldInsertion} (h : Records done is) (id : Id) :
    (∃ ownerId field, .place ownerId field id ∈ done) ↔ id ∈ is.map (·.element.id) := by
  induction h with
  | new => simp
  | place ownerId field _ _ ih =>
    simp only [List.mem_append, List.mem_singleton, List.map_append, List.map_singleton, exists_or, ih,
      Call.place.injEq]
    apply or_congr_right
    constructor
    · rintro ⟨_, _, _, _, same⟩
      exact same
    · intro same
      exact ⟨ownerId, field, rfl, trivial, same⟩
  | other _ different ih =>
    simp only [List.mem_append, List.mem_singleton, exists_or, ih]
    apply or_iff_left
    rintro ⟨ownerId, field, same⟩
    exact different ownerId field id same.symm

structure Kept (done : List Call) (b : Builder) : Prop where
  order : InOrder done b.stage
  distinct : (b.elements.map (·.id)).Nodup
  elements : (inserted done).Perm b.elements
  placed : Records done b.placed

theorem kept_new : Kept [] {} := ⟨.idle, List.nodup_nil, .refl _, .new⟩

theorem inOrder_fill {label : String} (h : InOrder done (.started label)) (fills : c.Fills) :
    InOrder (done ++ [c]) (.started label) := by
  cases h with
  | started label before =>
    apply InOrder.started label
    intro d member
    rcases List.mem_append.mp member with member | member
    · exact before d member
    · obtain rfl := List.mem_singleton.mp member
      exact fills

theorem inOrder_finish {label : String} (h : InOrder done (.started label)) :
    InOrder (done ++ [.finish]) (.ended label) := by
  cases h with
  | started label fills => exact .ended label fills

theorem inOrder_start {label : String} (h : InOrder done (.ended label)) : .start label ∈ done := by
  cases h with
  | ended label fills => exact List.mem_cons_self

theorem insert_perm (b : Builder) (op : Operation) :
    (b.elements ++ [op]).Perm { b with registered := b.registered ++ [op] }.elements := by
  simp only [Builder.elements, List.append_assoc]
  exact List.perm_append_comm.append_left b.registered

theorem place_perm {rest : List Operation} {i : FieldInsertion}
    (perm : b.registered.Perm (i.element :: rest)) :
    b.elements.Perm { b with registered := rest, placed := b.placed ++ [i] }.elements := by
  simp only [Builder.elements, List.map_append, List.map_singleton, ← List.append_assoc]
  exact (perm.append_right _).trans (List.perm_append_singleton i.element _).symm

theorem step_kept (h : Kept done b) (step : Step b c b') : Kept (done ++ [c]) b' := by
  obtain ⟨order, distinct, elements, placed⟩ := h
  cases step with
  | start label idle =>
    rw [idle] at order
    cases order
    exact ⟨.started label nofun, distinct, elements, .other placed nofun⟩
  | insert op started new =>
    have perm := insert_perm b op
    refine ⟨?_, ?_, ?_, .other placed nofun⟩
    · exact started ▸ inOrder_fill (started ▸ order) trivial
    · rw [← (perm.map _).nodup_iff, List.map_append, List.map_singleton, ← List.concat_eq_append]
      exact distinct.concat new
    · rw [inserted_concat]
      exact (elements.append_right [op]).trans perm
  | place ownerId field op started taken =>
    have perm := place_perm (i := ⟨ownerId, field, op⟩) (takeFirst?_perm taken).2
    have registered : op ∈ b.registered := (takeFirst?_perm taken).2.mem_iff.mpr List.mem_cons_self
    have known : op ∈ inserted done := elements.mem_iff.mpr (List.mem_append_left _ registered)
    refine ⟨?_, ?_, ?_, .place ownerId field placed known⟩
    · exact started ▸ inOrder_fill (started ▸ order) trivial
    · exact (perm.map _).nodup_iff.mp distinct
    · rw [inserted_concat]
      exact (List.append_nil _).symm ▸ elements.trans perm
  | finish started =>
    rw [started] at order
    refine ⟨inOrder_finish order, distinct, ?_, .other placed nofun⟩
    rw [inserted_concat]
    exact (List.append_nil _).symm ▸ elements

theorem inOrder_done (h : InOrder done b.stage) :
    (b.stage = .idle ↔ done = []) ∧
    ((∃ label, b.stage = .started label) ↔ done ≠ [] ∧ .finish ∉ done) ∧
    ((∃ label, b.stage = .ended label) ↔ .finish ∈ done) := by
  have unfinished {fills : List Call} (before : ∀ c ∈ fills, c.Fills) : Call.finish ∉ fills :=
    fun member => before .finish member
  generalize b.stage = stage at h
  cases h with
  | idle => simp
  | started label before => simp [unfinished before]
  | ended label before => simp

theorem kept_apart (h : Kept done b) : ∀ op ∈ b.registered, op.id ∉ b.placed.map (·.element.id) := by
  intro op there placed
  have distinct := h.distinct
  rw [elements, List.map_append, List.map_map, List.nodup_append] at distinct
  exact distinct.2.2 op.id (List.mem_map_of_mem there) op.id placed rfl

/-- Which calls succeed next is told by those that have succeeded. -/
theorem kept_due (h : Kept done b) (c : Call) : (∃ b', Step b c b') ↔ Due done c := by
  have apart := kept_apart h
  obtain ⟨order, distinct, elements, placed⟩ := h
  obtain ⟨idle, started, -⟩ := inOrder_done order
  cases c with
  | start label =>
    rw [Due, ← idle]
    constructor
    · rintro ⟨_, step⟩
      cases step
      assumption
    · intro idle
      exact ⟨_, .start label idle⟩
  | insert op =>
    have new : op.id ∉ b.elements.map (·.id) ↔ ∀ known ∈ inserted done, known.id ≠ op.id := by
      rw [← (elements.map _).mem_iff]
      simp
    rw [Due, ← and_assoc, ← started, ← new]
    constructor
    · rintro ⟨_, step⟩
      cases step with
      | insert op running new => exact ⟨⟨_, running⟩, new⟩
    · rintro ⟨⟨label, running⟩, new⟩
      exact ⟨_, .insert op running new⟩
  | place ownerId field id =>
    rw [Due, ← and_assoc, ← started]
    constructor
    · rintro ⟨_, step⟩
      cases step with
      | place _ _ op running taken =>
        have there : op ∈ b.registered := (takeFirst?_perm taken).2.mem_iff.mpr List.mem_cons_self
        refine ⟨⟨_, running⟩, ⟨op, elements.mem_iff.mpr (List.mem_append_left _ there), rfl⟩, ?_⟩
        intro ownerId field again
        exact apart op there ((records_placed placed op.id).mp ⟨ownerId, field, again⟩)
    · rintro ⟨⟨label, running⟩, ⟨op, known, same⟩, new⟩
      -- what is known and has not been placed is still registered
      rcases List.mem_append.mp (elements.mem_iff.mp known) with there | there
      · cases taken : takeFirst? (·.id == id) b.registered with
        | none =>
          have absent := takeFirst?_eq_none.mp taken op there
          simp [same] at absent
        | some found =>
          obtain ⟨same, -⟩ := takeFirst?_perm taken
          obtain rfl : found.1.id = id := by simpa using same
          exact ⟨_, .place ownerId field found.1 running taken⟩
      · obtain ⟨i, member, rfl⟩ := List.mem_map.mp there
        obtain ⟨ownerId, field, call⟩ := (records_placed placed id).mpr (List.mem_map.mpr ⟨i, member, same⟩)
        exact (new ownerId field call).elim
  | finish =>
    rw [Due, ← started]
    constructor
    · rintro ⟨_, step⟩
      cases step
      exact ⟨_, by assumption⟩
    · rintro ⟨label, running⟩
      exact ⟨_, .finish running⟩

/-! ### Dialogues -/

inductive Request where
  | call (c : Call)
  | command

structure Dialogue where
  builder : Builder := {}
  supply : Supply
  /-- The calls that have succeeded. -/
  done : List Call := []

namespace Dialogue

def reply (d : Dialogue) : Request → Except BuilderError (Option EditCommand)
  | .call c => (d.builder.call c).1.map fun () => none
  | .command => (d.builder.command d.supply).1.map some

def next (d : Dialogue) : Request → Dialogue
  | .call c =>
    { d with
      builder := (d.builder.call c).2
      done := match (d.builder.call c).1 with
        | .ok () => d.done ++ [c]
        | .error _ => d.done }
  | .command => { d with supply := (d.builder.command d.supply).2 }

def run : Dialogue → List Request → Dialogue
  | d, [] => d
  | d, request :: rest => run (d.next request) rest

variable {d : Dialogue}

theorem next_kept (h : Kept d.done d.builder) (request : Request) :
    Kept (d.next request).done (d.next request).builder := by
  cases request with
  | command => exact h
  | call c =>
    rcases result : d.builder.call c with ⟨e | _, b⟩
    · obtain rfl := call_error result
      simpa only [next, result] using h
    · simpa only [next, result] using step_kept h (call_step result)

theorem run_kept (h : Kept d.done d.builder) (requests : List Request) :
    Kept (d.run requests).done (d.run requests).builder := by
  induction requests generalizing d with
  | nil => exact h
  | cons request rest ih => exact ih (next_kept h request)

/-- The protocol, as it stands in the middle of a dialogue. -/
structure Obeys (d : Dialogue) : Prop where
  refused : ∀ request e, d.reply request = .error e → (d.next request).builder = d.builder
  due : ∀ c, d.reply (.call c) = .ok none ↔ Due d.done c
  order : InOrder d.done d.builder.stage
  distinct : (d.builder.elements.map (·.id)).Nodup
  elements : (inserted d.done).Perm d.builder.elements
  command : (∃ c, d.reply .command = .ok (some c)) ↔ .finish ∈ d.done
  /-- The command has the label of the start and all that has been placed, nothing else. -/
  content : ∀ c, d.reply .command = .ok (some c) →
    .start c.label ∈ d.done ∧ Records d.done c.insertions ∧
      ∀ op ∈ d.builder.registered, op.id ∉ c.insertedIds

theorem reply_refused {request : Request} {e : BuilderError} (h : d.reply request = .error e) :
    (d.next request).builder = d.builder := by
  cases request with
  | command => rfl
  | call c =>
    rcases result : d.builder.call c with ⟨source | _, b⟩
    · simpa only [next, result] using call_error result
    · simp only [reply, result] at h
      cases h

theorem reply_call (d : Dialogue) (c : Call) :
    d.reply (.call c) = .ok none ↔ ∃ b', Step d.builder c b' := by
  constructor
  · intro h
    rcases result : d.builder.call c with ⟨e | _, b⟩
    · simp only [reply, result] at h
      cases h
    · exact ⟨b, call_step result⟩
  · rintro ⟨b, step⟩
    rw [reply, step_call step]
    rfl

theorem reply_command (d : Dialogue) (c : EditCommand) :
    d.reply .command = .ok (some c) ↔
      ∃ label, d.builder.stage = .ended label ∧
        c = (EditCommand.create label d.builder.placed d.supply).1 := by
  unfold reply Builder.command content
  cases d.builder.stage with
  | idle => simp [Except.map]
  | started label => simp [Except.map]
  | ended label =>
    simp only [Stage.ended.injEq, exists_eq_left']
    show Except.ok (some (EditCommand.create label d.builder.placed d.supply).1) = .ok (some c) ↔ _
    simp [eq_comm]

theorem kept_obeys (h : Kept d.done d.builder) : d.Obeys where
  refused _ _ := reply_refused
  due c := (reply_call d c).trans (kept_due h c)
  order := h.order
  distinct := h.distinct
  elements := h.elements
  command := by
    rw [← (inOrder_done h.order).2.2]
    constructor
    · rintro ⟨c, given⟩
      obtain ⟨label, ended, -⟩ := (reply_command d c).mp given
      exact ⟨label, ended⟩
    · rintro ⟨label, ended⟩
      exact ⟨_, (reply_command d _).mpr ⟨label, ended, rfl⟩⟩
  content := by
    intro c given
    obtain ⟨label, ended, rfl⟩ := (reply_command d c).mp given
    exact ⟨inOrder_start (ended ▸ h.order), h.placed, kept_apart h⟩

end Dialogue

/-- Every dialogue with a new builder obeys the protocol, wherever it stands. -/
theorem dialogue_obeys (s : Supply) (requests : List Request) :
    (Dialogue.run { supply := s } requests).Obeys :=
  Dialogue.kept_obeys (Dialogue.run_kept kept_new requests)

end Accessors.Builder
