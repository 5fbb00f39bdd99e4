import Accessors.Builder

/-!
# What builders can be

The calls on a builder, and the builders that they make of a new one. A call that fails changes
nothing (`call_error`), one that succeeds is a `Step`, and a builder that has not been started is
still empty.
-/

namespace Accessors

theorem takeFirst?_eq_none {α : Type} {p : α → Bool} {l : List α} :
    takeFirst? p l = none ↔ ∀ a ∈ l, ¬p a = true := by
  induction l with
  | nil => simp [takeFirst?]
  | cons a l ih =>
    by_cases found : p a = true
    · simp [takeFirst?, found]
    · simp [takeFirst?, found, ih]

theorem takeFirst?_perm {α : Type} {p : α → Bool} {l rest : List α} {a : α}
    (h : takeFirst? p l = some (a, rest)) : p a = true ∧ l.Perm (a :: rest) := by
  induction l generalizing rest with
  | nil => cases h
  | cons b l ih =>
    rw [takeFirst?] at h
    split at h
    · rename_i found
      cases h
      exact ⟨found, .refl _⟩
    · obtain ⟨⟨c, others⟩, taken, same⟩ := Option.map_eq_some_iff.mp h
      cases same
      obtain ⟨found, perm⟩ := ih taken
      exact ⟨found, (perm.cons b).trans (.swap a b others)⟩

namespace Builder

inductive Call where
  | start (label : String)
  | insert (element : Operation)
  | place (ownerId : Id) (field : OwnerField) (elementId : Id)
  | finish

def call (b : Builder) : Call → Except BuilderError Unit × Builder
  | .start label => start label b
  | .insert element => insert element b
  | .place ownerId field elementId => place ownerId field elementId b
  | .finish => finish b

inductive Made : Builder → Prop where
  | new : Made {}
  | call {b : Builder} (c : Call) : Made b → Made (b.call c).2

variable {b b' : Builder} {c : Call}

theorem call_error {e : BuilderError} (h : b.call c = (.error e, b')) :
    b' = b := by
  cases c with
  | start label =>
    simp only [call, start] at h
    split at h <;> cases h <;> rfl
  | insert element =>
    simp only [call, insert] at h
    split at h
    · cases h; rfl
    · split at h <;> cases h
      rfl
  | place ownerId field elementId =>
    simp only [call, place] at h
    split at h
    · cases h; rfl
    · split at h <;> cases h
      rfl
  | finish =>
    simp only [call, finish] at h
    split at h <;> cases h
    rfl

def elements (b : Builder) : List Operation := b.registered ++ b.placed.map (·.element)

theorem knows_iff {b : Builder} {id : Id} : b.knows id = true ↔ id ∈ b.elements.map (·.id) := by
  simp [knows, elements]

/-- The calls that succeed, with the builder before and after. -/
inductive Step : Builder → Call → Builder → Prop where
  | start {b : Builder} (label : String) : b.stage = .idle →
      Step b (.start label) { b with stage := .started label }
  | insert {b : Builder} {label : String} (op : Operation) : b.stage = .started label →
      op.id ∉ b.elements.map (·.id) →
      Step b (.insert op) { b with registered := b.registered ++ [op] }
  | place {b : Builder} {label : String} {rest : List Operation} (ownerId : Id) (field : OwnerField)
      (op : Operation) : b.stage = .started label →
      takeFirst? (·.id == op.id) b.registered = some (op, rest) →
      Step b (.place ownerId field op.id)
        { b with registered := rest, placed := b.placed ++ [⟨ownerId, field, op⟩] }
  | finish {b : Builder} {label : String} : b.stage = .started label →
      Step b .finish { b with stage := .ended label }

theorem label?_eq_ok {label : String} : b.label? = .ok label ↔ b.stage = .started label := by
  unfold label?
  cases b.stage <;> simp

theorem call_step (h : b.call c = (.ok (), b')) : Step b c b' := by
  cases c with
  | start label =>
    simp only [call, start] at h
    split at h <;> cases h
    exact .start label ‹_›
  | insert op =>
    simp only [call, insert] at h
    split at h
    · cases h
    · rename_i label started
      split at h <;> cases h
      rename_i unknown
      exact .insert op (label?_eq_ok.mp started) (mt knows_iff.mpr unknown)
  | place ownerId field id =>
    simp only [call, place] at h
    split at h
    · cases h
    · rename_i label started
      split at h <;> cases h
      rename_i op rest taken
      obtain ⟨found, -⟩ := takeFirst?_perm taken
      obtain rfl : op.id = id := by simpa using found
      exact .place ownerId field op (label?_eq_ok.mp started) taken
  | finish =>
    simp only [call, finish] at h
    split at h <;> cases h
    exact .finish (label?_eq_ok.mp ‹_›)

theorem step_call (h : Step b c b') : b.call c = (.ok (), b') := by
  cases h with
  | start label idle => simp only [call, start, idle]
  | insert op started new =>
    have unknown : b.knows op.id = false := Bool.eq_false_iff.mpr (mt knows_iff.mp new)
    simp only [call, insert, label?_eq_ok.mpr started, unknown, Bool.false_eq_true, if_false]
  | place ownerId field op started taken => simp only [call, place, label?_eq_ok.mpr started, taken]
  | finish started => simp only [call, finish, label?_eq_ok.mpr started]

theorem call_ok (h : b.call c = (.ok (), b')) : b'.stage ≠ .idle := by
  cases call_step h with
  | start label _ => simp
  | insert op started _ => simp [started]
  | place ownerId field op started _ => simp [started]
  | finish _ => simp

theorem made_idle (h : Made b) (idle : b.stage = .idle) : b = {} := by
  induction h with
  | new => rfl
  | @call b c _ ih =>
    obtain ⟨e, b', run⟩ | ⟨b', run⟩ : (∃ e b', b.call c = (.error e, b')) ∨
        ∃ b', b.call c = (.ok (), b') := by
      rcases b.call c with ⟨e | _, b'⟩
      · exact Or.inl ⟨e, b', rfl⟩
      · exact Or.inr ⟨b', rfl⟩
    · rw [run] at idle ⊢
      obtain rfl := call_error run
      exact ih idle
    · rw [run] at idle
      exact absurd idle (call_ok run)

end Builder

end Accessors
