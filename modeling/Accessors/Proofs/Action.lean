import Accessors.Action

/-!
# Running actions

What an action does to a state, one equation for each way to build it. `bind_ok` takes a run of two
actions apart.
-/

namespace Accessors.Action

variable {σ τ ε δ α β : Type}

theorem bind_apply (a : Action σ ε α) (f : α → Action σ ε β) (s : σ) :
    (a >>= f) s = match a s with
      | (.ok x, s') => f x s'
      | (.error e, s') => (.error e, s') := by
  simp only [bind, ExceptT.bind, ExceptT.mk, StateT.bind]
  rcases a s with ⟨_ | _, s'⟩ <;> rfl

theorem pure_apply (x : α) (s : σ) : (pure x : Action σ ε α) s = (.ok x, s) := rfl

theorem get_apply (s : σ) : (get : Action σ ε σ) s = (.ok s, s) := rfl

theorem modify_apply (f : σ → σ) (s : σ) : (modify f : Action σ ε PUnit) s = (.ok (), f s) := rfl

theorem tryCatch_apply (a : Action σ ε α) (f : ε → Action σ ε α) (s : σ) :
    (tryCatch a f : Action σ ε α) s = match a s with
      | (.ok x, s') => (.ok x, s')
      | (.error e, s') => f e s' := by
  simp only [tryCatch, tryCatchThe, MonadExceptOf.tryCatch, ExceptT.tryCatch, ExceptT.mk, bind,
    StateT.bind]
  rcases a s with ⟨_ | _, s'⟩ <;> rfl

theorem ofState_apply (m : StateM σ α) (s : σ) : (ofState m : Action σ ε α) s = (.ok (m s).1, (m s).2) :=
  rfl

theorem mapError_apply (f : ε → δ) (a : Action σ ε α) (s : σ) :
    a.mapError f s = ((a s).1.mapError f, (a s).2) := rfl

theorem mapError_ok (f : ε → δ) (x : α) : (Except.ok x : Except ε α).mapError f = .ok x := rfl

theorem focus_apply (view : τ → σ) (update : τ → σ → τ) (a : Action σ ε α) (t : τ) :
    a.focus view update t = ((a (view t)).1, update t (a (view t)).2) := rfl

theorem bind_ok {a : Action σ ε α} {f : α → Action σ ε β} {s t : σ} {y : β}
    (h : (a >>= f) s = (.ok y, t)) : ∃ x s', a s = (.ok x, s') ∧ f x s' = (.ok y, t) := by
  rw [bind_apply] at h
  rcases run : a s with ⟨_ | x, s'⟩
  · rw [run] at h
    cases h
  · rw [run] at h
    exact ⟨x, s', rfl, h⟩

theorem bind_of_ok {a : Action σ ε α} {s s' : σ} {x : α} (h : a s = (.ok x, s'))
    (f : α → Action σ ε β) : (a >>= f) s = f x s' := by
  rw [bind_apply, h]

theorem bind_of_error {a : Action σ ε α} {s s' : σ} {e : ε} (h : a s = (.error e, s'))
    (f : α → Action σ ε β) : (a >>= f) s = (.error e, s') := by
  rw [bind_apply, h]

end Accessors.Action
