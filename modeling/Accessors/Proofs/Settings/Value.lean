import Accessors.Settings.Value

/-!
# Values in a tree of settings

What is found in a tree after a value was set in it: a value that is no table is found where it was
set, and everywhere else the tree is as before (`setPath?_inner?`). The members of a table go over
those that are there one by one (`get?_mergeMembers`).
-/

namespace Accessors.Settings.Value

def isTable : Value → Bool
  | .table _ => true
  | _ => false

variable {name other : String} {v w target : Value} {ms : List (String × Value)}

/-! ### Members -/

theorem lookup_absent {α : Type} {members : List (String × α)} (absent : name ∉ members.map (·.1)) :
    members.lookup name = none := by
  rw [List.lookup_eq_none_iff]
  intro m inside
  exact bne_iff_ne.mpr fun same => absent (same ▸ List.mem_map_of_mem inside)

theorem lookup_member {α : Type} {members : List (String × α)} (distinct : (members.map (·.1)).Nodup)
    {m : String × α} (inside : m ∈ members) : members.lookup m.1 = some m.2 := by
  induction members with
  | nil => cases inside
  | cons first members ih =>
    obtain ⟨fresh, distinct⟩ := List.nodup_cons.mp distinct
    rw [List.lookup_cons]
    rcases List.mem_cons.mp inside with rfl | later
    · rw [beq_self_eq_true]
    · have different : m.1 ≠ first.1 := fun same => fresh (List.mem_map.mpr ⟨m, later, same⟩)
      rw [beq_eq_false_iff_ne.mpr different]
      exact ih distinct later

theorem lookup_replace_self (name : String) (v : Value) (ms : List (String × Value)) :
    (replace name v ms).lookup name = some v := by
  induction ms with
  | nil => simp [replace]
  | cons m ms ih =>
    rw [replace]
    by_cases here : m.1 = name
    · rw [if_pos here, here]
      exact List.lookup_cons_self
    · have passed : (name == m.1) = false := beq_eq_false_iff_ne.mpr (Ne.symm here)
      rw [if_neg here, List.lookup_cons, passed]
      exact ih

theorem lookup_replace_other (different : other ≠ name) (v : Value) (ms : List (String × Value)) :
    (replace name v ms).lookup other = ms.lookup other := by
  have new : (other == name) = false := beq_eq_false_iff_ne.mpr different
  induction ms with
  | nil => simp [replace, different]
  | cons m ms ih =>
    rw [replace]
    by_cases here : m.1 = name
    · have old : (other == m.1) = false := here ▸ new
      rw [if_pos here, List.lookup_cons, List.lookup_cons, old]
    · rw [if_neg here, List.lookup_cons, List.lookup_cons, ih]

@[simp]
theorem get?_put_self (target : Value) (name : String) (v : Value) :
    (target.put name v).get? name = some v :=
  lookup_replace_self name v target.members

theorem get?_put_other (different : other ≠ name) (target v : Value) :
    (target.put name v).get? other = target.get? other :=
  lookup_replace_other different v target.members

@[simp]
theorem isTable_put (target : Value) (name : String) (v : Value) : (target.put name v).isTable := rfl

/-! ### Merging -/

theorem merge_plain (plain : v.isTable = false) (old : Option Value) : merge v old = v := by
  cases v <;> first | rfl | cases plain

theorem mergeMembers_isTable (table : target.isTable) : (mergeMembers ms target).isTable := by
  induction ms generalizing target with
  | nil => exact table
  | cons m ms ih => exact ih (isTable_put _ _ _)

theorem get?_mergeMembers (lower : ∀ m ∈ ms, Text.lower m.1 = m.1) (distinct : (ms.map (·.1)).Nodup)
    (target : Value) (name : String) :
    (mergeMembers ms target).get? name =
      match ms.lookup name with
      | some v => some (merge v (target.get? name))
      | none => target.get? name := by
  induction ms generalizing target with
  | nil => rfl
  | cons m ms ih =>
    obtain ⟨key, v⟩ := m
    obtain ⟨same, lower⟩ := List.forall_mem_cons.mp lower
    obtain ⟨fresh, distinct⟩ := List.nodup_cons.mp distinct
    rw [mergeMembers, same, ih lower distinct, List.lookup_cons]
    -- no later member has the key again, so what is merged under it stays
    by_cases here : name = key
    · subst here
      rw [lookup_absent fresh, get?_put_self, beq_self_eq_true]
    · rw [get?_put_other here, beq_eq_false_iff_ne.mpr here]

/-! ### Under two keys -/

def inner? (t : Value) (outer name : String) : Option Value := (t.get? outer).bind (·.get? name)

theorem inner?_put_other (different : other ≠ name) (t v : Value) (n : String) :
    (t.put name v).inner? other n = t.inner? other n := by
  rw [inner?, inner?, get?_put_other different]

/-- A value that is no table is set under two keys and nowhere else. -/
theorem setPath?_inner? (plain : v.isTable = false) {outer : String} (lowerOuter : Text.lower outer = outer)
    (lowerName : Text.lower name = name) (target : Value) :
    ∃ w, w.isTable ∧ v.setPath? [.key outer, .key name] target = some (target.put outer w) ∧
      ∀ n, w.get? n = if n = name then some v else target.inner? outer n := by
  refine ⟨((target.get? outer).getD .nil).put name v, rfl, ?_, fun n => ?_⟩
  · have set : ∀ t, setPath? v [.key name] t = some (t.put name v) := by
      intro t
      rw [setPath?, mergeMembers, lowerName, merge_plain plain]
      rfl
    rw [setPath?, lowerOuter, set]
    · rfl
    · simp
  · split
    · rename_i here
      rw [here, get?_put_self]
    · rename_i elsewhere
      rw [get?_put_other elsewhere, inner?]
      cases target.get? outer <;> rfl

end Accessors.Settings.Value
