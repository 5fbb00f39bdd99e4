import Accessors.Files

/-!
# Writing a file

A write that fails leaves the directory alone. A write that succeeds changes one file, which is read
from the same path afterwards (`write_cases`, `put_read`): the path still leads there, since a new
file makes no directory out of what was none on the way to it.
-/

namespace Accessors.Directory

variable {d : Directory} {path text : String} {place other base : List String}

theorem write_cases (path text : String) (d : Directory) :
    (∃ e, write path text d = (.error e, d)) ∨
    ∃ place, d.locate path = .ok (place, false) ∧ d.isDirectory place = false ∧
      isOverlong place = false ∧ write path text d = (.ok (), d.put place text) := by
  unfold write
  cases found : d.locate path with
  | error e => exact Or.inl ⟨e, rfl⟩
  | ok target =>
    obtain ⟨place, due⟩ := target
    dsimp only
    by_cases directory : d.isDirectory place || due
    · rw [if_pos directory]
      exact Or.inl ⟨_, rfl⟩
    by_cases overlong : isOverlong place
    · rw [if_neg directory, if_pos overlong]
      exact Or.inl ⟨_, rfl⟩
    · rw [if_neg directory, if_neg overlong]
      obtain ⟨none, rfl⟩ : d.isDirectory place = false ∧ due = false := by simpa using directory
      exact Or.inr ⟨place, rfl, none, by simpa using overlong, rfl⟩

/-! ### The new file -/

theorem put_file? (d : Directory) (place : List String) (text : String) :
    (d.put place text).file? place = some (if d.sinks.contains place then "" else text) := by
  unfold file? put
  split
  · rfl
  · exact List.lookup_cons_self

theorem lookup_filter {entries : List (List String × String)} (different : other ≠ place) :
    (entries.filter (·.1 != place)).lookup other = entries.lookup other := by
  induction entries with
  | nil => rfl
  | cons entry entries ih =>
    obtain ⟨at_, content⟩ := entry
    by_cases same : at_ = place
    · have skipped : (other == at_) = false := by simpa [same] using different
      simp only [List.filter_cons, same, bne_self_eq_false, Bool.false_eq_true, if_false, ih]
      rw [← same, List.lookup_cons, skipped]
    · simp only [List.filter_cons, bne_iff_ne, ne_eq, same, not_false_eq_true, if_true,
        List.lookup_cons, ih]

theorem put_other (text : String) (different : other ≠ place) :
    (d.put place text).file? other = d.file? other := by
  have skipped : (other == place) = false := beq_eq_false_iff_ne.mpr different
  simp only [file?, put, List.lookup_cons, skipped, lookup_filter different]

/-! ### The way to it -/

theorem isDirectory_iff : d.isDirectory place ↔ place = [] ∨ place <+: d.here ∨
    (∃ f ∈ d.folders, place <+: f) ∨ (∃ s ∈ d.sinks, place <+: s ∧ s ≠ place) ∨
    ∃ f ∈ d.files, place <+: f.1 ∧ f.1 ≠ place := by
  simp [isDirectory, or_assoc]

/-- A new file makes directories of the places that lead to it, and of no others. -/
theorem put_isDirectory : (d.put place text).isDirectory other ↔
    (other <+: place ∧ place ≠ other) ∨ d.isDirectory other := by
  have files : (∃ f ∈ (d.put place text).files, other <+: f.1 ∧ f.1 ≠ other) ↔
      (other <+: place ∧ place ≠ other) ∨ ∃ f ∈ d.files, other <+: f.1 ∧ f.1 ≠ other := by
    constructor
    · rintro ⟨f, member, leads⟩
      rcases List.mem_cons.mp member with rfl | member
      · exact Or.inl leads
      · exact Or.inr ⟨f, (List.mem_filter.mp member).1, leads⟩
    · rintro (leads | ⟨f, member, leads⟩)
      · exact ⟨(place, text), List.mem_cons_self, leads⟩
      -- the file that was replaced leads where the new one does
      · by_cases same : f.1 = place
        · exact ⟨(place, text), List.mem_cons_self, same ▸ leads⟩
        · exact ⟨f, List.mem_cons_of_mem _ (List.mem_filter.mpr ⟨member, by simpa using same⟩), leads⟩
  rw [isDirectory_iff, isDirectory_iff, files]
  simp only [put]
  grind

theorem put_follow {names : List String} {due : Bool} (h : d.follow base names = .ok (other, due)) :
    (d.put place text).follow base names = .ok (other, due) := by
  -- on the names; all but the last pass through directories, and these stay directories
  induction names generalizing base with
  | nil => exact h
  | cons name rest ih =>
    unfold follow at h ⊢
    split at h
    · rename_i stays
      rw [if_pos stays]
      cases rest with
      | nil => exact h
      | cons next rest => exact ih h
    rename_i moves
    rw [if_neg moves]
    split at h
    · rename_i back
      rw [if_pos back]
      exact ih h
    rename_i onward
    rw [if_neg onward]
    dsimp only at h ⊢
    split at h
    · rename_i last
      rw [if_pos last]
      exact h
    rename_i more
    rw [if_neg more]
    split at h
    · cases h
    rename_i short
    rw [if_neg short]
    split at h
    · rename_i directory
      rw [if_pos (put_isDirectory.mpr (Or.inr directory))]
      exact ih h
    · split at h <;> cases h

theorem put_locate {due : Bool} (h : d.locate path = .ok (other, due)) :
    (d.put place text).locate path = .ok (other, due) := by
  unfold locate at h ⊢
  split at h
  · cases h
  split at h
  · cases h
  split at h
  · cases h
  rename_i filled clean short
  rw [if_neg filled, if_neg clean, if_neg short]
  exact put_follow h

theorem put_free (free : d.isDirectory place = false) : (d.put place text).isDirectory place = false := by
  rw [Bool.eq_false_iff]
  intro directory
  obtain ⟨_, different⟩ | before := put_isDirectory.mp directory
  · exact different rfl
  · rw [free] at before
    cases before

/-- A file is read from the path that it was written to, unless it stays empty. -/
theorem put_read (found : d.locate path = .ok (place, false)) (free : d.isDirectory place = false)
    (short : isOverlong place = false) :
    (d.put place text).read path = .ok (if d.sinks.contains place then "" else text) := by
  unfold read
  rw [put_locate found]
  simp only [short, Bool.false_eq_true, if_false, put_free free, put_file?]

theorem read_sink (found : d.locate path = .ok (place, false)) (free : d.isDirectory place = false)
    (short : isOverlong place = false) (sink : d.sinks.contains place) : d.read path = .ok "" := by
  unfold read file?
  simp only [found, short, free, sink, Bool.false_eq_true, if_false, if_true]

/-- A file that was written can be written again. -/
theorem put_write (found : d.locate path = .ok (place, false)) (free : d.isDirectory place = false)
    (short : isOverlong place = false) (next : String) :
    write path next (d.put place text) = (.ok (), (d.put place text).put place next) := by
  unfold write
  simp only [put_locate found, put_free free, short, Bool.or_self, Bool.false_eq_true, if_false]

theorem put_again (d : Directory) (place other : List String) (text : String) :
    ((d.put place text).put place text).file? other = (d.put place text).file? other := by
  by_cases same : other = place
  · subst same
    rw [put_file?, put_file?]
    rfl
  · exact put_other text same

theorem put_again_read (found : d.locate path = .ok (place, false)) (free : d.isDirectory place = false)
    (short : isOverlong place = false) :
    ((d.put place text).put place text).read path = (d.put place text).read path := by
  rw [put_read (put_locate found) (put_free free) short, put_read found free short]
  rfl

end Accessors.Directory
