import Accessors.Text.Casing

/-!
# Lower case

A text in lower case stays as it is when it is put in lower case again (`lower_lower`). A leading `?`
plays no part in it: it stays in front (`lower_mark`), ends no word, and comes from no other character
(`lower_head`).
-/

namespace Accessors.Text

/-! ### The first character -/

theorem ofNat_ne_mark {n : Nat} (h : '?'.toNat < n) : Char.ofNat n ≠ '?' := by
  intro same
  by_cases valid : n.isValidChar
  · rw [Char.ofNat, dif_pos valid] at same
    have code : n = '?'.toNat := congrArg Char.toNat same
    omega
  · rw [Char.ofNat, dif_neg valid] at same
    cases same

theorem mapped?_above {runs : List CaseRun} {bound c image : Nat} (above : ∀ r ∈ runs, bound < r.image)
    (h : mapped? runs c = some image) : bound < image := by
  obtain ⟨r, found, rfl⟩ := Option.map_eq_some_iff.mp h
  have start := above r (List.mem_of_find?_eq_some found)
  omega

/-- The lower-case form of a character is not empty, and only that of `?` begins with `?`. -/
theorem lowerChar_head {c : Char} (plain : c ≠ '?') : ∃ d ds, lowerChar c = d :: ds ∧ d ≠ '?' := by
  -- all that the tables give lies above the mark
  have runs : ∀ r ∈ lowerRuns, '?'.toNat < r.image := by
    have all : (lowerRuns.all fun r => '?'.toNat < r.image) = true := by decide +kernel
    simpa using all
  have expansions : ∀ x ∈ lowerExpansions, ∃ n ns, x.2 = n :: ns ∧ '?'.toNat < n := by
    simp [lowerExpansions]
  unfold lowerChar mapChar
  cases expanded : lowerExpansions.lookup c.toNat with
  | some images =>
    obtain ⟨before, after, split, -⟩ := List.lookup_eq_some_iff.mp expanded
    obtain ⟨n, ns, rfl, above⟩ := expansions (c.toNat, images) (by simp [split])
    exact ⟨_, _, rfl, ofNat_ne_mark above⟩
  | none =>
    cases moved : mapped? lowerRuns c.toNat with
    | some image => exact ⟨_, _, rfl, ofNat_ne_mark (mapped?_above runs moved)⟩
    | none => exact ⟨c, [], rfl, plain⟩

theorem lower_head {s : String} (h : ∃ c cs, s.toList = c :: cs ∧ c ≠ '?') :
    ∃ c cs, (lower s).toList = c :: cs ∧ c ≠ '?' := by
  obtain ⟨c, cs, text, plain⟩ := h
  rw [lower, text, lowerFrom, String.toList_ofList]
  by_cases sigma : c = 'Σ'
  · rw [if_pos sigma]
    split
    · exact ⟨'ς', _, rfl, by decide⟩
    · exact ⟨'σ', _, rfl, by decide⟩
  · obtain ⟨d, ds, first, different⟩ := lowerChar_head plain
    rw [if_neg sigma, first]
    exact ⟨d, _, rfl, different⟩

/-! ### A mark in front -/

/-- A character that is neither cased nor ignorable bounds what a sigma sees, as the end of the text
does. -/
theorem meetsCased_bounded {mark : Char} (uncased : cased mark = false)
    (counts : caseIgnorable mark = false) (before : List Char) :
    meetsCased (before ++ [mark]) = meetsCased before := by
  induction before with
  | nil => simp [meetsCased, uncased, counts]
  | cons c before ih =>
    unfold meetsCased at ih ⊢
    rw [List.cons_append, List.dropWhile_cons, List.dropWhile_cons]
    by_cases ignored : caseIgnorable c
    · rw [if_pos ignored, if_pos ignored]
      exact ih
    · rw [if_neg ignored, if_neg ignored]

theorem lowerFrom_bounded {mark : Char} (uncased : cased mark = false)
    (counts : caseIgnorable mark = false) (cs before : List Char) :
    lowerFrom (before ++ [mark]) cs = lowerFrom before cs := by
  induction cs generalizing before with
  | nil => rfl
  | cons c cs ih =>
    have sees : endsWord (before ++ [mark]) cs = endsWord before cs := by
      rw [endsWord, endsWord, meetsCased_bounded uncased counts]
    rw [lowerFrom, lowerFrom, sees, ← List.cons_append, ih]

theorem lower_mark (s : String) : lower ("?" ++ s) = "?" ++ lower s := by
  have uncased : cased '?' = false := by decide +kernel
  have counts : caseIgnorable '?' = false := by decide +kernel
  have kept : lowerChar '?' = ['?'] := by decide +kernel
  have text : ("?" ++ s).toList = '?' :: s.toList := by simp
  apply String.toList_inj.mp
  rw [lower, text, lowerFrom, if_neg (by decide), kept, ← List.nil_append ['?'],
    lowerFrom_bounded uncased counts, lower]
  simp

/-! ### Twice in lower case -/

/-- No image under `r` is a code point that `s` maps: they lie on one side, or between those of `s`. -/
def CaseRun.apart (r s : CaseRun) : Bool :=
  Nat.blt (r.image + (r.last - r.first)) s.first || Nat.blt s.last r.image ||
    ((r.step == 2 || r.first == r.last) && s.step == 2 && (r.image + s.first) % 2 == 1)

theorem CaseRun.apart_covers {r s : CaseRun} {c : Nat} (h : r.apart s) (covered : r.covers c) :
    s.covers (r.image + (c - r.first)) = false := by
  simp only [apart, covers, Bool.or_eq_true, Bool.and_eq_true, Nat.blt_eq, decide_eq_true_eq,
    beq_iff_eq] at h covered
  simp only [covers, Bool.and_eq_false_iff, decide_eq_false_iff_not, beq_eq_false_iff_ne]
  obtain (below | above) | ⟨⟨twice | single, also⟩, odd⟩ := h
  · omega
  · omega
  · rw [twice] at covered
    rw [also]
    omega
  · rw [also]
    omega

theorem lowerRuns_apart {r s : CaseRun} (first : r ∈ lowerRuns) (second : s ∈ lowerRuns) : r.apart s := by
  have all : (lowerRuns.all fun r => lowerRuns.all fun s => r.apart s) = true := by decide +kernel
  exact List.all_eq_true.mp (List.all_eq_true.mp all r first) s second

theorem mapped?_image {c image : Nat} (h : mapped? lowerRuns c = some image) :
    mapped? lowerRuns image = none := by
  obtain ⟨r, found, rfl⟩ := Option.map_eq_some_iff.mp h
  have covered := List.find?_some found
  have member := List.mem_of_find?_eq_some found
  rw [mapped?, Option.map_eq_none_iff, List.find?_eq_none]
  intro s other
  rw [CaseRun.apart_covers (lowerRuns_apart member other) covered]
  exact Bool.false_ne_true

theorem lookup_image {c image : Nat} (h : mapped? lowerRuns c = some image) :
    lowerExpansions.lookup image = none := by
  -- an expansion is a run of one code point
  have all : (lowerRuns.all fun r => lowerExpansions.all fun x => r.apart ⟨x.1, x.1, 1, 0⟩) = true := by
    decide +kernel
  obtain ⟨r, found, rfl⟩ := Option.map_eq_some_iff.mp h
  have covered := List.find?_some found
  have member := List.mem_of_find?_eq_some found
  rw [List.lookup_eq_none_iff]
  intro x expansion
  have outside := CaseRun.apart_covers (List.all_eq_true.mp (List.all_eq_true.mp all r member) x expansion)
    covered
  rw [bne_iff_ne]
  intro same
  rw [same] at outside
  simp [CaseRun.covers] at outside

theorem lowerChar_lowered {c d : Char} (h : d ∈ lowerChar c) : lowerChar d = [d] := by
  have expansions : ∀ x ∈ lowerExpansions, ∀ n ∈ x.2, lowerChar (Char.ofNat n) = [Char.ofNat n] := by
    decide +kernel
  unfold lowerChar mapChar at h
  split at h
  · rename_i images expanded
    obtain ⟨before, after, split, -⟩ := List.lookup_eq_some_iff.mp expanded
    obtain ⟨n, member, rfl⟩ := List.mem_map.mp h
    exact expansions (c.toNat, images) (by simp [split]) n member
  rename_i unexpanded
  split at h
  · rename_i image moved
    obtain rfl := List.mem_singleton.mp h
    by_cases valid : image.isValidChar
    · have code : (Char.ofNat image).toNat = image := by
        rw [Char.ofNat, dif_pos valid]
        rfl
      rw [lowerChar, mapChar, code, lookup_image moved, mapped?_image moved]
    · rw [Char.ofNat, dif_neg valid]
      decide +kernel
  · rename_i unmoved
    obtain rfl := List.mem_singleton.mp h
    rw [lowerChar, mapChar, unexpanded, unmoved]

theorem lowerFrom_lowered {before cs : List Char} : ∀ d ∈ lowerFrom before cs, lowerChar d = [d] := by
  induction cs generalizing before with
  | nil => exact List.forall_mem_nil _
  | cons c cs ih =>
    rw [lowerFrom, List.forall_mem_append]
    refine ⟨?_, ih⟩
    split
    · split <;> exact List.forall_mem_singleton.mpr (by decide +kernel)
    · exact fun d => lowerChar_lowered

theorem lowerFrom_eq_self {cs : List Char} (lowered : ∀ d ∈ cs, lowerChar d = [d]) (before : List Char) :
    lowerFrom before cs = cs := by
  induction cs generalizing before with
  | nil => rfl
  | cons c cs ih =>
    obtain ⟨same, lowered⟩ := List.forall_mem_cons.mp lowered
    have sigma : c ≠ 'Σ' := by
      rintro rfl
      exact absurd same (by decide +kernel)
    rw [lowerFrom, if_neg sigma, same, ih lowered, List.singleton_append]

@[simp]
theorem lower_lower (s : String) : lower (lower s) = lower s := by
  have same : lowerFrom [] (lower s).toList = (lower s).toList := by
    apply lowerFrom_eq_self
    rw [lower, String.toList_ofList]
    exact lowerFrom_lowered
  rw [lower, same, String.ofList_toList]

end Accessors.Text
