import Mathlib.Data.List.Nodup
import Accessors.Proofs.Settings.Layers

/-!
# Entries of files

A file of settings gives some of them: in a table for each group, with a value of its type for each
setting (`Nested`). Whatever is given can be written so (`tables_nested`). The layer of such a file has
what is given and nothing else (`Nested.reads`), and a JSON object that is such a file becomes such a
layer (`Nested.ofJson`).
-/

namespace Accessors

open Settings (Value)

namespace Setting

abbrev Given := (s : Setting) → Option s.Of

structure Format (α : Type) where
  null : α
  bool : Bool → α
  str : String → α
  list : List α → α
  table : List (String × α) → α

def jsonFormat : Format Json := ⟨.null, .bool, .str, .arr, .obj⟩

def valueFormat : Format Value := ⟨.nil, .bool, .str, .array, .table⟩

def Written {α : Type} (f : Format α) (v : α) : (s : Setting) → s.Of → Prop
  | constructorPolicy, p => ∃ text, v = f.str text ∧ Text.lower text = p.name
  | granularity, g => ∃ text, v = f.str text ∧ Text.lower text = g.name
  | rejectDuplicateOperations, b => v = f.bool b
  | path, p => v = p.elim f.null f.str
  | outputPath, p => v = p.elim f.null f.str
  | selection, parts => v = f.list (parts.map f.str)

variable {s : Setting} {x : s.Of}

/-! ### Values -/

theorem choice?_policy {text : String} {p : ConstructorPolicy} (named : Text.lower text = p.name) :
    read? .constructorPolicy (.str text) = some p := by
  simp only [read?, Value.choice?, named]
  cases p <;> decide +kernel

theorem choice?_granularity {text : String} {g : Granularity} (named : Text.lower text = g.name) :
    read? .granularity (.str text) = some g := by
  simp only [read?, Value.choice?, named]
  cases g <;> decide +kernel

theorem written_reads {v : Value} (written : Written valueFormat v s x) :
    v.isTable = false ∧ s.read? v = some x := by
  cases s with
  | constructorPolicy =>
    obtain ⟨text, rfl, named⟩ := written
    exact ⟨rfl, choice?_policy named⟩
  | granularity =>
    obtain ⟨text, rfl, named⟩ := written
    exact ⟨rfl, choice?_granularity named⟩
  | rejectDuplicateOperations =>
    cases written
    exact ⟨rfl, rfl⟩
  | path =>
    cases written
    cases x <;> exact ⟨rfl, rfl⟩
  | outputPath =>
    cases written
    cases x <;> exact ⟨rfl, rfl⟩
  | selection =>
    cases written
    exact ⟨rfl, Value.texts?_strs x⟩

/-- A layer has a value that reads as what is given for a setting, or neither has one. -/
abbrev Reads (s : Setting) (found : Option Value) (given : Option s.Of) : Prop :=
  Option.Rel (fun v x => s.read? v = some x) found given

theorem readAt_or {upper lower : Option Value} {given : Option s.Of} (reads : s.Reads upper given)
    (below : s.readAt lower = some x) : s.readAt (upper.or lower) = some (given.getD x) := by
  cases reads with
  | none => exact below
  | some read => exact read

/-! ### Tables -/

variable {α : Type} {given : Given}

/-- A table with an entry for each given setting of a group, and with no others. -/
structure Entries (f : Format α) (given : Given) (group : String) (entries : List (String × α)) :
    Prop where
  distinct : (entries.map (·.1)).Nodup
  written : ∀ e ∈ entries, ∃ (s : Setting) (x : s.Of),
    s.group = group ∧ s.name = e.1 ∧ given s = some x ∧ Written f e.2 s x
  all : ∀ s, s.group = group → (given s).isSome → s.name ∈ entries.map (·.1)

/-- Tables of groups in which each given setting has its entry. -/
structure Nested (f : Format α) (given : Given) (members : List (String × α)) : Prop where
  distinct : (members.map (·.1)).Nodup
  tables : ∀ m ∈ members, (∃ s : Setting, s.group = m.1) ∧
    ∃ entries, m.2 = f.table entries ∧ Entries f given m.1 entries
  all : ∀ s, (given s).isSome → s.group ∈ members.map (·.1)

theorem Nested.tabled {file : List (String × Value)} (nested : Nested valueFormat given file) :
    Settings.Tabled file := by
  refine ⟨nested.distinct, fun m inside => ?_⟩
  obtain ⟨⟨s, group⟩, entries, table, filled⟩ := nested.tables m inside
  refine ⟨⟨s, group.symm⟩, entries, table, filled.distinct, fun e within => ?_⟩
  obtain ⟨u, x, -, name, -, written⟩ := filled.written e within
  exact ⟨⟨u, name.symm⟩, (written_reads written).1⟩

theorem Entries.reads {group : String} {entries : List (String × Value)}
    (filled : Entries valueFormat given group entries) (belongs : s.group = group) :
    s.Reads (entries.lookup s.name) (given s) := by
  cases found : given s with
  | none =>
    -- an entry of this name would be that of a given setting
    have absent : s.name ∉ entries.map (·.1) := by
      intro inside
      obtain ⟨e, within, name⟩ := List.mem_map.mp inside
      obtain ⟨u, x, -, named, present, -⟩ := filled.written e within
      obtain rfl := name_injective (named.trans name)
      rw [found] at present
      cases present
    rw [Value.lookup_absent absent]
    exact .none
  | some x =>
    obtain ⟨e, within, name⟩ := List.mem_map.mp (filled.all s belongs (by rw [found]; rfl))
    obtain ⟨u, y, -, named, present, written⟩ := filled.written e within
    obtain rfl := name_injective (named.trans name)
    obtain rfl : y = x := Option.some.inj (present.symm.trans found)
    rw [← name, Value.lookup_member filled.distinct within]
    exact .some (written_reads written).2

theorem Nested.reads {file : List (String × Value)} (nested : Nested valueFormat given file)
    (s : Setting) : s.Reads (Settings.ofFile? s file) (given s) := by
  rw [Settings.ofFile?]
  by_cases here : s.group ∈ file.map (·.1)
  · obtain ⟨m, inside, group⟩ := List.mem_map.mp here
    obtain ⟨-, entries, table, filled⟩ := nested.tables m inside
    rw [← group, Value.lookup_member nested.distinct inside, table]
    exact filled.reads group.symm
  · have missing : given s = none := Option.not_isSome_iff_eq_none.mp (mt (nested.all s) here)
    rw [Value.lookup_absent here, missing]
    exact .none

/-! ### Writing -/

def write (f : Format α) : (s : Setting) → s.Of → α
  | constructorPolicy, p => f.str p.name
  | granularity, g => f.str g.name
  | rejectDuplicateOperations, b => f.bool b
  | path, p => p.elim f.null f.str
  | outputPath, p => p.elim f.null f.str
  | selection, parts => f.list (parts.map f.str)

theorem written_write (f : Format α) (x : s.Of) : Written f (write f s x) s x := by
  cases s with
  | constructorPolicy => exact ⟨_, rfl, by cases x <;> decide +kernel⟩
  | granularity => exact ⟨_, rfl, by cases x <;> decide +kernel⟩
  | _ => exact rfl

def all : List Setting :=
  [constructorPolicy, granularity, rejectDuplicateOperations, path, outputPath, selection]

theorem mem_all (s : Setting) : s ∈ all := by
  cases s <;> decide

def entryIn (f : Format α) (given : Given) (group : String) (s : Setting) : Option (String × α) :=
  if s.group = group then (given s).map fun x => (s.name, write f s x) else none

theorem entryIn_eq_some {f : Format α} {group : String} {e : String × α} :
    entryIn f given group s = some e ↔
      s.group = group ∧ ∃ x, given s = some x ∧ (s.name, write f s x) = e := by
  rw [entryIn, Option.ite_none_right_eq_some, Option.map_eq_some_iff]

def entries (f : Format α) (given : Given) (group : String) : List (String × α) :=
  all.filterMap (entryIn f given group)

theorem entries_filled (f : Format α) (given : Given) (group : String) :
    Entries f given group (entries f given group) := by
  refine ⟨?_, fun e inside => ?_, fun s belongs present => ?_⟩
  · rw [entries, List.map_filterMap]
    refine List.Nodup.filterMap (fun s t name here there => ?_) (by decide)
    obtain ⟨e, entry, rfl⟩ := Option.map_eq_some_iff.mp here
    obtain ⟨e', entry', same⟩ := Option.map_eq_some_iff.mp there
    obtain ⟨-, x, -, rfl⟩ := entryIn_eq_some.mp entry
    obtain ⟨-, y, -, rfl⟩ := entryIn_eq_some.mp entry'
    exact (name_injective same).symm
  · obtain ⟨s, -, entry⟩ := List.mem_filterMap.mp inside
    obtain ⟨belongs, x, found, rfl⟩ := entryIn_eq_some.mp entry
    exact ⟨s, x, belongs, rfl, found, written_write f x⟩
  · obtain ⟨x, found⟩ := Option.isSome_iff_exists.mp present
    have entry := entryIn_eq_some (f := f).mpr ⟨belongs, x, found, rfl⟩
    exact List.mem_map.mpr ⟨_, List.mem_filterMap.mpr ⟨s, mem_all s, entry⟩, rfl⟩

def tables (f : Format α) (given : Given) : List (String × α) :=
  ["generator", "repository", "model"].map fun group => (group, f.table (entries f given group))

theorem tables_nested (f : Format α) (given : Given) : Nested f given (tables f given) := by
  refine ⟨?_, fun m inside => ?_, fun s _ => ?_⟩
  · exact (by decide : ["generator", "repository", "model"].Nodup)
  · obtain ⟨group, listed, rfl⟩ := List.mem_map.mp inside
    refine ⟨?_, _, rfl, entries_filled f given group⟩
    simp only [List.mem_cons, List.not_mem_nil, or_false] at listed
    obtain rfl | rfl | rfl := listed
    · exact ⟨.granularity, rfl⟩
    · exact ⟨.rejectDuplicateOperations, rfl⟩
    · exact ⟨.path, rfl⟩
  · cases s <;> simp [tables, group]

end Setting

/-! ### JSON files -/

namespace Json

variable {α : Type}

theorem insertByKey_perm (m : String × α) (ms : List (String × α)) :
    (insertByKey m ms).Perm (m :: ms) := by
  induction ms with
  | nil => exact .refl _
  | cons n ms ih =>
    rw [insertByKey]
    split
    · exact .refl _
    · exact (ih.cons n).trans (.swap m n ms)

theorem sortMembers_perm {ms : List (String × α)} (distinct : (ms.map (·.1)).Nodup) :
    (sortMembers ms).Perm ms := by
  induction ms with
  | nil => exact .refl _
  | cons m ms ih =>
    obtain ⟨fresh, rest⟩ := List.nodup_cons.mp distinct
    -- a member goes only where a later one has its key
    have alone : ms.any (·.1 == m.1) = false := by
      rw [List.any_eq_false]
      intro n inside same
      exact fresh (List.mem_map.mpr ⟨n, inside, eq_of_beq same⟩)
    rw [sortMembers, alone]
    exact (insertByKey_perm m _).trans ((ih rest).cons m)

theorem canonicalMembers_eq (ms : List (String × Json)) :
    canonicalMembers ms = ms.map fun m => (m.1, m.2.canonical) := by
  induction ms with
  | nil => rfl
  | cons m ms ih => rw [canonicalMembers, ih, List.map_cons]

theorem canonicalItems_strs (xs : List String) : canonicalItems (xs.map .str) = xs.map .str := by
  induction xs with
  | nil => rfl
  | cons x xs ih => simp only [List.map_cons, canonicalItems, ih, canonical]

end Json

namespace Settings.Value

theorem ofMembers_eq (ms : List (String × Json)) :
    ofMembers ms = ms.map fun m => (m.1, ofJson m.2) := by
  induction ms with
  | nil => rfl
  | cons m ms ih => rw [ofMembers, ih, List.map_cons]

theorem ofItems_strs (xs : List String) : ofItems (xs.map .str) = xs.map .str := by
  induction xs with
  | nil => rfl
  | cons x xs ih => rw [List.map_cons, ofItems, ih, ofJson, List.map_cons]

def layer (ms : List (String × Json)) : List (String × Value) :=
  ofMembers (Json.sortMembers (Json.canonicalMembers ms))

theorem layer_perm {ms : List (String × Json)} (distinct : (ms.map (·.1)).Nodup) :
    (layer ms).Perm (ms.map fun m => (m.1, ofJson m.2.canonical)) := by
  have same : (ms.map fun m => (m.1, m.2.canonical)).map (·.1) = ms.map (·.1) := by
    rw [List.map_map]
    rfl
  have sorted := Json.sortMembers_perm (same ▸ distinct)
  rw [layer, ofMembers_eq, Json.canonicalMembers_eq]
  refine (sorted.map _).trans ?_
  rw [List.map_map]
  exact .refl _

theorem layer_keys {ms : List (String × Json)} (distinct : (ms.map (·.1)).Nodup) :
    ((layer ms).map (·.1)).Perm (ms.map (·.1)) := by
  refine ((layer_perm distinct).map _).trans ?_
  rw [List.map_map]
  exact .refl _

theorem mem_layer {ms : List (String × Json)} (distinct : (ms.map (·.1)).Nodup) {m : String × Value}
    (inside : m ∈ layer ms) : ∃ n ∈ ms, (n.1, ofJson n.2.canonical) = m :=
  List.mem_map.mp ((layer_perm distinct).mem_iff.mp inside)

end Settings.Value

namespace Setting

variable {s : Setting} {x : s.Of} {given : Given}

theorem written_ofJson {v : Json} (written : Written jsonFormat v s x) :
    Written valueFormat (.ofJson v.canonical) s x := by
  cases s with
  | constructorPolicy =>
    obtain ⟨text, rfl, named⟩ := written
    exact ⟨text, rfl, named⟩
  | granularity =>
    obtain ⟨text, rfl, named⟩ := written
    exact ⟨text, rfl, named⟩
  | rejectDuplicateOperations =>
    cases written
    rfl
  | path =>
    cases written
    cases x <;> rfl
  | outputPath =>
    cases written
    cases x <;> rfl
  | selection =>
    cases written
    rw [jsonFormat, Json.canonical, Json.canonicalItems_strs, Value.ofJson, Value.ofItems_strs]
    rfl

theorem Entries.ofJson {group : String} {entries : List (String × Json)}
    (filled : Entries jsonFormat given group entries) :
    Entries valueFormat given group (Value.layer entries) := by
  have keys := Value.layer_keys filled.distinct
  refine ⟨keys.nodup_iff.mpr filled.distinct, fun e inside => ?_, fun s belongs present => ?_⟩
  · obtain ⟨n, within, rfl⟩ := Value.mem_layer filled.distinct inside
    obtain ⟨s, x, belongs, name, found, written⟩ := filled.written n within
    exact ⟨s, x, belongs, name, found, written_ofJson written⟩
  · exact keys.mem_iff.mpr (filled.all s belongs present)

theorem Nested.ofJson {members : List (String × Json)} (nested : Nested jsonFormat given members) :
    Nested valueFormat given (Value.layer members) := by
  have keys := Value.layer_keys nested.distinct
  refine ⟨keys.nodup_iff.mpr nested.distinct, fun m inside => ?_, fun s present => ?_⟩
  · obtain ⟨n, within, rfl⟩ := Value.mem_layer nested.distinct inside
    obtain ⟨group, entries, table, filled⟩ := nested.tables n within
    refine ⟨group, Value.layer entries, ?_, filled.ofJson⟩
    rw [table]
    rfl
  · exact keys.mem_iff.mpr (nested.all s present)

end Setting

end Accessors
