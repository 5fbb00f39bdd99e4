import Accessors.Proofs.Settings.Setting
import Accessors.Settings.Load

/-!
# Layers of settings, one by one

What a layer adds to a tree of settings is found again under its settings, and for all others the tree
is as before: for the variables of an environment (`addLayer?_environment`) and for a file with a table
for each group (`addLayer?_tables`). So each setting is that of the uppermost layer that has it
(`ofLayers_grouped`).
-/

namespace Accessors

open Settings (Value)

namespace Setting

def key (s : Setting) : String := s.group ++ "." ++ s.name

def variableName : Setting → String
  | constructorPolicy => "GETSET_GENERATOR__CONSTRUCTOR_POLICY"
  | granularity => "GETSET_GENERATOR__GRANULARITY"
  | rejectDuplicateOperations => "GETSET_REPOSITORY__REJECT_DUPLICATE_OPERATIONS"
  | path => "GETSET_MODEL__PATH"
  | outputPath => "GETSET_MODEL__OUTPUT_PATH"
  | selection => "GETSET_MODEL__SELECTION"

theorem variableName_injective {s t : Setting} (same : s.variableName = t.variableName) : s = t := by
  cases s <;> cases t <;> first | rfl | exact absurd same (by decide)

theorem variableKey?_variableName (s : Setting) :
    Settings.variableKey? s.variableName = some s.key := by
  cases s <;> decide +kernel

theorem path?_key (s : Setting) : Settings.path? s.key = some [.key s.group, .key s.name] := by
  cases s <;> decide +kernel

theorem path?_group (s : Setting) : Settings.path? s.group = some [.key s.group] := by
  cases s <;> decide +kernel

end Setting

namespace Settings

open Setting (find?)

/-! ### Trees with a table for each group -/

theorem defaults_grouped : Grouped defaults :=
  ⟨rfl, fun s => by cases s <;> exact ⟨_, rfl, rfl⟩⟩

theorem defaults_reads (s : Setting) : s.readAt (s.find? defaults) = some (s.get {}) := by
  cases s <;> decide +kernel

variable {t : Value} {v w : Value}

theorem Grouped.put (grouped : Grouped t) (table : w.isTable) (name : String) :
    Grouped (t.put name w) := by
  refine ⟨rfl, fun s => ?_⟩
  by_cases here : s.group = name
  · exact ⟨w, here ▸ Value.get?_put_self .., table⟩
  · rw [Value.get?_put_other here]
    exact grouped.groups s

theorem setKey?_setting (grouped : Grouped t) (s : Setting) (plain : v.isTable = false) :
    ∃ t', t.setKey? s.key v = some t' ∧ Grouped t' ∧
      ∀ u : Setting, u.find? t' = if u = s then some v else u.find? t := by
  obtain ⟨w, table, set, found⟩ := Value.setPath?_inner? plain s.lower_group s.lower_name t
  refine ⟨t.put s.group w, by simp only [Value.setKey?, s.path?_key, set], grouped.put table _,
    fun u => ?_⟩
  -- settings of other groups lie in tables that are not touched
  by_cases beside : u.group = s.group
  · rw [find?, Value.inner?, beside, Value.get?_put_self, Option.bind_some, found, find?, beside]
    by_cases same : u = s
    · rw [if_pos same, if_pos (congrArg Setting.name same)]
    · rw [if_neg same, if_neg fun named => same (Setting.name_injective named)]
  · have other : u ≠ s := fun same => beside (congrArg Setting.group same)
    rw [if_neg other, find?, Value.inner?_put_other beside, find?]

/-! ### Variables -/

theorem variableValue_plain (key text : String) : (variableValue key text).isTable = false := by
  unfold variableValue
  split
  · rfl
  · rfl
  · rfl
  · split <;> rfl

/-- Each variable is one of the settings or of another program, and there is one of each. -/
structure Separate (environment : List (String × String)) : Prop where
  distinct : (environment.map (·.1)).Nodup
  known : ∀ m ∈ environment, variableKey? m.1 = none ∨ ∃ s : Setting, m.1 = s.variableName

def ofVariable? (s : Setting) (environment : List (String × String)) : Option Value :=
  (environment.lookup s.variableName).map (variableValue s.key)

theorem addLayer?_environment {environment : List (String × String)} (separate : Separate environment)
    (grouped : Grouped t) :
    ∃ t', t.addLayer? (environmentLayer environment) = some t' ∧ Grouped t' ∧
      ∀ s : Setting, s.find? t' = (ofVariable? s environment).or (s.find? t) := by
  obtain ⟨distinct, known⟩ := separate
  -- on the variables; the tree varies, because each one is set in what those before it left
  induction environment generalizing t with
  | nil => exact ⟨t, rfl, grouped, fun s => rfl⟩
  | cons m rest ih =>
    obtain ⟨name, text⟩ := m
    obtain ⟨fresh, restDistinct⟩ := List.nodup_cons.mp distinct
    obtain ⟨here, restKnown⟩ := List.forall_mem_cons.mp known
    rcases here with foreign | ⟨u, rfl⟩
    · have passed : environmentLayer ((name, text) :: rest) = environmentLayer rest := by
        simp only [environmentLayer, List.filterMap_cons, foreign, Option.map_none]
      obtain ⟨t', added, grouped', found⟩ := ih grouped restDistinct restKnown
      refine ⟨t', passed ▸ added, grouped', fun s => ?_⟩
      have other : s.variableName ≠ name := by
        rintro rfl
        rw [s.variableKey?_variableName] at foreign
        cases foreign
      rw [found, ofVariable?, ofVariable?, List.lookup_cons, beq_eq_false_iff_ne.mpr other]
    · have first : environmentLayer ((u.variableName, text) :: rest) =
          (u.key, variableValue u.key text) :: environmentLayer rest := by
        simp only [environmentLayer, List.filterMap_cons, u.variableKey?_variableName,
          Option.map_some]
      obtain ⟨t₁, set, grouped₁, found₁⟩ := setKey?_setting grouped u (variableValue_plain u.key text)
      obtain ⟨t', added, grouped', found⟩ := ih grouped₁ restDistinct restKnown
      refine ⟨t', ?_, grouped', fun s => ?_⟩
      · simp only [first, Value.addLayer?, List.foldlM_cons, set]
        exact added
      rw [found, found₁, ofVariable?, ofVariable?, List.lookup_cons]
      by_cases same : s = u
      · subst same
        rw [Value.lookup_absent fresh, beq_self_eq_true, if_pos rfl]
        rfl
      · have other : s.variableName ≠ u.variableName := fun named => same (Setting.variableName_injective named)
        rw [if_neg same, beq_eq_false_iff_ne.mpr other]

/-! ### Files -/

/-- A table for each of some groups, in which there are values for some settings. -/
structure Tabled (file : List (String × Value)) : Prop where
  distinct : (file.map (·.1)).Nodup
  tables : ∀ m ∈ file, (∃ s : Setting, m.1 = s.group) ∧ ∃ members, m.2 = .table members ∧
    (members.map (·.1)).Nodup ∧
    ∀ n ∈ members, (∃ s : Setting, n.1 = s.name) ∧ n.2.isTable = false

def ofFile? (s : Setting) (file : List (String × Value)) : Option Value :=
  (file.lookup s.group).bind (·.get? s.name)

theorem tabled_nil : Tabled [] := ⟨.nil, by simp⟩

theorem setKey?_table (grouped : Grouped t) (s : Setting) {members : List (String × Value)}
    (distinct : (members.map (·.1)).Nodup)
    (plain : ∀ n ∈ members, (∃ s : Setting, n.1 = s.name) ∧ n.2.isTable = false) :
    ∃ t', t.setKey? s.group (.table members) = some t' ∧ Grouped t' ∧
      ∀ u : Setting, u.find? t' =
        (if u.group = s.group then members.lookup u.name else none).or (u.find? t) := by
  obtain ⟨old, found, table⟩ := grouped.groups s
  have lower : ∀ n ∈ members, Text.lower n.1 = n.1 := by
    intro n inside
    obtain ⟨⟨s, named⟩, -⟩ := plain n inside
    rw [named, s.lower_name]
  refine ⟨t.put s.group (Value.mergeMembers members old), ?_,
    grouped.put (Value.mergeMembers_isTable table) _, fun u => ?_⟩
  · rw [Value.setKey?, s.path?_group]
    simp only [Value.setPath?, Value.mergeMembers, s.lower_group, found, Value.merge, Option.getD_some]
  by_cases beside : u.group = s.group
  · rw [if_pos beside, find?, Value.inner?, beside, Value.get?_put_self, Option.bind_some,
      Value.get?_mergeMembers lower distinct, find?, Value.inner?, beside, found, Option.bind_some]
    cases member : members.lookup u.name with
    | none => rfl
    | some v =>
      obtain ⟨before, after, split, -⟩ := List.lookup_eq_some_iff.mp member
      have notTable : v.isTable = false := (plain (u.name, v) (by simp [split])).2
      simp only [Value.merge_plain notTable, Option.some_or]
  · rw [if_neg beside, find?, Value.inner?_put_other beside, find?]
    rfl

theorem addLayer?_tables {file : List (String × Value)} (tabled : Tabled file) (grouped : Grouped t) :
    ∃ t', t.addLayer? file = some t' ∧ Grouped t' ∧
      ∀ s : Setting, s.find? t' = (ofFile? s file).or (s.find? t) := by
  obtain ⟨distinct, tables⟩ := tabled
  induction file generalizing t with
  | nil => exact ⟨t, rfl, grouped, fun s => rfl⟩
  | cons m rest ih =>
    obtain ⟨group, v⟩ := m
    obtain ⟨fresh, restDistinct⟩ := List.nodup_cons.mp distinct
    obtain ⟨⟨⟨u, rfl⟩, members, rfl, once, plain⟩, restTables⟩ := List.forall_mem_cons.mp tables
    obtain ⟨t₁, set, grouped₁, found₁⟩ := setKey?_table grouped u once plain
    obtain ⟨t', added, grouped', found⟩ := ih grouped₁ restDistinct restTables
    refine ⟨t', ?_, grouped', fun s => ?_⟩
    · simp only [Value.addLayer?, List.foldlM_cons, set]
      exact added
    rw [found, found₁, ofFile?, ofFile?, List.lookup_cons]
    by_cases beside : s.group = u.group
    · rw [if_pos beside, beside, Value.lookup_absent fresh, beq_self_eq_true]
      rfl
    · rw [if_neg beside, beq_eq_false_iff_ne.mpr beside]
      rfl

/-! ### All layers -/

/-- What the layers have for a setting: the variable, else the file, else the defaults. -/
def uppermost? (file : List (String × Value)) (environment : List (String × String)) (s : Setting) :
    Option Value :=
  (ofVariable? s environment).or ((ofFile? s file).or (s.find? defaults))

/-- Settings are read from the uppermost layers that have them. -/
theorem ofLayers_grouped {file : List (String × Value)} {environment : List (String × String)}
    (tabled : Tabled file) (separate : Separate environment) :
    (∀ value : (s : Setting) → s.Of,
      (∀ s, s.readAt (uppermost? file environment s) = some (value s)) →
      ofLayers file (environmentLayer environment) = .ok (Setting.assemble value)) ∧
    ∀ s : Setting, s.readAt (uppermost? file environment s) = none →
      ofLayers file (environmentLayer environment) = .error .invalid := by
  obtain ⟨t₁, added₁, grouped₁, found₁⟩ := addLayer?_tables tabled defaults_grouped
  obtain ⟨t, added, grouped, found⟩ := addLayer?_environment separate grouped₁
  have layers : layered? file (environmentLayer environment) = some t := by
    rw [layered?, added₁]
    exact added
  have found : ∀ s : Setting, s.find? t = uppermost? file environment s :=
    fun s => by rw [found, found₁, uppermost?]
  constructor
  · intro value reads
    rw [ofLayers, layers]
    simp only [ofValue?_reads grouped fun s => (found s).symm ▸ reads s]
  · intro s unread
    rw [ofLayers, layers]
    simp only [ofValue?_eq_none grouped ((found s).symm ▸ unread)]

theorem uppermost?_defaults {file : List (String × Value)} {environment : List (String × String)}
    {s : Setting} (unset : ofVariable? s environment = none) (absent : ofFile? s file = none) :
    s.readAt (uppermost? file environment s) = some (s.get {}) := by
  rw [uppermost?, unset, absent]
  exact defaults_reads s

variable {d : Directory} {file : List (String × Value)}

def Unread (d : Directory) (name : String) : Prop := ∃ cause, d.read name = .error cause

/-- There is no file of settings in one of the two documented formats, the only ones that are read,
and none named just `config`. -/
def NoFile (d : Directory) : Prop :=
  Unread d "config" ∧ Unread d "config.toml" ∧ Unread d "config.json"

theorem fileLayer_noFile (none : NoFile d) : fileLayer Directory.storage d = (some [], d) := by
  obtain ⟨⟨_, bare⟩, ⟨_, toml⟩, ⟨_, json⟩⟩ := none
  simp only [fileLayer, Directory.storage, bind, StateT.bind, bare, toml, json]
  rfl

theorem load_layer (read : fileLayer Directory.storage d = (some file, d))
    (environment : List (String × String)) :
    load Directory.storage environment d = (ofLayers file (environmentLayer environment), d) := by
  simp only [load, bind, StateT.bind, read]
  rfl

end Settings

end Accessors
