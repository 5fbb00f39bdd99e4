import Accessors.Proofs.Settings.Value
import Accessors.Settings.Basic

/-!
# Single settings

Each setting has a group, a name in it and a type of its own. A tree of settings that holds a table for
each group is read setting by setting: what is found for one setting has no part in another
(`ofValue?_reads`).
-/

namespace Accessors

open Settings (Value)

inductive Setting where
  | constructorPolicy
  | granularity
  | rejectDuplicateOperations
  | path
  | outputPath
  | selection
  deriving DecidableEq

namespace Setting

abbrev Of : Setting → Type
  | constructorPolicy => ConstructorPolicy
  | granularity => Granularity
  | rejectDuplicateOperations => Bool
  | path => Option String
  | outputPath => Option String
  | selection => List String

def get (settings : Settings) : (s : Setting) → s.Of
  | constructorPolicy => settings.generator.constructorPolicy
  | granularity => settings.generator.granularity
  | rejectDuplicateOperations => settings.repository.rejectDuplicateOperations
  | path => settings.model.path
  | outputPath => settings.model.outputPath
  | selection => settings.model.selection

def assemble (value : (s : Setting) → s.Of) : Settings where
  generator := { constructorPolicy := value constructorPolicy, granularity := value granularity }
  repository := { rejectDuplicateOperations := value rejectDuplicateOperations }
  model := { path := value path, outputPath := value outputPath, selection := value selection }

theorem get_assemble (value : (s : Setting) → s.Of) (s : Setting) : s.get (assemble value) = value s := by
  cases s <;> rfl

def group : Setting → String
  | constructorPolicy => "generator"
  | granularity => "generator"
  | rejectDuplicateOperations => "repository"
  | path => "model"
  | outputPath => "model"
  | selection => "model"

def name : Setting → String
  | constructorPolicy => "constructor_policy"
  | granularity => "granularity"
  | rejectDuplicateOperations => "reject_duplicate_operations"
  | path => "path"
  | outputPath => "output_path"
  | selection => "selection"

theorem name_injective {s t : Setting} (same : s.name = t.name) : s = t := by
  cases s <;> cases t <;> first | rfl | exact absurd same (by decide)

theorem lower_group (s : Setting) : Text.lower s.group = s.group := by
  cases s <;> decide +kernel

theorem lower_name (s : Setting) : Text.lower s.name = s.name := by
  cases s <;> decide +kernel

/-! ### Reading -/

def read? : (s : Setting) → Value → Option s.Of
  | constructorPolicy =>
    Value.choice? ([.requireMandatory, .always].map fun p => (ConstructorPolicy.name p, p))
  | granularity => Value.choice? ([.perRequest, .perMember].map fun g => (Granularity.name g, g))
  | rejectDuplicateOperations => Value.bool?
  | path => Value.optionalText?
  | outputPath => Value.optionalText?
  | selection => Value.texts?

/-- What the setting is, if it may be left out where nothing is found for it. -/
def readAt (s : Setting) : Option Value → Option s.Of
  | some v => s.read? v
  | none => if s = rejectDuplicateOperations then none else some (s.get {})

def find? (s : Setting) (t : Value) : Option Value := t.inner? s.group s.name

end Setting

namespace Settings

structure Grouped (t : Value) : Prop where
  table : t.isTable
  groups : ∀ s : Setting, ∃ w, t.get? s.group = some w ∧ w.isTable

namespace Value

variable {α : Type} {v : Value} {name : String} {read : Value → Option α} {default : α}

theorem texts?_strs (parts : List String) : texts? (.array (parts.map .str)) = some parts := by
  simp only [texts?]
  induction parts with
  | nil => rfl
  | cons part parts ih =>
    rw [List.map_cons, List.mapM_cons, ih]
    rfl

theorem field_table (table : v.isTable) (index : Nat) :
    v.field index name read = (v.get? name).bind read := by
  cases v <;> first | rfl | cases table

theorem fieldOr_table (table : v.isTable) (index : Nat) :
    v.fieldOr index name read default = (v.get? name).elim (some default) read := by
  cases v with
  | table ms =>
    simp only [fieldOr, field?, Option.bind_eq_bind, Option.bind_some, get?, members]
    cases ms.lookup name <;> rfl
  | _ => cases table

theorem tableField_table (table : v.isTable) (index : Nat) :
    v.tableField index name read default = (v.get? name).elim (some default) read := by
  rw [← fieldOr_table table index]
  cases v <;> first | rfl | cases table

end Value

theorem readAt_elim (s : Setting) (left : s ≠ .rejectDuplicateOperations) (found : Option Value) :
    found.elim (some (s.get {})) s.read? = s.readAt found := by
  cases found with
  | none => rw [Setting.readAt, if_neg left, Option.elim_none]
  | some v => rfl

variable {v : Value}

theorem options?_table (table : v.isTable) :
    options? v = do
      return { constructorPolicy := ← Setting.readAt .constructorPolicy (v.get? Setting.constructorPolicy.name)
               granularity := ← Setting.readAt .granularity (v.get? Setting.granularity.name) } := by
  rw [options?, Value.fieldOr_table table, Value.fieldOr_table table,
    ← readAt_elim _ (by decide), ← readAt_elim _ (by decide)]
  rfl

theorem policy?_table (table : v.isTable) :
    policy? v = do
      return { rejectDuplicateOperations :=
        ← Setting.readAt .rejectDuplicateOperations (v.get? Setting.rejectDuplicateOperations.name) } := by
  rw [policy?, Value.field_table table, Setting.name]
  cases v.get? "reject_duplicate_operations" <;> rfl

theorem model?_table (table : v.isTable) :
    model? v = do
      return { path := ← Setting.readAt .path (v.get? Setting.path.name)
               outputPath := ← Setting.readAt .outputPath (v.get? Setting.outputPath.name)
               selection := ← Setting.readAt .selection (v.get? Setting.selection.name) } := by
  rw [model?, Value.tableField_table table, Value.tableField_table table, Value.fieldOr_table table,
    ← readAt_elim _ (by decide), ← readAt_elim _ (by decide), ← readAt_elim _ (by decide)]
  rfl

theorem ofValue?_grouped {t : Value} (grouped : Grouped t) :
    ofValue? t = do
      let constructorPolicy ← Setting.readAt .constructorPolicy (Setting.find? .constructorPolicy t)
      let granularity ← Setting.readAt .granularity (Setting.find? .granularity t)
      let rejectDuplicateOperations ←
        Setting.readAt .rejectDuplicateOperations (Setting.find? .rejectDuplicateOperations t)
      let path ← Setting.readAt .path (Setting.find? .path t)
      let outputPath ← Setting.readAt .outputPath (Setting.find? .outputPath t)
      let selection ← Setting.readAt .selection (Setting.find? .selection t)
      return { generator := { constructorPolicy, granularity }
               repository := { rejectDuplicateOperations }
               model := { path, outputPath, selection } } := by
  -- one setting for each group gives its table
  obtain ⟨generator, foundGenerator, generatorTable⟩ := grouped.groups .granularity
  obtain ⟨repository, foundRepository, repositoryTable⟩ := grouped.groups .rejectDuplicateOperations
  obtain ⟨model, foundModel, modelTable⟩ := grouped.groups .path
  simp only [Setting.group] at foundGenerator foundRepository foundModel
  simp only [ofValue?, Value.field_table grouped.table, foundGenerator, foundRepository, foundModel,
    Option.bind_some, options?_table generatorTable, policy?_table repositoryTable,
    model?_table modelTable, Setting.find?, Value.inner?, Setting.group, Option.bind_eq_bind,
    Option.pure_def, Option.bind_assoc]

theorem ofValue?_reads {t : Value} (grouped : Grouped t) {value : (s : Setting) → s.Of}
    (reads : ∀ s : Setting, s.readAt (s.find? t) = some (value s)) :
    ofValue? t = some (Setting.assemble value) := by
  rw [ofValue?_grouped grouped, reads, reads, reads, reads, reads, reads]
  rfl

theorem ofValue?_eq_none {t : Value} (grouped : Grouped t) {s : Setting}
    (unread : s.readAt (s.find? t) = none) : ofValue? t = none := by
  rw [ofValue?_grouped grouped]
  cases s <;> simp [unread]

end Settings

end Accessors
