import Accessors.Proofs.Files
import Accessors.Proofs.Generation.Counts
import Accessors.Proofs.Reloading
import Accessors.Run

/-!
# Runs on a directory

A run either fails and leaves every file as it was, or it ends with the model that it loaded and the
members that the settings ask for at the end of their entities, and then only the file at the output
path is another one (`execute_ends`).
-/

namespace Accessors

namespace Run

/-- The model that a run loads, that of a file or the sample project, and the supply that loading
leaves. -/
inductive Loads (settings : Settings) (supply : Supply) (d : Directory) : Project → Supply → Prop where
  | sample : settings.model.path = none → Loads settings supply d Sample.project supply
  | file {path text : String} {p : Project} {t : Supply} :
      settings.model.path = some path → d.read path = .ok text →
      Project.ofText text supply = .ok (p, t) → Loads settings supply d p t

/-- The elements that a run generates for: those of the paths that name one, in order, or every
entity where the settings have no paths. -/
def selected (settings : Settings) (p : Project) : List ElementRef :=
  if settings.model.selection = [] then p.entities.map fun e => ⟨.entity, e.id⟩
  else settings.model.selection.filterMap p.resolvePath

def host (settings : Settings) (p : Project) (supply : Supply) : Host where
  repository := { project := p, selection := selected settings p, policy := settings.repository }
  supply := supply

/-- `text` is the text of a model `p` with `ops` appended to the operations of its entities, which are
the members that the settings ask for. -/
structure Grows (settings : Settings) (p : Project) (ops : List Operation) (report : Report)
    (text : String) : Prop where
  members : ops.map Operation.draft =
    p.expectedMembers settings.generator.constructorPolicy (selected settings p)
  owners : ∀ op ∈ ops, (p.entity? op.ownerId).isSome
  text : ∀ s, Project.ofText text s = .ok (p.appendAll ops, s)
  count : (p.appendAll ops).operationCount = p.operationCount + ops.length
  counted : report.members = ops.length
  reported : report.operations = .ofNat ops.length

inductive Ends (settings : Settings) (supply : Supply) (d : Directory) :
    Except RunError (Report × Option String) × Directory → Prop where
  | unread {path : String} {cause : Refusal} :
      settings.model.path = some path → d.read path = .error cause →
      Ends settings supply d (.error (.reading path cause), d)
  | malformed {path text : String} {cause : Json.Fault} :
      settings.model.path = some path → d.read path = .ok text →
      Project.ofText text supply = .error cause →
      Ends settings supply d (.error (.parsing path cause), d)
  | rejected {p : Project} {t : Supply} {cause : GenerateError} :
      Loads settings supply d p t →
      (Host.generate settings.generator (selected settings p) (host settings p t)).1 = .error cause →
      Ends settings supply d (.error (.generating cause), d)
  | unwritten {p : Project} {t : Supply} {ops : List Operation} {report : Report} {text path : String}
      {cause : Refusal} :
      settings.model.outputPath = some path → Loads settings supply d p t →
      Grows settings p ops report text → Directory.write path text d = (.error cause, d) →
      Ends settings supply d (.error (.writing path cause), d)
  | printed {p : Project} {t : Supply} {ops : List Operation} {report : Report} {text : String} :
      settings.model.outputPath = none → Loads settings supply d p t →
      Grows settings p ops report text → Ends settings supply d (.ok (report, some text), d)
  | written {p : Project} {t : Supply} {ops : List Operation} {report : Report} {text path : String}
      {place : List String} {d' : Directory} :
      settings.model.outputPath = some path → Loads settings supply d p t →
      Grows settings p ops report text → d.locate path = .ok (place, false) →
      d'.read path = .ok (if d.sinks.contains place then "" else text) →
      (∀ other ≠ place, d'.file? other = d.file? other) →
      Ends settings supply d (.ok (report, none), d')

variable {settings : Settings} {supply t : Supply} {d : Directory} {p q : Project} {report : Report}
  {text : String}

theorem loads_loaded (h : Loads settings supply d p t) : p.Loaded := by
  cases h with
  | sample => exact .sample
  | file _ _ parsed => exact .text parsed

theorem repository_eq (settings : Settings) (owned : p.Owned) (supply : Supply) :
    repository settings p = (host settings p supply).repository := by
  have same : Repository.ofProject p settings.repository =
      { project := p, policy := settings.repository } := by
    rw [Repository.ofProject, Project.normalize_eq owned]
  rw [repository, same, host, selected]
  cases settings.model.selection with
  | nil => rfl
  | cons path paths => rfl

theorem generate_eq (settings : Settings) (owned : p.Owned) (supply : Supply) :
    generate settings p supply =
      match Host.generate settings.generator (selected settings p) (host settings p supply) with
      | (.ok report, h) => .ok (report, h.repository.project)
      | (.error e, _) => .error (.generating e) := by
  have executed : generate settings p supply =
      match Host.generate settings.generator (repository settings p).selection
          { repository := repository settings p, supply } with
      | (.ok report, h) => .ok (report, h.repository.project)
      | (.error e, _) => .error (.generating e) := rfl
  rw [executed, repository_eq settings owned supply]
  rfl

theorem request_grows (sound : p.Sound) (owned : p.Owned) {h : Host}
    (run : Host.generate settings.generator (selected settings p) (host settings p supply) =
      (.ok report, h)) :
    ∃ ops, h.repository.project = p.appendAll ops ∧
      Grows settings p ops report h.repository.project.toText := by
  obtain ⟨ops, members, owners, project, count, counted⟩ :=
    Host.generate_appends (h := host settings p supply) rfl owned run
  obtain ⟨soundAfter, ownedAfter⟩ := Project.sound_stable.inserted ⟨sound, owned⟩
    (Host.requested_sound (h := host settings p supply) sound owned)
    (Host.generate_inserts (h := host settings p supply) rfl run)
  -- the model is sound after the request, too, so its text gives it back
  have project : h.repository.project = p.appendAll ops := project
  rw [project] at soundAfter ownedAfter count ⊢
  refine ⟨ops, rfl, members, owners, fun s => ?_, count, counted, ?_⟩
  · rw [Project.ofText_toText soundAfter ownedAfter]
    rfl
  · rw [Report.operations, counted]

theorem source_cases (settings : Settings) (d : Directory) :
    (∃ path cause, settings.model.path = some path ∧ d.read path = .error cause ∧
      source Directory.storage settings d = (.error (.reading path cause), d)) ∨
    (settings.model.path = none ∧ source Directory.storage settings d = (.ok none, d)) ∨
    ∃ path text, settings.model.path = some path ∧ d.read path = .ok text ∧
      source Directory.storage settings d = (.ok (some (path, text)), d) := by
  unfold source
  cases settings.model.path with
  | none => exact Or.inr (Or.inl ⟨rfl, rfl⟩)
  | some path =>
    simp only [bind, StateT.bind, Directory.storage]
    cases found : d.read path with
    | error cause => exact Or.inl ⟨path, cause, rfl, found, rfl⟩
    | ok text => exact Or.inr (Or.inr ⟨path, text, rfl, found, rfl⟩)

theorem process_eq (settings : Settings) {given : Option (String × String)} (owned : p.Owned)
    (loaded : model given supply = .ok (p, t)) :
    process settings given supply =
      match Host.generate settings.generator (selected settings p) (host settings p t) with
      | (.ok report, h) => .ok (report, h.repository.project.toText)
      | (.error e, _) => .error (.generating e) := by
  have next : process settings given supply =
      (generate settings p t).bind fun result => .ok (result.1, result.2.toText) := by
    unfold process
    rw [loaded]
    rfl
  rw [next, generate_eq settings owned t]
  rcases Host.generate settings.generator (selected settings p) (host settings p t) with ⟨_ | _, _⟩ <;>
    rfl

theorem process_loaded {given : Option (String × String)} (loads : Loads settings supply d p t)
    (loaded : model given supply = .ok (p, t)) :
    (∃ cause, process settings given supply = .error (.generating cause) ∧
      (Host.generate settings.generator (selected settings p) (host settings p t)).1 = .error cause) ∨
    ∃ ops report text, process settings given supply = .ok (report, text) ∧
      Grows settings p ops report text := by
  obtain ⟨sound, owned⟩ := Project.loaded_sound (loads_loaded loads)
  rw [process_eq settings owned loaded]
  rcases run : Host.generate settings.generator (selected settings p) (host settings p t) with
    ⟨cause | report, h⟩
  · exact Or.inl ⟨cause, rfl, rfl⟩
  · obtain ⟨ops, -, grows⟩ := request_grows sound owned run
    exact Or.inr ⟨ops, report, h.repository.project.toText, rfl, grows⟩

theorem deliver_ends {given : Option (String × String)}
    (read : source Directory.storage settings d = (.ok given, d))
    (loads : Loads settings supply d p t) (loaded : model given supply = .ok (p, t)) :
    Ends settings supply d (execute Directory.storage settings supply d) := by
  unfold execute
  simp only [bind, StateT.bind, read]
  obtain ⟨cause, processed, refused⟩ | ⟨ops, report, text, processed, grows⟩ :=
    process_loaded loads loaded
  · simp only [processed]
    exact .rejected loads refused
  simp only [processed]
  cases target : settings.model.outputPath with
  | none => exact .printed target loads grows
  | some path =>
    simp only [Directory.storage, StateT.bind]
    obtain ⟨cause, failed⟩ | ⟨place, found, free, short, done⟩ := Directory.write_cases path text d
    · rw [failed]
      exact .unwritten target loads grows failed
    · rw [done]
      refine .written target loads grows found (Directory.put_read found free short) ?_
      exact fun other different => Directory.put_other text different

/-- A run that fails has a cause and leaves every file as it was. One that succeeds changes no file
but the one that it is to write. -/
theorem execute_ends (settings : Settings) (supply : Supply) (d : Directory) :
    Ends settings supply d (execute Directory.storage settings supply d) := by
  obtain ⟨path, cause, named, failed, read⟩ | ⟨named, read⟩ | ⟨path, text, named, found, read⟩ :=
    source_cases settings d
  · unfold execute
    simp only [bind, StateT.bind, read]
    exact .unread named failed
  · exact deliver_ends read (.sample named) rfl
  · cases parsed : Project.ofText text supply with
    | error cause =>
      have unloaded : model (some (path, text)) supply = .error (.parsing path cause) := by
        rw [model, parsed]
        rfl
      have refused : process settings (some (path, text)) supply = .error (.parsing path cause) := by
        rw [process, unloaded]
        rfl
      unfold execute
      simp only [bind, StateT.bind, read, refused]
      exact .malformed named found parsed
    | ok result =>
      have loaded : model (some (path, text)) supply = .ok result := by
        rw [model, parsed]
        rfl
      exact deliver_ends read (.file named found parsed) loaded

/-- In place and batch by batch: the constructor is committed and then the setter is refused, and the
file stays as it was. -/
example :
    let text := "[\"s\", \"Shop\", [[\"o\", \"Order\", [[\"t\", \"total\", \"Int\", \"\"]],
      [[\"x\", \"setTotal\", \"public\", \"\", []]], null]]]"
    let d : Directory := { files := [(["m"], text)] }
    let settings : Settings :=
      { generator := { granularity := .perMember }, model := ⟨some "m", some "m", []⟩ }
    let run := execute Directory.storage settings ⟨Nat.repr, 0, ""⟩ d
    run.1.isOk = false ∧ run.2.file? ["m"] = some text := by
  decide +kernel

end Run

end Accessors
