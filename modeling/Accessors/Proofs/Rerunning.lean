import Accessors.Proofs.Frame
import Accessors.Proofs.Generation.Rejection
import Accessors.Proofs.Running

/-!
# Running again

A run in place writes the model to the file that it loaded it from. A second run reads back what the
first one wrote, and plans the same members, since neither paths nor members depend on the operations
that are there. If there are any, the first of them is there already, and the run is refused before
it has committed anything; otherwise it writes the text again (`execute_again`).
-/

namespace Accessors

namespace Run

variable {settings : Settings} {s s' t : Supply} {d d' : Directory} {p : Project} {ops : List Operation}
  {report : Report} {path text : String}

/-! ### Runs in place -/

theorem execute_in_place (named : settings.model.path = some path)
    (target : settings.model.outputPath = some path) (found : d.read path = .ok text)
    (parsed : Project.ofText text s = .ok (p, t)) :
    execute Directory.storage settings s d =
      match Host.generate settings.generator (selected settings p) (host settings p t) with
      | (.error e, _) => (.error (.generating e), d)
      | (.ok report, h) =>
        match Directory.write path h.repository.project.toText d with
        | (.error e, d') => (.error (.writing path e), d')
        | (.ok (), d') => (.ok (report, none), d') := by
  have read : source Directory.storage settings d = (.ok (some (path, text)), d) := by
    unfold source
    rw [named]
    simp only [bind, StateT.bind, Directory.storage, found]
    rfl
  have loaded : model (some (path, text)) s = .ok (p, t) := by
    rw [model, parsed]
    rfl
  have processed := process_eq settings (Project.ofText_loaded parsed).2 loaded
  unfold execute
  simp only [bind, StateT.bind, read, processed]
  rcases Host.generate settings.generator (selected settings p) (host settings p t) with
    ⟨e | report, h⟩
  · rfl
  · simp only [target, Directory.storage, StateT.bind, bind]
    rcases Directory.write path h.repository.project.toText d with ⟨_ | _, _⟩ <;> rfl

/-- A run that has succeeded in place: the model that it loaded, the operations that it appended and
the file that it wrote. -/
structure Done (settings : Settings) (s : Supply) (d : Directory) (path : String) (report : Report)
    (d' : Directory) (p : Project) (ops : List Operation) : Prop where
  loads : ∃ t, Loads settings s d p t
  sound : (p.appendAll ops).Sound
  owned : (p.appendAll ops).Owned
  grows : Grows settings p ops report (p.appendAll ops).toText
  wrote : ∃ place, d.locate path = .ok (place, false) ∧ d.isDirectory place = false ∧
    Directory.isOverlong place = false ∧ d.sinks.contains place = false ∧
    d' = d.put place (p.appendAll ops).toText

theorem loads_of_ok {out : Option String} (named : settings.model.path = some path)
    (run : execute Directory.storage settings s d = (.ok (report, out), d')) :
    ∃ p t text, d.read path = .ok text ∧ Project.ofText text s = .ok (p, t) := by
  have ends := execute_ends settings s d
  rw [run] at ends
  have loaded : ∃ p t, Loads settings s d p t := by
    cases ends with
    | printed _ loads _ => exact ⟨_, _, loads⟩
    | written _ loads _ _ _ _ => exact ⟨_, _, loads⟩
  obtain ⟨p, t, loads⟩ := loaded
  cases loads with
  | sample unnamed =>
    rw [named] at unnamed
    cases unnamed
  | file other found parsed =>
    cases named.symm.trans other
    exact ⟨p, t, _, found, parsed⟩

theorem execute_done (named : settings.model.path = some path)
    (target : settings.model.outputPath = some path) {out : Option String}
    (run : execute Directory.storage settings s d = (.ok (report, out), d')) :
    out = none ∧ ∃ p ops, Done settings s d path report d' p ops := by
  obtain ⟨p, t, text, found, parsed⟩ := loads_of_ok named run
  obtain ⟨sound, owned⟩ := Project.ofText_loaded parsed
  rw [execute_in_place named target found parsed] at run
  rcases requested : Host.generate settings.generator (selected settings p) (host settings p t) with
    ⟨e | report', h⟩
  · rw [requested] at run
    cases run
  rw [requested] at run
  dsimp only at run
  obtain ⟨ops, project, grows⟩ := request_grows sound owned requested
  rw [project] at run grows
  obtain ⟨e, failed⟩ | ⟨place, leads, free, short, wrote⟩ :=
    Directory.write_cases path (p.appendAll ops).toText d
  · rw [failed] at run
    cases run
  rw [wrote] at run
  cases run
  -- a file that stays empty gives no model
  have lasting : d.sinks.contains place = false := by
    rw [Bool.eq_false_iff]
    intro sink
    rw [Directory.read_sink leads free short sink] at found
    cases found
    cases parsed
  have kept := Project.sound_stable.inserted ⟨sound, owned⟩
    (Host.requested_sound (h := host settings p t) sound owned)
    (Host.generate_inserts (h := host settings p t) rfl requested)
  rw [project] at kept
  exact ⟨rfl, p, ops, ⟨t, .file named found parsed⟩, kept.1, kept.2, grows, place, leads, free, short,
    lasting, rfl⟩

/-! ### The second plan -/

theorem selected_appendAll (settings : Settings) (p : Project) (ops : List Operation) :
    selected settings (p.appendAll ops) = selected settings p := by
  have frame := p.appendAll_frame ops
  have all : (p.appendAll ops).selectAll = p.selectAll := by
    rw [← Project.selectAll_frame, frame, Project.selectAll_frame]
  rw [Project.selectAll, Project.selectAll] at all
  have resolves : (p.appendAll ops).resolvePath = p.resolvePath := by
    funext path
    rw [← Project.resolvePath_frame, frame, Project.resolvePath_frame]
  rw [selected, selected, all, resolves]

/-- On the model with its operations the first request plans the same members again. -/
theorem requested_again (grows : Grows settings p ops report text) (owned : (p.appendAll ops).Owned)
    (s' : Supply) :
    ((host settings (p.appendAll ops) s').requested settings.generator.constructorPolicy
      (selected settings (p.appendAll ops))).map (fun i => i.adopted.draft) =
        ops.map Operation.draft := by
  have planned := Host.requested_drafts (h := host settings (p.appendAll ops) s') owned
    settings.generator.constructorPolicy (selected settings (p.appendAll ops))
  have same : (p.appendAll ops).expectedMembers settings.generator.constructorPolicy
      (selected settings p) =
      p.expectedMembers settings.generator.constructorPolicy (selected settings p) := by
    rw [← Project.expectedMembers_frame, p.appendAll_frame ops, Project.expectedMembers_frame]
  rw [planned, grows.members, selected_appendAll]
  exact same

theorem refused_again {op : Operation} {rest : List Operation}
    (grows : Grows settings p (op :: rest) report text)
    (owned : (p.appendAll (op :: rest)).Owned)
    (rejects : settings.repository.rejectDuplicateOperations = true) (s' : Supply) :
    ∃ e i more, p.entity? op.ownerId = some e ∧
      (host settings (p.appendAll (op :: rest)) s').requested settings.generator.constructorPolicy
        (selected settings (p.appendAll (op :: rest))) = i :: more ∧
      (p.appendAll (op :: rest)).refusal? settings.repository [] i =
        some (.duplicateOperation e.name op.name) := by
  have again := requested_again grows owned s'
  obtain ⟨i, more, inserts, draft, -⟩ := List.map_eq_cons_iff.mp again
  have routes := Host.requested_routes (h := host settings (p.appendAll (op :: rest)) s') owned
    settings.generator.constructorPolicy (selected settings (p.appendAll (op :: rest)))
  obtain ⟨e, found⟩ := Option.isSome_iff_exists.mp (grows.owners op List.mem_cons_self)
  have owner : i.ownerId = op.ownerId := congrArg Operation.Draft.ownerId draft
  have name : i.element.name = op.name := congrArg Operation.Draft.name draft
  obtain ⟨target, reads, same, has⟩ : ∃ target : Entity,
      (p.appendAll (op :: rest)).entity? i.ownerId = some target ∧ target.name = e.name ∧
        i.element.name ∈ target.operationNames := by
    rw [owner, Project.entity?_appendAll, found, Option.map_some]
    exact ⟨_, rfl, rfl, by simp [name, Entity.operationNames]⟩
  have there : (p.appendAll (op :: rest)).Taken [] i.slot := Or.inr ⟨target, reads, has⟩
  have member : i ∈ (host settings (p.appendAll (op :: rest)) s').requested
      settings.generator.constructorPolicy (selected settings (p.appendAll (op :: rest))) := by
    rw [inserts]
    exact List.mem_cons_self
  obtain ⟨-, free⟩ | ⟨other, reads', -, -, refused⟩ :=
    Project.refusal?_cases settings.repository routes member []
  · exact absurd there (free rejects)
  · obtain rfl : target = other := Option.some.inj (reads.symm.trans reads')
    rw [same, name] at refused
    exact ⟨e, i, more, found, inserts, refused⟩

/-! ### The second run -/

theorem done_read (done : Done settings s d path report d' p ops) :
    d'.read path = .ok (p.appendAll ops).toText := by
  obtain ⟨place, leads, free, short, lasting, rfl⟩ := done.wrote
  rw [Directory.put_read leads free short, lasting]
  rfl

/-- The identifiers that the request of a run draws for its members. -/
def memberIds (settings : Settings) (p : Project) (supply : Supply) : List Id :=
  ((host settings p supply).batches settings.generator.constructorPolicy (selected settings p)).flatMap
    fun b => b.members.map (·.id)

theorem memberIds_appendAll (settings : Settings) (p : Project) (ops : List Operation)
    (supply : Supply) : memberIds settings (p.appendAll ops) supply = memberIds settings p supply := by
  have plan := Project.plan_frame (p.appendAll ops) settings.generator.constructorPolicy
    (selected settings p)
  rw [p.appendAll_frame ops, Project.plan_frame] at plan
  have same : (host settings (p.appendAll ops) supply).batches settings.generator.constructorPolicy
      (selected settings p) =
      (host settings p supply).batches settings.generator.constructorPolicy (selected settings p) :=
    congrArg (fun planned => (planned.mapM Batch.identify supply).1) plan.symm
  rw [memberIds, selected_appendAll, same]
  rfl

theorem execute_refused {op : Operation} {rest : List Operation}
    (named : settings.model.path = some path) (target : settings.model.outputPath = some path)
    (rejects : settings.repository.rejectDuplicateOperations = true)
    (done : Done settings s d path report d' p (op :: rest)) (s' : Supply) :
    ∃ label cause,
      execute Directory.storage settings s' d' = (.error (.generating (.rejected label 0 cause)), d') ∧
      ((memberIds settings (p.appendAll (op :: rest)) s').Nodup →
        ∃ e, p.entity? op.ownerId = some e ∧ cause = .duplicateOperation e.name op.name) := by
  obtain ⟨e, i, more, found, inserts, refused⟩ := refused_again done.grows done.owned rejects s'
  obtain ⟨label, cause, request⟩ := Host.generate_nothing_applied
    (h := host settings (p.appendAll (op :: rest)) s') rfl inserts refused settings.generator.granularity
  have request : (Host.generate settings.generator (selected settings (p.appendAll (op :: rest)))
      (host settings (p.appendAll (op :: rest)) s')).1 = .error (.rejected label 0 cause) := request
  refine ⟨label, cause, ?_, fun distinct => ⟨e, found, ?_⟩⟩
  · rw [execute_in_place named target (done_read done) (done.grows.text s')]
    rcases run : Host.generate settings.generator (selected settings (p.appendAll (op :: rest)))
      (host settings (p.appendAll (op :: rest)) s') with ⟨e | _, h⟩
    all_goals
      rw [run] at request
      cases request
    rfl
  · rw [memberIds, ← Host.requested_ids] at distinct
    exact Host.generate_first_refused rfl distinct inserts refused request

theorem execute_nothing (named : settings.model.path = some path)
    (target : settings.model.outputPath = some path)
    (done : Done settings s d path report d' p []) (s' : Supply) :
    ∃ report' place, execute Directory.storage settings s' d' =
        (.ok (report', none), d'.put place p.toText) ∧ report'.members = 0 ∧
      Directory.write path p.toText d' = (.ok (), d'.put place p.toText) ∧
      (∀ other, (d'.put place p.toText).file? other = d'.file? other) ∧
      (d'.put place p.toText).read path = d'.read path := by
  have same : p.appendAll [] = p := p.appendAll_nil
  have planned := requested_again done.grows done.owned s'
  have owned := done.owned
  have sound := done.sound
  have parsed := done.grows.text s'
  have read := done_read done
  rw [same] at planned owned sound parsed read
  have nothing := List.map_eq_nil_iff.mp planned
  have accepts := Host.generate_isOk (h := host settings p s') rfl (by rw [nothing]; exact .nil)
    settings.generator.granularity
  rw [nothing] at accepts
  have succeeds : (Host.generate settings.generator (selected settings p) (host settings p s')).1.isOk :=
    accepts.mpr fun before i after split => by simp at split
  rcases run : Host.generate settings.generator (selected settings p) (host settings p s') with
    ⟨cause | report', h⟩
  · rw [run] at succeeds
    cases succeeds
  obtain ⟨ops, project, grows⟩ := request_grows sound owned run
  obtain rfl : ops = [] := by
    have none := grows.members.trans done.grows.members.symm
    exact List.map_eq_nil_iff.mp none
  rw [same] at project
  obtain ⟨place, leads, free, short, -, rfl⟩ := done.wrote
  rw [same] at read ⊢
  have wrote : Directory.write path p.toText (d.put place p.toText) =
      (.ok (), (d.put place p.toText).put place p.toText) :=
    Directory.put_write leads free short p.toText
  refine ⟨report', place, ?_, grows.counted, wrote,
    fun other => Directory.put_again d place other p.toText,
    Directory.put_again_read leads free short⟩
  rw [execute_in_place named target read parsed, run]
  simp only [project, wrote]

/-- Running again on what a run in place has written leaves every file as it is. If the first run
appended operations, the second one is refused with nothing applied, and where it draws distinct
identifiers it is refused for the first of them; otherwise it inserts nothing and writes the same
text. -/
theorem execute_again (named : settings.model.path = some path)
    (target : settings.model.outputPath = some path)
    (rejects : settings.repository.rejectDuplicateOperations = true) {out : Option String}
    (run : execute Directory.storage settings s d = (.ok (report, out), d')) (s' : Supply) :
    let again := execute Directory.storage settings s' d'
    (∀ place, again.2.file? place = d'.file? place) ∧ again.2.read path = d'.read path ∧
    ∃ p t ops text, Loads settings s d p t ∧ Grows settings p ops report text ∧
      d'.read path = .ok text ∧
      (ops = [] → ∃ report', again.1 = .ok (report', none) ∧ report'.members = 0 ∧
        Directory.write path text d' = (.ok (), again.2)) ∧
      ∀ op rest, ops = op :: rest →
        ∃ label cause, again = (.error (.generating (.rejected label 0 cause)), d') ∧
          ((memberIds settings (p.appendAll ops) s').Nodup →
            ∃ e, p.entity? op.ownerId = some e ∧ cause = .duplicateOperation e.name op.name) := by
  obtain ⟨-, p, ops, done⟩ := execute_done named target run
  obtain ⟨t, loads⟩ := done.loads
  intro again
  cases ops with
  | nil =>
    obtain ⟨report', place, ends, empty, wrote, files, read⟩ := execute_nothing named target done s'
    have ends : again = (.ok (report', none), d'.put place p.toText) := ends
    have text := done_read done
    have grows := done.grows
    rw [p.appendAll_nil] at text grows
    rw [ends]
    exact ⟨files, read, p, t, [], p.toText, loads, grows, text,
      fun _ => ⟨report', rfl, empty, wrote⟩, nofun⟩
  | cons op rest =>
    obtain ⟨label, cause, ends, first⟩ := execute_refused named target rejects done s'
    have ends : again = (.error (.generating (.rejected label 0 cause)), d') := ends
    rw [ends]
    refine ⟨fun _ => rfl, rfl, p, t, op :: rest, _, loads, done.grows, done_read done, nofun, ?_⟩
    rintro op rest ⟨⟩
    exact ⟨label, cause, rfl, first⟩

/-- A class with one attribute, batch by batch, with identifiers that come again after a while. -/
theorem execute_again_sample :
    let d : Directory := { files := [(["m"], "[\"s\",\"\",[[\"o\",\"Order\",[[\"a\",\"sum\"]]]]]")] }
    let settings : Settings :=
      { generator := { granularity := .perMember }, model := ⟨some "m", some "m", []⟩ }
    let s : Supply := ⟨fun n => Nat.repr (n % 8), 0, ""⟩
    ∃ report out d', execute Directory.storage settings s d = (.ok (report, out), d') ∧
      report.members = 2 ∧
      (∀ place, (execute Directory.storage settings s d').2.file? place = d'.file? place) ∧
      ∃ label entity name, execute Directory.storage settings s d' =
        (.error (.generating (.rejected label 0 (.duplicateOperation entity name))), d') := by
  intro d settings s
  have two : (execute Directory.storage settings s d).1.toOption.map (·.1.members) = some 2 := by
    decide +kernel
  have drawn : (d.read "m").toOption.bind (fun text => (Project.ofText text s).toOption.map
      fun loaded => memberIds settings loaded.1 s) = some ["0", "2"] := by
    decide +kernel
  rcases run : execute Directory.storage settings s d with ⟨e | ⟨report, out⟩, d'⟩
  · rw [run] at two
    cases two
  rw [run] at two
  have counted : report.members = 2 := Option.some.inj two
  have named : settings.model.path = some "m" := rfl
  have result := execute_again named named rfl run s
  obtain ⟨files, -, p, t, ops, written, loads, grows, -, -, refused⟩ := result
  have count : ops.length = 2 := grows.counted.symm.trans counted
  obtain ⟨op, rest, rfl⟩ := List.exists_cons_of_length_pos (by omega : 0 < ops.length)
  obtain ⟨label, cause, ends, names⟩ := refused op rest rfl
  have distinct : (memberIds settings (p.appendAll (op :: rest)) s).Nodup := by
    cases loads with
    | sample unnamed => cases unnamed
    | file given read parsed =>
      cases given
      rw [read, Except.toOption, Option.bind_some, parsed] at drawn
      have ids : memberIds settings p s = ["0", "2"] := Option.some.inj drawn
      rw [memberIds_appendAll, ids]
      decide
  obtain ⟨e, -, rfl⟩ := names distinct
  exact ⟨report, out, d', rfl, counted, files, label, e.name, op.name, ends⟩

end Run

end Accessors
