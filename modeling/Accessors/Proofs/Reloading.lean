import Accessors.Proofs.Generation.Members
import Accessors.Proofs.Generation.Session
import Accessors.Proofs.Model.Codec
import Accessors.Sample

/-!
# Reloading a written model

A model that was loaded is sound, and so are the operations that requests and decoded commands bring.
So the model of a session can be written at any time, and its text gives it back
(`session_reloads`).
-/

namespace Accessors

/-! ### Soundness of models -/

namespace Project

variable {p : Project}

theorem appendAll_sound (h : p.Sound) {ops : List Operation} (sound : ∀ op ∈ ops, op.Sound) :
    (p.appendAll ops).Sound := by
  intro e member
  obtain ⟨i, bound, rfl⟩ := List.mem_mapIdx.mp member
  have own := h _ (List.getElem_mem bound)
  split
  · refine ⟨own.attributes, fun op inside => ?_⟩
    rcases List.mem_append.mp inside with old | new
    · exact own.operations op old
    · exact sound op (List.mem_filter.mp new).1
  · exact own

theorem removeOperations_sound (h : p.Sound) (ids : List Id) : (p.removeOperations ids).Sound := by
  intro e member
  obtain ⟨e, inside, rfl⟩ := List.mem_map.mp member
  have own := h e inside
  exact ⟨own.attributes, fun op kept => own.operations op (List.mem_filter.mp kept).1⟩

theorem sound_stable : Stable (fun p => p.Sound ∧ p.Owned) fun i => i.element.Sound where
  inserted h sound inserted := by
    refine ⟨?_, insertAll_owned h.2 inserted⟩
    obtain ⟨-, rfl⟩ := insertAll_ok inserted
    exact appendAll_sound h.1 (List.forall_mem_map.mpr sound)
  removed h _ := ⟨removeOperations_sound h.1 _, removeOperations_owned h.2 _⟩

end Project

/-! ### Soundness of requests -/

def Operation.Draft.Sound (d : Operation.Draft) : Prop := ∀ p ∈ d.parameters, p.type.Sound

theorem Operation.sound_of_draft {op : Operation} (h : op.draft.Sound) : op.Sound :=
  fun p member => h p.draft (List.mem_map_of_mem member)

theorem Visit.members_sound {p : Project} (sound : p.Sound) {selection : List ElementRef} {v : Visit}
    (visited : v ∈ p.visits selection) (policy : ConstructorPolicy) :
    ∀ d ∈ v.members policy, d.Sound := by
  obtain ⟨e, member, rfl | ⟨a, inside, rfl⟩⟩ := Project.visits_cases visited
  · have parameters : ∀ q ∈ (e.attributes.filter (·.type.isMandatory)).map fun a =>
        (⟨.input, some ("$" ++ a.name), a.type.normalize⟩ : Parameter.Draft), q.type.Sound := by
      refine List.forall_mem_map.mpr fun a kept => ?_
      exact TypeDescriptor.normalize_sound ((sound e member).attributes a (List.mem_filter.mp kept).1)
    intro d planned
    simp only [Visit.members] at planned
    split at planned
    · cases planned
    · cases List.mem_singleton.mp planned
      exact parameters
  · have type := TypeDescriptor.normalize_sound ((sound e member).attributes a inside)
    intro d planned
    rcases List.mem_cons.mp planned with rfl | planned
    · exact List.forall_mem_singleton.mpr type
    · cases List.mem_singleton.mp planned
      exact List.forall_mem_cons.mpr ⟨type, List.forall_mem_singleton.mpr trivial⟩

theorem Project.expectedMembers_sound {p : Project} (sound : p.Sound) (policy : ConstructorPolicy)
    (selection : List ElementRef) : ∀ d ∈ p.expectedMembers policy selection, d.Sound := by
  intro d planned
  obtain ⟨v, first, inside⟩ := List.mem_flatMap.mp planned
  exact Visit.members_sound sound (mem_of_mem_eraseDupsBy _ first) policy d inside

theorem Host.requested_sound {h : Host} (sound : h.reader.Sound) (owned : h.reader.Owned)
    {policy : ConstructorPolicy} {selection : List ElementRef} :
    ∀ i ∈ h.requested policy selection, i.element.Sound := by
  intro i member
  obtain ⟨b, planned, inside⟩ := List.mem_flatMap.mp member
  obtain ⟨op, hop, rfl⟩ := List.mem_map.mp inside
  have drafted := List.mem_map_of_mem (f := Operation.draft) (List.mem_flatMap_of_mem planned hop)
  -- identifiers have no types, so it is enough to look at the drafts
  rw [members_drafts, plan_members owned] at drafted
  exact Operation.sound_of_draft (Project.expectedMembers_sound sound policy selection _ drafted)

/-! ### Sessions with loaded models -/

theorem Sample.entity_sound {id name description : String} {attributes : List (String × TypeDescriptor)}
    (sound : ∀ a ∈ attributes, a.2.Sound) : (Sample.entity id name description attributes).Sound :=
  ⟨List.forall_mem_map.mpr sound, nofun⟩

theorem Sample.project_sound : Sample.project.Sound := by
  have parsed := TypeDescriptor.parse_sound
  simp only [Project.Sound, Sample.project, List.forall_mem_cons]
  refine ⟨entity_sound ?_, entity_sound ?_, entity_sound ?_, entity_sound ?_, nofun⟩
  all_goals simp only [List.forall_mem_cons]
  · exact ⟨parsed _, parsed _, nofun⟩
  · exact ⟨trivial, parsed _, parsed _, nofun⟩
  · exact ⟨parsed _, trivial, nofun⟩
  · exact ⟨parsed _, nofun⟩

theorem Sample.project_owned : Sample.project.Owned := by
  unfold Project.Owned
  decide

inductive Project.Loaded : Project → Prop where
  | text {text : String} {s t : Supply} {p : Project} : ofText text s = .ok (p, t) → Loaded p
  | sample : Loaded Sample.project

theorem Project.loaded_sound {p : Project} (h : p.Loaded) : p.Sound ∧ p.Owned := by
  cases h with
  | text run => exact ofText_loaded run
  | sample => exact ⟨Sample.project_sound, Sample.project_owned⟩

namespace Repository

def Decoded (_ : Repository) : Step → Prop
  | .call (.submit c) => ∃ text s t, Json.decode EditCommand.decoder text s = .ok (c, t)
  | _ => True

theorem decoded_brings {r : Repository} {step : Step} (h : r.project.Sound ∧ r.project.Owned)
    (decoded : r.Decoded step) : r.Brings (fun i => i.element.Sound) step := by
  cases step with
  | call c =>
    cases c with
    | submit c =>
      obtain ⟨text, s, t, run⟩ := decoded
      exact fun _ => Json.decode_gives EditCommand.decoder_gives run
    | _ => trivial
  | generate options selection supply =>
    exact Host.requested_sound (h := { repository := r, supply }) h.1 h.2

/-- The text of the model of a session gives the model back, whatever the session did. Nothing is
drawn from the supply for it. -/
theorem session_reloads {p : Project} (loaded : p.Loaded) {policy : Policy} {r : Repository}
    (session : Session Decoded (.ofProject p policy) r) (s : Supply) :
    Project.ofText r.project.toText s = .ok (r.project, s) := by
  have start : (Repository.ofProject p policy).Holds (fun p => p.Sound ∧ p.Owned)
      fun i => i.element.Sound :=
    ofProject_holds policy
      ⟨Project.normalize_sound (Project.loaded_sound loaded).1, p.normalize_owned⟩
  obtain ⟨sound, owned⟩ :=
    (session_holds Project.sound_stable (fun _ _ => decoded_brings) start session).project
  rw [Project.ofText_toText sound owned]
  rfl

theorem exists_ok {ε α σ : Type} {x : Except ε (α × σ)} {a : α} (h : x.toOption.map (·.1) = some a) :
    ∃ s, x = .ok (a, s) := by
  cases x with
  | error e => cases h
  | ok result =>
    cases h
    exact ⟨result.2, rfl⟩

/-- Types that look like others, in a text and in a command, and a request for them. -/
theorem session_reloads_sample :
    let text := "[\"shop\", \"Läden\", [[\"o\", \"Order\", [[\"a\", \"Σum\", \"VOID\", \"\"],
      [\"b\", \"to\", \x7b\"$ref\": \"o\", \"name\": \"?Order\"\x7d, \"\"]], [], \"\"]]]"
    let edit := "[\"c\", \"edit\", \"\", \"\", [[\"o\", \"operations\",
      [\"x\", \"load\", \"public\", \"\", [[\"y\", \"return\", null, \x7b\"marker\": \"void\"\x7d]]]]]]"
    let p : Project := ⟨"shop", "Läden", [⟨"o", "Order", [⟨"a", "Σum", .primitive "VOID", "o"⟩,
      ⟨"b", "to", .entityRef "o" "?Order", "o"⟩], [], some ""⟩]⟩
    let c : EditCommand := ⟨"c", "edit", "", "",
      [⟨"o", .operations, ⟨"x", "load", .public, "", [⟨"y", .result, none, .void⟩]⟩⟩]⟩
    let supply : Supply := ⟨Nat.repr, 0, ""⟩
    let r := ((Repository.ofProject p {}).next (.call (.submit c))).next
      (.generate {} [⟨.entity, "o"⟩] supply)
    (∃ t, Project.ofText text supply = .ok (p, t)) ∧
      (∃ t, Json.decode EditCommand.decoder edit supply = .ok (c, t)) ∧
      r.project.entities.flatMap (·.operationNames) =
        ["load", "__construct", "getΣum", "setΣum", "getTo", "setTo"] ∧
      ∀ s, Project.ofText r.project.toText s = .ok (r.project, s) := by
  intro text edit p c supply r
  obtain ⟨t, loaded⟩ : ∃ t, Project.ofText text supply = .ok (p, t) := exists_ok (by decide +kernel)
  obtain ⟨t', decoded⟩ : ∃ t, Json.decode EditCommand.decoder edit supply = .ok (c, t) :=
    exists_ok (by decide +kernel)
  have names : r.project.entities.flatMap (·.operationNames) =
      ["load", "__construct", "getΣum", "setΣum", "getTo", "setTo"] := by
    decide +kernel
  have session : Session Decoded (.ofProject p {}) r :=
    .step (.generate {} [⟨.entity, "o"⟩] supply)
      (.step (.call (.submit c)) .start ⟨edit, supply, t', decoded⟩) trivial
  exact ⟨⟨t, loaded⟩, ⟨t', decoded⟩, names, session_reloads (.text loaded) session⟩

end Repository

end Accessors
