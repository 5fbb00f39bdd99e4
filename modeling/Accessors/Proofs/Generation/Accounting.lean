import Accessors.Proofs.Generation.Counts
import Accessors.Proofs.Generation.Progress
import Mathlib.Algebra.BigOperators.Group.Finset.Basic
import Mathlib.Algebra.GroupWithZero.Nat

/-!
# What a report accounts for

The counters of a plan said of the selection and the model alone (`Plan.run_counted`): each selected
element and each attribute of a selected entity is a new entity, new accessors, skipped or a duplicate.
`generate_accounts` adds what a request does to the model and to the history.
-/

namespace Accessors

def selectedIds (kind : ElementKind) (selection : List ElementRef) : Finset Id :=
  ((selection.filter (·.kind = kind)).map (·.id)).toFinset

theorem mem_selectedIds {kind : ElementKind} {selection : List ElementRef} {id : Id} :
    id ∈ selectedIds kind selection ↔ ⟨kind, id⟩ ∈ selection := by
  simp only [selectedIds, List.mem_toFinset, List.mem_map, List.mem_filter, decide_eq_true_eq]
  constructor
  · rintro ⟨element, ⟨member, rfl⟩, rfl⟩
    exact member
  · intro member
    exact ⟨_, ⟨member, rfl⟩, rfl⟩

theorem selectedIds_concat (kind : ElementKind) (selection : List ElementRef) (element : ElementRef) :
    selectedIds kind (selection ++ [element]) =
      if element.kind = kind then insert element.id (selectedIds kind selection)
      else selectedIds kind selection := by
  by_cases same : element.kind = kind <;> ext id <;> simp [selectedIds, List.filter_append, same]

theorem filter_concat (kind : ElementKind) (q : Id → Prop) [DecidablePred q]
    (selection : List ElementRef) (element : ElementRef) :
    (selectedIds kind (selection ++ [element])).filter q =
      if element.kind = kind ∧ q element.id then
        insert element.id ((selectedIds kind selection).filter q)
      else (selectedIds kind selection).filter q := by
  rw [selectedIds_concat]
  by_cases same : element.kind = kind <;> simp [same, Finset.filter_insert]

theorem card_selectedIds {refs : List ElementRef} (distinct : refs.Nodup) (kind : ElementKind) :
    (selectedIds kind refs).card = refs.countP (·.kind = kind) := by
  have ids : ((refs.filter (·.kind = kind)).map (·.id)).Nodup := by
    refine (distinct.filter _).map_on fun r hr s hs same => ?_
    rw [List.mem_filter, decide_eq_true_eq] at hr hs
    obtain ⟨rkind, rid⟩ := r
    obtain ⟨skind, sid⟩ := s
    simp_all
  rw [selectedIds, List.toFinset_card_of_nodup ids, List.length_map, List.countP_eq_length_filter]

namespace Project

variable {p : Project} {selection : List ElementRef}

def selectedEntities (p : Project) (selection : List ElementRef) : Finset Id :=
  (selectedIds .entity selection).filter fun id => (p.entity? id).isSome

def missingEntities (p : Project) (selection : List ElementRef) : Finset Id :=
  (selectedIds .entity selection).filter fun id => (p.entity? id).isNone

def missingAttributes (p : Project) (selection : List ElementRef) : Finset Id :=
  (selectedIds .attribute selection).filter fun id => (p.attribute? id).isNone

/-- How many elements there are of other kinds, with the identifiers that lead nowhere. -/
def skips (p : Project) (selection : List ElementRef) : Nat :=
  selection.countP (·.kind = .other) + (p.missingEntities selection).card +
    (p.missingAttributes selection).card

def attributesOf (p : Project) (id : Id) : List Attribute :=
  match p.entity? id with
  | none => []
  | some e => e.attributes

/-- The attributes of the model that are selected themselves or through their entity. -/
def reachedAttributes (p : Project) (selection : List ElementRef) : Finset Id :=
  ((selectedIds .attribute selection).filter fun id => (p.attribute? id).isSome) ∪
    (p.selectedEntities selection).biUnion fun id => ((p.attributesOf id).map (·.id)).toFinset

theorem skips_concat {element : ElementRef} (useful : element.kind ≠ .other)
    (entities : p.missingEntities (selection ++ [element]) = p.missingEntities selection)
    (attributes : p.missingAttributes (selection ++ [element]) = p.missingAttributes selection) :
    p.skips (selection ++ [element]) = p.skips selection := by
  unfold skips
  rw [entities, attributes, List.countP_append, List.countP_singleton, if_neg (by simpa using useful)]
  omega

theorem skips_entity {id : Id} (new : id ∉ selectedIds .entity selection) (absent : p.entity? id = none)
    (attributes : p.missingAttributes (selection ++ [⟨.entity, id⟩]) = p.missingAttributes selection) :
    p.skips (selection ++ [⟨.entity, id⟩]) = p.skips selection + 1 := by
  have fresh : id ∉ p.missingEntities selection := by simp [missingEntities, new]
  have one : p.missingEntities (selection ++ [⟨.entity, id⟩]) =
      Insert.insert id (p.missingEntities selection) := by
    simp [missingEntities, filter_concat, absent]
  unfold skips
  rw [attributes, one, Finset.card_insert_of_notMem fresh, List.countP_append, List.countP_singleton,
    if_neg (by simp)]
  omega

theorem skips_attribute {id : Id} (new : id ∉ selectedIds .attribute selection)
    (absent : p.attribute? id = none)
    (entities : p.missingEntities (selection ++ [⟨.attribute, id⟩]) = p.missingEntities selection) :
    p.skips (selection ++ [⟨.attribute, id⟩]) = p.skips selection + 1 := by
  have fresh : id ∉ p.missingAttributes selection := by simp [missingAttributes, new]
  have one : p.missingAttributes (selection ++ [⟨.attribute, id⟩]) =
      Insert.insert id (p.missingAttributes selection) := by
    simp [missingAttributes, filter_concat, absent]
  unfold skips
  rw [entities, one, Finset.card_insert_of_notMem fresh, List.countP_append, List.countP_singleton,
    if_neg (by simp)]
  omega

theorem skips_other (id : Id) : p.skips (selection ++ [⟨.other, id⟩]) = p.skips selection + 1 := by
  have entities : p.missingEntities (selection ++ [⟨.other, id⟩]) = p.missingEntities selection := by
    simp [missingEntities, selectedIds_concat]
  have attributes : p.missingAttributes (selection ++ [⟨.other, id⟩]) = p.missingAttributes selection := by
    simp [missingAttributes, selectedIds_concat]
  unfold skips
  rw [entities, attributes, List.countP_append, List.countP_singleton, if_pos (by simp)]
  omega

theorem attributesOf_some {id : Id} {e : Entity} (found : p.entity? id = some e) :
    p.attributesOf id = e.attributes := by
  rw [attributesOf, found]

theorem reachedAttributes_visits (p : Project) (selection : List ElementRef) :
    p.reachedAttributes selection = selectedIds .attribute ((p.visits selection).map Visit.ref) := by
  ext id
  simp only [reachedAttributes, selectedEntities, Finset.mem_union, Finset.mem_filter,
    Finset.mem_biUnion, mem_selectedIds, List.mem_toFinset, Option.isSome_iff_exists, Prod.exists]
  constructor
  · rintro (⟨chosen, e, a, found⟩ | ⟨target, ⟨chosen, e, found⟩, inside⟩)
    · exact visits_attribute found chosen
    · rw [attributesOf_some found] at inside
      obtain ⟨a, member, rfl⟩ := List.mem_map.mp inside
      refine visits_of_selected (v := .attribute e a) chosen ?_
      simp [visitsOf, found, member]
  · intro visited
    obtain ⟨v, leads, same⟩ := List.mem_map.mp visited
    obtain ⟨element, chosen, leads⟩ := List.mem_flatMap.mp leads
    obtain ⟨kind, target⟩ := element
    obtain ⟨rfl, e, found, rfl | ⟨a, member, rfl⟩⟩ | ⟨rfl, e, a, found, rfl⟩ := visitsOf_cases leads
    · cases same
    · cases same
      refine Or.inr ⟨target, ⟨chosen, e, found⟩, ?_⟩
      rw [attributesOf_some found]
      exact List.mem_map_of_mem member
    · obtain ⟨-, -, named⟩ := attribute?_some found
      cases same
      obtain rfl : a.id = target := named
      exact Or.inl ⟨chosen, e, a, found⟩

end Project

namespace Plan

variable {policy : ConstructorPolicy} {reader : Project} {refs : List ElementRef} {p : Plan}

theorem count_push (p : Plan) (b : Batch Operation.Draft) (kind : Batch.Kind) :
    (p.push b).count kind = p.count kind + if b.kind = kind then 1 else 0 := by
  simp [count, push, List.countP_append, List.countP_cons]

theorem addConstructor_counts (policy : ConstructorPolicy) (p : Plan) (e : Entity) :
    (p.addConstructor policy e).count .accessors = p.count .accessors ∧
      (p.addConstructor policy e).skipped = p.skipped ∧
      (p.addConstructor policy e).duplicates = p.duplicates := by
  unfold addConstructor
  split
  · exact ⟨by simp [count_push, Batch.ofEntity], rfl, rfl⟩
  · exact ⟨rfl, rfl, rfl⟩

theorem addAttributes_counts (as : List Attribute) (p : Plan) :
    (as.foldl addAttribute p).count .accessors + (as.foldl addAttribute p).duplicates =
        p.count .accessors + p.duplicates + as.length ∧
      (as.foldl addAttribute p).skipped = p.skipped := by
  induction as generalizing p with
  | nil => exact ⟨rfl, rfl⟩
  | cons a as ih =>
    obtain ⟨total, skipped⟩ := ih (p.addAttribute a)
    have first : (p.addAttribute a).count .accessors + (p.addAttribute a).duplicates =
          p.count .accessors + p.duplicates + 1 ∧ (p.addAttribute a).skipped = p.skipped := by
      unfold addAttribute
      split
      · exact ⟨rfl, rfl⟩
      · refine ⟨?_, rfl⟩
        rw [count_push, if_pos (show (Batch.ofAttribute a).kind = .accessors from rfl)]
        show p.count .accessors + 1 + p.duplicates = _
        omega
    rw [List.foldl_cons, List.length_cons]
    exact ⟨by omega, skipped.trans first.2⟩

structure Counted (reader : Project) (refs : List ElementRef) (p : Plan) : Prop where
  skipped : p.skipped = reader.skips refs
  total : refs.length + ∑ id ∈ reader.selectedEntities refs, (reader.attributesOf id).length =
    (reader.selectedEntities refs).card + p.count .accessors + p.skipped + p.duplicates

theorem repeated_counted (h : Counted reader refs p) {element : ElementRef}
    (present : reader.selectedEntities (refs ++ [element]) = reader.selectedEntities refs)
    (same : reader.skips (refs ++ [element]) = reader.skips refs) :
    Counted reader (refs ++ [element]) p.repeated := by
  obtain ⟨skipped, total⟩ := h
  refine ⟨?_, ?_⟩
  · rw [same]
    exact skipped
  · rw [present, List.length_append, List.length_singleton]
    show _ = _ + p.count .accessors + p.skipped + (p.duplicates + 1)
    omega

theorem skip_counted (h : Counted reader refs p) {element : ElementRef}
    (present : reader.selectedEntities (refs ++ [element]) = reader.selectedEntities refs)
    (one : reader.skips (refs ++ [element]) = reader.skips refs + 1) :
    Counted reader (refs ++ [element]) p.skip := by
  obtain ⟨skipped, total⟩ := h
  refine ⟨?_, ?_⟩
  · show p.skipped + 1 = _
    omega
  · rw [present, List.length_append, List.length_singleton]
    show _ = _ + p.count .accessors + (p.skipped + 1) + p.duplicates
    omega

theorem entity_counted (f : Follows policy refs (reader.visits refs) p) (h : Counted reader refs p)
    (id : Id) : Counted reader (refs ++ [⟨.entity, id⟩]) (p.step reader policy ⟨.entity, id⟩) := by
  have lost : reader.missingAttributes (refs ++ [⟨.entity, id⟩]) = reader.missingAttributes refs := by
    simp [Project.missingAttributes, selectedIds_concat]
  by_cases known : id ∈ p.entities
  · have run : p.step reader policy ⟨.entity, id⟩ = p.repeated := by simp [step, known]
    have same : selectedIds .entity (refs ++ [⟨.entity, id⟩]) = selectedIds .entity refs := by
      rw [selectedIds_concat, if_pos rfl]
      exact Finset.insert_eq_of_mem (mem_selectedIds.mpr ((f.entities id).mp known))
    rw [run]
    refine repeated_counted h ?_ (Project.skips_concat (by simp) ?_ lost)
    · rw [Project.selectedEntities, same, Project.selectedEntities]
    · rw [Project.missingEntities, same, Project.missingEntities]
  · have new : id ∉ selectedIds .entity refs := by
      rwa [mem_selectedIds, ← f.entities]
    cases found : reader.entity? id with
    | none =>
      have run : p.step reader policy ⟨.entity, id⟩ = (p.meetEntity id).skip := by
        simp [step, known, found]
      rw [run]
      refine skip_counted (p := p.meetEntity id) ⟨h.skipped, h.total⟩ ?_
        (Project.skips_entity new found lost)
      simp [Project.selectedEntities, filter_concat, found]
    | some e =>
      have run : p.step reader policy ⟨.entity, id⟩ =
          e.attributes.foldl addAttribute ((p.meetEntity id).addConstructor policy e) := by
        simp [step, known, found]
      have present : reader.selectedEntities (refs ++ [⟨.entity, id⟩]) =
          insert id (reader.selectedEntities refs) := by
        simp [Project.selectedEntities, filter_concat, found]
      have fresh : id ∉ reader.selectedEntities refs := by
        simp [Project.selectedEntities, new]
      have absent : reader.missingEntities (refs ++ [⟨.entity, id⟩]) = reader.missingEntities refs := by
        simp [Project.missingEntities, filter_concat, found]
      obtain ⟨skipped, total⟩ : Counted reader refs (p.meetEntity id) := ⟨h.skipped, h.total⟩
      obtain ⟨count, skips, duplicates⟩ := addConstructor_counts policy (p.meetEntity id) e
      obtain ⟨counts, skips'⟩ :=
        addAttributes_counts e.attributes ((p.meetEntity id).addConstructor policy e)
      rw [run]
      refine ⟨?_, ?_⟩
      · rw [Project.skips_concat (by simp) absent lost]
        omega
      · rw [present, Finset.sum_insert fresh, Finset.card_insert_of_notMem fresh,
          Project.attributesOf_some found, List.length_append, List.length_singleton]
        omega

theorem attribute_counted (f : Follows policy refs (reader.visits refs) p) (h : Counted reader refs p)
    (id : Id) :
    Counted reader (refs ++ [⟨.attribute, id⟩]) (p.step reader policy ⟨.attribute, id⟩) := by
  have present : reader.selectedEntities (refs ++ [⟨.attribute, id⟩]) = reader.selectedEntities refs := by
    simp [Project.selectedEntities, selectedIds_concat]
  have absent : reader.missingEntities (refs ++ [⟨.attribute, id⟩]) = reader.missingEntities refs := by
    simp [Project.missingEntities, selectedIds_concat]
  by_cases known : id ∈ p.attributes
  · have run : p.step reader policy ⟨.attribute, id⟩ = p.repeated := by simp [step, known]
    rw [run]
    refine repeated_counted h present (Project.skips_concat (by simp) absent ?_)
    -- a met attribute has been selected before, or it is one of a selected entity
    obtain chosen | visited := (f.attributes id).mp known
    · rw [Project.missingAttributes, selectedIds_concat, if_pos rfl,
        Finset.insert_eq_of_mem (mem_selectedIds.mpr chosen), Project.missingAttributes]
    · obtain ⟨v, leads, same⟩ := List.mem_map.mp visited
      obtain ⟨e, member, rfl | ⟨a, inside, rfl⟩⟩ := Project.visits_cases leads
      · cases same
      · cases same
        obtain ⟨e', a', found⟩ := Project.attribute?_isSome member inside
        simp [Project.missingAttributes, filter_concat, found]
  · have new : id ∉ selectedIds .attribute refs := by
      rw [mem_selectedIds]
      exact fun chosen => known ((f.attributes id).mpr (Or.inl chosen))
    cases found : reader.attribute? id with
    | none =>
      have run : p.step reader policy ⟨.attribute, id⟩ = (p.meetAttribute id).skip := by
        simp [step, known, found]
      rw [run]
      exact skip_counted (p := p.meetAttribute id) ⟨h.skipped, h.total⟩ present
        (Project.skips_attribute new found absent)
    | some pair =>
      obtain ⟨e, a⟩ := pair
      have run : p.step reader policy ⟨.attribute, id⟩ = (p.meetAttribute id).push (.ofAttribute a) := by
        simp [step, known, found]
      have lost : reader.missingAttributes (refs ++ [⟨.attribute, id⟩]) = reader.missingAttributes refs := by
        simp [Project.missingAttributes, filter_concat, found]
      have count := count_push (p.meetAttribute id) (.ofAttribute a) .accessors
      rw [if_pos (show (Batch.ofAttribute a).kind = .accessors from rfl)] at count
      obtain ⟨skipped, total⟩ : Counted reader refs (p.meetAttribute id) := ⟨h.skipped, h.total⟩
      rw [run]
      refine ⟨?_, ?_⟩
      · rw [Project.skips_concat (by simp) absent lost]
        exact skipped
      · rw [present, count, List.length_append, List.length_singleton]
        show _ = _ + _ + (p.meetAttribute id).skipped + (p.meetAttribute id).duplicates
        omega

theorem step_counted (f : Follows policy refs (reader.visits refs) p) (h : Counted reader refs p)
    (element : ElementRef) : Counted reader (refs ++ [element]) (p.step reader policy element) := by
  obtain ⟨kind, id⟩ := element
  cases kind with
  | entity => exact entity_counted f h id
  | «attribute» => exact attribute_counted f h id
  | other =>
    refine skip_counted h ?_ (Project.skips_other id)
    simp [Project.selectedEntities, selectedIds_concat]

theorem run_counted (reader : Project) (policy : ConstructorPolicy) (selection : List ElementRef) :
    Counted reader selection (ofSelection reader policy selection) := by
  induction selection using List.reverseRecOn with
  | nil => exact ⟨rfl, rfl⟩
  | append_singleton refs element ih =>
    have next := step_counted (run_follows reader policy refs) ih element
    rwa [ofSelection, List.foldl_concat]

/-- Accessors are planned once for each attribute that is reached. -/
theorem count_accessors (reader : Project) (policy : ConstructorPolicy) (selection : List ElementRef) :
    (ofSelection reader policy selection).count .accessors =
      (reader.reachedAttributes selection).card := by
  obtain ⟨distinct, same⟩ := firstVisits_refs (reader.visits selection)
  have reached : reader.reachedAttributes selection =
      selectedIds .attribute ((firstVisits (reader.visits selection)).map Visit.ref) := by
    ext id
    rw [Project.reachedAttributes_visits, mem_selectedIds, mem_selectedIds, same]
  have each : ∀ v : Visit, (v.batches policy).countP (·.kind == .accessors) =
      if v.ref.kind = .attribute then 1 else 0 := by
    intro v
    cases v with
    | entity e =>
      simp only [Visit.batches]
      split <;> simp [Visit.ref, Batch.ofEntity]
    | «attribute» e a => simp [Visit.batches, Visit.ref, Batch.ofAttribute]
  have total : ∀ visits : List Visit, (visits.flatMap (Visit.batches policy)).countP (·.kind == .accessors) =
      (visits.map Visit.ref).countP (·.kind = .attribute) := by
    intro visits
    induction visits with
    | nil => rfl
    | cons v rest ih =>
      rw [List.flatMap_cons, List.countP_append, each, ih, List.map_cons, List.countP_cons, Nat.add_comm]
      simp
  rw [reached, card_selectedIds distinct, count, plan_batches, total]

theorem length_batches (p : Plan) : p.batches.length = p.count .constructor + p.count .accessors := by
  rw [count, count, List.length_eq_countP_add_countP (·.kind == .constructor)]
  congr 1
  refine List.countP_congr fun b _ => ?_
  cases b.kind <;> simp

end Plan

/-! ### Commands -/

namespace Host

variable {h h' : Host} {policy : ConstructorPolicy} {selection : List ElementRef} {report : Report}

theorem members_commands (new : h.builder = {})
    (run : generate ⟨policy, .perMember⟩ selection h = (.ok report, h')) :
    report.commands.length = report.constructors + report.getters := by
  obtain ⟨cs, trace, done⟩ | ⟨_, _, _, _, _, _, _, _, _, impossible⟩ := generate_trace new run
  · cases done
    have committed := congrArg List.length (commits_commands trace)
    have drafts := congrArg List.length
      (Batch.identify_drafts (Plan.ofSelection h.reader policy selection).batches h.supply)
    rw [List.length_map, List.length_map] at committed
    rw [List.length_map, Plan.length_batches] at drafts
    show (cs.map EditCommand.receipt).length = _
    rw [List.length_map, committed]
    exact drafts
  · cases impossible

theorem request_commands (new : h.builder = {})
    (run : generate ⟨policy, .perRequest⟩ selection h = (.ok report, h')) :
    report.commands.length = if report.members = 0 then 0 else 1 := by
  rw [generate_request] at run
  split at run
  · cases run
  · rename_i receipt after transacted
    cases run
    have members := length_requested h policy selection receipt.toList
    by_cases empty : h.requested policy selection = []
    · rw [if_pos (by rw [← members, empty, List.length_nil])]
      have submitted := transact_staged (h := h.drawn policy selection) new transacted
      rw [requested] at empty
      rw [empty, Transaction.submit_opened_nil] at submitted
      cases submitted
      rfl
    · rw [if_neg (by rwa [← members, List.length_eq_zero_iff])]
      obtain ⟨c, rfl, -⟩ := transact_ok (h := h.drawn policy selection) new empty transacted
      rfl

theorem generate_commands (new : h.builder = {}) {options : Options}
    (run : generate options selection h = (.ok report, h')) :
    ∃ cs : List EditCommand,
      report = (Plan.ofSelection h.reader options.constructorPolicy selection).report
        (cs.map EditCommand.receipt) ∧
      cs.flatMap (·.insertions) = h.requested options.constructorPolicy selection ∧
      h'.repository.undoStack = cs.reverse ++ h.repository.undoStack ∧
      report.commands.length = match options.granularity with
        | .perMember => report.constructors + report.getters
        | .perRequest => if report.members = 0 then 0 else 1 := by
  obtain ⟨policy, granularity⟩ := options
  cases granularity with
  | perRequest =>
    have length := request_commands new run
    obtain ⟨-, c, rfl, inserts, stack⟩ := request_ok new run
    refine ⟨c.toList, rfl, inserts, ?_, length⟩
    rw [stack]
    cases c <;> rfl
  | perMember =>
    have length := members_commands new run
    obtain ⟨-, cs, rfl, inserts, stack⟩ := members_ok new run
    exact ⟨cs, rfl, inserts, stack, length⟩

end Host

/-- What the report on a request that led from `r` to `r'` says of the selection, of the model and of
the history. -/
structure Repository.Accounts (r : Repository) (selection : List ElementRef) (granularity : Granularity)
    (report : Report) (r' : Repository) : Prop where
  elements :
    selection.length +
        ∑ id ∈ r.project.selectedEntities selection, (r.project.attributesOf id).length =
      (r.project.selectedEntities selection).card + report.getters + report.skipped + report.duplicates
  getters : report.getters = (r.project.reachedAttributes selection).card
  setters : report.setters = report.getters
  skipped : report.skipped = selection.countP (·.kind = .other) +
    (r.project.missingEntities selection).card + (r.project.missingAttributes selection).card
  grown : r'.project.operationCount = r.project.operationCount + report.members
  operations : report.operations = .ofNat (r'.project.operationCount - r.project.operationCount)
  inserted : (report.commands.map (·.inserted)).sum = report.members
  commands : report.commands.length = match granularity with
    | .perMember => report.constructors + report.getters
    | .perRequest => if report.members = 0 then 0 else 1
  /-- The receipts are those of the new commands, in order. -/
  receipts : ∃ cs : List EditCommand,
    report.commands = cs.map (fun c => ⟨c.id, c.label, c.hash, c.insertions.length⟩) ∧
    r'.undoStack = cs.reverse ++ r.undoStack
  history : r'.history = r.history ++ report.commands.map (·.label)

namespace Host

theorem generate_accounts {r : Repository} {supply : Supply} {options : Options}
    {selection : List ElementRef} {report : Report} {h' : Host}
    (run : generate options selection { repository := r, supply } = (.ok report, h')) :
    r.Accounts selection options.granularity report h'.repository := by
  let h : Host := { repository := r, supply }
  have grown := Project.insertAll_operationCount (generate_inserts (h := h) rfl run)
  obtain ⟨cs, rfl, inserts, stack, length⟩ := generate_commands (h := h) rfl run
  obtain ⟨skipped, elements⟩ := Plan.run_counted r.project options.constructorPolicy selection
  have members := length_requested h options.constructorPolicy selection (cs.map EditCommand.receipt)
  rw [members] at grown
  refine ⟨elements, Plan.count_accessors r.project _ selection, rfl, skipped, grown, ?_, ?_, length,
    ⟨cs, rfl, stack⟩, ?_⟩
  · rw [grown, Nat.add_sub_cancel_left]
    rfl
  · show ((cs.map EditCommand.receipt).map (·.inserted)).sum = _
    rw [List.map_map, ← members, ← inserts, List.length_flatMap]
    rfl
  · show _ = _ ++ (cs.map EditCommand.receipt).map (·.label)
    simp only [Repository.history, stack, List.map_append, List.map_reverse, List.reverse_append,
      List.reverse_reverse, List.map_map]
    rfl

/-- An attribute before its class, a class twice, and elements that are not there. -/
theorem generate_accounts_sample :
    let r := Repository.ofProject Sample.project {}
    let selection : List ElementRef :=
      [⟨.attribute, "car-plate"⟩, ⟨.entity, "gone"⟩, ⟨.entity, "car"⟩, ⟨.entity, "car"⟩,
        ⟨.attribute, "gone"⟩, ⟨.other, "note"⟩, ⟨.attribute, "gone"⟩]
    ∃ report h', generate ⟨.requireMandatory, .perMember⟩ selection
        { repository := r, supply := ⟨Nat.repr, 0, ""⟩ } = (.ok report, h') ∧
      [report.getters, report.skipped, report.duplicates, report.commands.length] = [3, 3, 3, 4] ∧
      r.Accounts selection .perMember report h'.repository := by
  intro r selection
  have counters : ((generate ⟨.requireMandatory, .perMember⟩ selection
        { repository := r, supply := ⟨Nat.repr, 0, ""⟩ }).1.toOption.map fun report =>
      [report.getters, report.skipped, report.duplicates, report.commands.length]) =
        some [3, 3, 3, 4] := by
    decide +kernel
  rcases run : generate ⟨.requireMandatory, .perMember⟩ selection
    { repository := r, supply := ⟨Nat.repr, 0, ""⟩ } with ⟨e | report, h'⟩
  · rw [run] at counters
    cases counters
  · rw [run] at counters
    exact ⟨report, h', rfl, Option.some.inj counters, generate_accounts run⟩

end Host

end Accessors
