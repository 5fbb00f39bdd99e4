import Accessors.Plan
import Accessors.Proofs.Insertion
import Mathlib.Data.List.Induction
import Mathlib.Data.List.Lattice
import Mathlib.Data.List.Nodup
import Mathlib.Data.List.Pairwise

/-!
# Visits

What a selection leads to, element by element and with all repetitions: a selected entity leads to
itself and then to its attributes, a selected attribute to itself, anything else nowhere. A request
generates for the first visit of each entity and of each attribute (`plan_batches`); the identifiers
that planning has met are compared with the visits so far in `Plan.Follows`.
-/

namespace Accessors

/-! ### First occurrences -/

theorem mem_of_mem_eraseDupsBy {α : Type} {r : α → α → Bool} {a : α} :
    (l : List α) → a ∈ l.eraseDupsBy r → a ∈ l
  | [], h => h
  | b :: l, h => by
    rw [List.eraseDupsBy_cons] at h
    rcases List.mem_cons.mp h with rfl | later
    · exact List.mem_cons_self
    · have kept := mem_of_mem_eraseDupsBy (l.filter fun c => r c b = false) later
      exact List.mem_cons_of_mem _ (List.mem_filter.mp kept).1
termination_by l => l.length
decreasing_by exact Nat.lt_succ_of_le (List.length_filter_le _ l)

theorem eraseDupsBy_concat {α κ : Type} [DecidableEq κ] (key : α → κ) (l : List α) (a : α) :
    (l ++ [a]).eraseDupsBy (key · == key ·) =
      if key a ∈ l.map key then l.eraseDupsBy (key · == key ·)
      else l.eraseDupsBy (key · == key ·) ++ [a] := by
  -- The list shrinks by a filter, so the induction is on its length.
  induction length : l.length using Nat.strongRecOn generalizing l with
  | ind n ih =>
    cases l with
    | nil => simp [List.eraseDupsBy_cons]
    | cons b l =>
      subst length
      rw [List.cons_append, List.eraseDupsBy_cons, List.eraseDupsBy_cons, List.filter_append]
      by_cases same : key a = key b
      · simp [same]
      · have shorter : (l.filter fun c => (key c == key b) = false).length < (b :: l).length :=
          Nat.lt_succ_of_le (List.length_filter_le _ l)
        have rest := ih _ shorter (l.filter fun c => (key c == key b) = false) rfl
        have member : key a ∈ (l.filter fun c => (key c == key b) = false).map key ↔
            key a ∈ (b :: l).map key := by
          simp only [List.mem_map, List.mem_filter, List.mem_cons]
          constructor
          · rintro ⟨c, ⟨hc, -⟩, hk⟩
            exact ⟨c, Or.inr hc, hk⟩
          · rintro ⟨c, rfl | hc, hk⟩
            · exact absurd hk.symm same
            · exact ⟨c, ⟨hc, by simp [hk, same]⟩, hk⟩
        simp only [member] at rest
        rw [List.filter_cons_of_pos (by simp [same]), List.filter_nil, rest]
        split <;> rfl

/-! ### The visits of a selection -/

inductive Visit where
  | entity (e : Entity)
  | attribute (owner : Entity) (a : Attribute)

namespace Visit

def ref : Visit → ElementRef
  | .entity e => ⟨.entity, e.id⟩
  | .attribute _ a => ⟨.attribute, a.id⟩

def batches (policy : ConstructorPolicy) : Visit → List (Batch Operation.Draft)
  | .entity e =>
    if policy.inserts (!e.constructor.parameters.isEmpty) then [.ofEntity e] else []
  | .attribute _ a => [.ofAttribute a]

end Visit

/-- The first visit of each entity and of each attribute. -/
def firstVisits (visits : List Visit) : List Visit := visits.eraseDupsBy (·.ref == ·.ref)

namespace Project

def visitsOf (p : Project) (element : ElementRef) : List Visit :=
  match element.kind with
  | .entity =>
    match p.entity? element.id with
    | none => []
    | some e => .entity e :: e.attributes.map (.attribute e)
  | .attribute =>
    match p.attribute? element.id with
    | none => []
    | some (e, a) => [.attribute e a]
  | .other => []

def visits (p : Project) (selection : List ElementRef) : List Visit := selection.flatMap p.visitsOf

theorem attribute?_some {p : Project} {id : Id} {e : Entity} {a : Attribute}
    (h : p.attribute? id = some (e, a)) : e ∈ p.entities ∧ a ∈ e.attributes ∧ a.id = id := by
  obtain ⟨e', member, found⟩ := List.exists_of_findSome?_eq_some h
  obtain ⟨a', inside, same⟩ := Option.map_eq_some_iff.mp found
  cases same
  exact ⟨member, List.mem_of_find?_eq_some inside, by simpa using List.find?_some inside⟩

theorem attribute?_isSome {p : Project} {e : Entity} {a : Attribute} (member : e ∈ p.entities)
    (inside : a ∈ e.attributes) : ∃ e' a', p.attribute? a.id = some (e', a') := by
  cases found : p.attribute? a.id with
  | some pair => exact ⟨pair.1, pair.2, rfl⟩
  | none =>
    have absent := List.findSome?_eq_none_iff.mp found e member
    rw [Option.map_eq_none_iff] at absent
    simpa using List.find?_eq_none.mp absent a inside

/-- Where attributes have identifiers of their own, one leads to one attribute of one entity. -/
theorem attribute_unique {p : Project}
    (unique : (p.entities.flatMap fun e => e.attributes.map (·.id)).Nodup) {e e' : Entity}
    {a a' : Attribute} (he : e ∈ p.entities) (he' : e' ∈ p.entities) (ha : a ∈ e.attributes)
    (ha' : a' ∈ e'.attributes) (same : a.id = a'.id) : e = e' ∧ a = a' := by
  obtain ⟨within, apart⟩ := List.nodup_flatMap.mp unique
  have owner : e = e' := by
    by_contra other
    have symmetric : Std.Symm (Function.onFun List.Disjoint fun e : Entity => e.attributes.map (·.id)) :=
      ⟨fun _ _ disjoint => List.Disjoint.symm disjoint⟩
    have disjoint := apart.forall he he' other
    exact disjoint (List.mem_map_of_mem ha) (same ▸ List.mem_map_of_mem ha')
  subst owner
  exact ⟨rfl, List.inj_on_of_nodup_map (within e he) ha ha' same⟩

theorem visitsOf_cases {p : Project} {element : ElementRef} {v : Visit}
    (h : v ∈ p.visitsOf element) :
    (element.kind = .entity ∧ ∃ e, p.entity? element.id = some e ∧
      (v = .entity e ∨ ∃ a ∈ e.attributes, v = .attribute e a)) ∨
    element.kind = .attribute ∧ ∃ e a, p.attribute? element.id = some (e, a) ∧ v = .attribute e a := by
  obtain ⟨kind, id⟩ := element
  cases kind with
  | entity =>
    simp only [visitsOf] at h
    split at h
    · cases h
    · rename_i e found
      refine Or.inl ⟨rfl, e, found, ?_⟩
      rcases List.mem_cons.mp h with same | inside
      · exact Or.inl same
      · obtain ⟨a, member, same⟩ := List.mem_map.mp inside
        exact Or.inr ⟨a, member, same.symm⟩
  | «attribute» =>
    simp only [visitsOf] at h
    split at h
    · cases h
    · rename_i e a found
      exact Or.inr ⟨rfl, e, a, found, List.mem_singleton.mp h⟩
  | other => cases h

theorem visits_entity {p : Project} {selection : List ElementRef} {id : Id}
    (h : ⟨.entity, id⟩ ∈ (p.visits selection).map Visit.ref) : ⟨.entity, id⟩ ∈ selection := by
  obtain ⟨v, visited, same⟩ := List.mem_map.mp h
  obtain ⟨⟨kind, target⟩, selected, leads⟩ := List.mem_flatMap.mp visited
  obtain ⟨rfl, e, found, rfl | ⟨a, _, rfl⟩⟩ | ⟨_, e, a, _, rfl⟩ := visitsOf_cases leads
  · have target_id : e.id = target := entity?_id found
    cases same
    rwa [target_id]
  · cases same
  · cases same

/-- Only entities of the model and their attributes are visited. -/
theorem visits_cases {p : Project} {selection : List ElementRef} {v : Visit}
    (h : v ∈ p.visits selection) :
    ∃ e ∈ p.entities, v = .entity e ∨ ∃ a ∈ e.attributes, v = .attribute e a := by
  obtain ⟨element, -, leads⟩ := List.mem_flatMap.mp h
  obtain ⟨_, e, found, which⟩ | ⟨_, e, a, found, same⟩ := visitsOf_cases leads
  · exact ⟨e, entity?_mem found, which⟩
  · obtain ⟨member, inside, _⟩ := attribute?_some found
    exact ⟨e, member, Or.inr ⟨a, inside, same⟩⟩

theorem visits_attribute {p : Project} {selection : List ElementRef} {id : Id} {e : Entity}
    {a : Attribute} (found : p.attribute? id = some (e, a)) (selected : ⟨.attribute, id⟩ ∈ selection) :
    ⟨.attribute, id⟩ ∈ (p.visits selection).map Visit.ref := by
  have same := (attribute?_some found).2.2
  refine List.mem_map.mpr ⟨.attribute e a, List.mem_flatMap.mpr ⟨_, selected, ?_⟩, ?_⟩
  · simp [visitsOf, found]
  · simp [Visit.ref, same]

theorem visits_of_selected {p : Project} {selection : List ElementRef} {element : ElementRef}
    (selected : element ∈ selection) {v : Visit} (h : v ∈ p.visitsOf element) :
    v.ref ∈ (p.visits selection).map Visit.ref :=
  List.mem_map_of_mem (List.mem_flatMap.mpr ⟨element, selected, h⟩)

end Project

/-! ### Plans -/

theorem firstVisits_concat (visits : List Visit) (v : Visit) :
    firstVisits (visits ++ [v]) =
      if v.ref ∈ visits.map Visit.ref then firstVisits visits else firstVisits visits ++ [v] :=
  eraseDupsBy_concat Visit.ref visits v

/-- Visits that are all repetitions change nothing. -/
theorem firstVisits_repeated {visits more : List Visit}
    (h : ∀ v ∈ more, v.ref ∈ visits.map Visit.ref) :
    firstVisits (visits ++ more) = firstVisits visits := by
  induction more generalizing visits with
  | nil => rw [List.append_nil]
  | cons v more ih =>
    have known := h v List.mem_cons_self
    have later : ∀ w ∈ more, w.ref ∈ (visits ++ [v]).map Visit.ref := by
      intro w hw
      rw [List.map_append]
      exact List.mem_append_left _ (h w (List.mem_cons_of_mem _ hw))
    have rest := ih later
    rw [List.append_cons, rest, firstVisits_concat, if_pos known]

theorem firstVisits_distinct {visits : List Visit} (distinct : (visits.map Visit.ref).Nodup) :
    firstVisits visits = visits := by
  induction visits using List.reverseRecOn with
  | nil => rfl
  | append_singleton visits v ih =>
    rw [List.map_append, List.map_singleton, ← List.concat_eq_append, List.nodup_concat] at distinct
    rw [firstVisits_concat, if_neg distinct.1, ih distinct.2]

/-- Each identifier that was visited has one first visit. -/
theorem firstVisits_refs (visits : List Visit) :
    ((firstVisits visits).map Visit.ref).Nodup ∧
      ∀ r, r ∈ (firstVisits visits).map Visit.ref ↔ r ∈ visits.map Visit.ref := by
  induction visits using List.reverseRecOn with
  | nil => exact ⟨List.nodup_nil, fun r => Iff.rfl⟩
  | append_singleton visits v ih =>
    obtain ⟨distinct, same⟩ := ih
    rw [firstVisits_concat]
    split
    · rename_i known
      refine ⟨distinct, fun r => ?_⟩
      rw [same, List.map_append, List.mem_append, List.map_singleton, List.mem_singleton]
      exact ⟨Or.inl, fun either => either.elim id fun again => again ▸ known⟩
    · rename_i new
      simp only [List.map_append, List.map_singleton, List.mem_append, List.mem_singleton, same,
        implies_true, and_true]
      rw [← List.concat_eq_append, List.nodup_concat, same]
      exact ⟨new, distinct⟩

theorem mem_refs_concat {visits : List Visit} {v : Visit} {r : ElementRef} :
    r ∈ (visits ++ [v]).map Visit.ref ↔ r ∈ visits.map Visit.ref ∨ r = v.ref := by
  rw [List.map_append, List.mem_append, List.map_singleton, List.mem_singleton]

namespace Plan

/-- The plan after the elements `refs`, which led to `visits`. -/
structure Follows (policy : ConstructorPolicy) (refs : List ElementRef) (visits : List Visit)
    (p : Plan) : Prop where
  batches : p.batches = (firstVisits visits).flatMap (Visit.batches policy)
  entities : ∀ id, id ∈ p.entities ↔ ⟨.entity, id⟩ ∈ refs
  attributes : ∀ id, id ∈ p.attributes ↔
    ⟨.attribute, id⟩ ∈ refs ∨ ⟨.attribute, id⟩ ∈ visits.map Visit.ref

variable {policy : ConstructorPolicy} {reader : Project} {refs : List ElementRef}
  {visits : List Visit} {p : Plan}

theorem follows_batches (h : Follows policy refs visits p) (v : Visit) {q : Plan}
    (batches : q.batches =
      if v.ref ∈ visits.map Visit.ref then p.batches else p.batches ++ v.batches policy) :
    q.batches = (firstVisits (visits ++ [v])).flatMap (Visit.batches policy) := by
  rw [batches, firstVisits_concat]
  split
  · exact h.batches
  · rw [List.flatMap_append, h.batches, List.flatMap_singleton]

/-- An attribute of a selected entity. What was selected of the model was visited, so that the
attribute is new to the plan where it is new to the visits. -/
theorem addAttribute_follows (h : Follows policy refs visits p) (e : Entity) {a : Attribute}
    (visited : ⟨.attribute, a.id⟩ ∈ refs → ⟨.attribute, a.id⟩ ∈ visits.map Visit.ref) :
    Follows policy refs (visits ++ [.attribute e a]) (p.addAttribute a) := by
  have met : a.id ∈ p.attributes ↔ (Visit.attribute e a).ref ∈ visits.map Visit.ref := by
    rw [h.attributes]
    exact ⟨fun either => either.elim visited id, Or.inr⟩
  by_cases known : a.id ∈ p.attributes
  · have run : p.addAttribute a = p.repeated := by simp [addAttribute, known]
    rw [run]
    refine ⟨follows_batches h _ ?_, h.entities, ?_⟩
    · rw [if_pos (met.mp known)]
      rfl
    · intro id
      rw [mem_refs_concat, ← or_assoc, ← h.attributes]
      constructor
      · exact Or.inl
      · rintro (met | same)
        · exact met
        · cases same
          exact known
  · have run : p.addAttribute a = (p.meetAttribute a.id).push (.ofAttribute a) := by
      simp [addAttribute, known]
    rw [run]
    refine ⟨follows_batches h _ ?_, h.entities, ?_⟩
    · rw [if_neg fun visited => known (met.mpr visited)]
      rfl
    · intro id
      rw [mem_refs_concat, ← or_assoc, ← h.attributes]
      show id ∈ a.id :: p.attributes ↔ _
      rw [List.mem_cons, or_comm]
      simp [Visit.ref]

theorem addAttributes_follows (h : Follows policy refs visits p) (e : Entity) {as : List Attribute}
    (visited : ∀ a ∈ as, ⟨.attribute, a.id⟩ ∈ refs → ⟨.attribute, a.id⟩ ∈ visits.map Visit.ref) :
    Follows policy refs (visits ++ as.map (Visit.attribute e)) (as.foldl addAttribute p) := by
  induction as generalizing visits p with
  | nil => simpa using h
  | cons a as ih =>
    have first := addAttribute_follows h e (visited a List.mem_cons_self)
    have rest := ih first fun b member chosen => by
      rw [List.map_append]
      exact List.mem_append_left _ (visited b (List.mem_cons_of_mem _ member) chosen)
    rw [List.append_assoc] at rest
    exact rest

theorem repeated_follows (h : Follows policy refs visits p) {more : List Visit}
    (known : ∀ v ∈ more, v.ref ∈ visits.map Visit.ref) :
    Follows policy refs (visits ++ more) p := by
  refine ⟨by rw [firstVisits_repeated known, h.batches], h.entities, ?_⟩
  intro id
  rw [h.attributes, List.map_append, List.mem_append]
  constructor
  · rintro (chosen | reached)
    · exact Or.inl chosen
    · exact Or.inr (Or.inl reached)
  · rintro (chosen | reached | again)
    · exact Or.inl chosen
    · exact Or.inr reached
    · obtain ⟨v, member, same⟩ := List.mem_map.mp again
      exact Or.inr (same ▸ known v member)

theorem addConstructor_follows (h : Follows policy refs visits p) {e : Entity}
    (new : ⟨.entity, e.id⟩ ∉ visits.map Visit.ref) :
    Follows policy refs (visits ++ [.entity e]) (p.addConstructor policy e) := by
  have added : (p.addConstructor policy e).batches = p.batches ++ Visit.batches policy (.entity e) := by
    simp only [addConstructor, Visit.batches]
    split
    · rfl
    · rw [List.append_nil]
  have entities : (p.addConstructor policy e).entities = p.entities := by
    unfold addConstructor
    split <;> rfl
  have attributes : (p.addConstructor policy e).attributes = p.attributes := by
    unfold addConstructor
    split <;> rfl
  refine ⟨follows_batches h _ ?_, ?_, ?_⟩
  · exact added.trans (if_neg new).symm
  · rw [entities]
    exact h.entities
  · intro id
    rw [attributes, h.attributes, mem_refs_concat]
    simp [Visit.ref]

theorem meetEntity_follows (h : Follows policy refs visits p) (id : Id) :
    Follows policy (refs ++ [⟨.entity, id⟩]) visits (p.meetEntity id) := by
  refine ⟨h.batches, fun other => ?_, fun other => ?_⟩
  · show other ∈ id :: p.entities ↔ _
    rw [List.mem_cons, h.entities]
    simp [or_comm]
  · show other ∈ p.attributes ↔ _
    rw [h.attributes]
    simp

theorem meetAttribute_follows (h : Follows policy refs visits p) (id : Id) :
    Follows policy (refs ++ [⟨.attribute, id⟩]) visits (p.meetAttribute id) := by
  refine ⟨h.batches, fun other => ?_, fun other => ?_⟩
  · show other ∈ p.entities ↔ _
    rw [h.entities]
    simp
  · show other ∈ id :: p.attributes ↔ _
    rw [List.mem_cons, h.attributes]
    simp [or_assoc, or_comm]

theorem met_follows (h : Follows policy refs visits p) (element : ElementRef)
    (metEntity : element.kind = .entity → element.id ∈ p.entities)
    (metAttribute : element.kind = .attribute → element.id ∈ p.attributes) :
    Follows policy (refs ++ [element]) visits p := by
  obtain ⟨kind, id⟩ := element
  refine ⟨h.batches, fun other => ?_, fun other => ?_⟩
  · rw [List.mem_append, ← h.entities, List.mem_singleton]
    constructor
    · exact Or.inl
    · rintro (met | same)
      · exact met
      · cases same
        exact metEntity rfl
  · rw [List.mem_append, or_right_comm, ← h.attributes, List.mem_singleton]
    constructor
    · exact Or.inl
    · rintro (met | same)
      · exact met
      · cases same
        exact metAttribute rfl

theorem visits_concat (reader : Project) (refs : List ElementRef) (element : ElementRef) :
    reader.visits (refs ++ [element]) = reader.visits refs ++ reader.visitsOf element := by
  rw [Project.visits, List.flatMap_append, List.flatMap_singleton, Project.visits]

theorem entity_follows (h : Follows policy refs (reader.visits refs) p) (id : Id) :
    Follows policy (refs ++ [⟨.entity, id⟩]) (reader.visits (refs ++ [⟨.entity, id⟩]))
      (p.step reader policy ⟨.entity, id⟩) := by
  rw [visits_concat]
  by_cases known : id ∈ p.entities
  · have run : p.step reader policy ⟨.entity, id⟩ = p.repeated := by simp [step, known]
    have selected := (h.entities id).mp known
    have met := met_follows h ⟨.entity, id⟩ (fun _ => known) nofun
    have again := repeated_follows met fun _ => Project.visits_of_selected selected
    rw [run]
    exact ⟨again.batches, again.entities, again.attributes⟩
  · have met := meetEntity_follows h id
    cases found : reader.entity? id with
    | none =>
      have run : p.step reader policy ⟨.entity, id⟩ = (p.meetEntity id).skip := by
        simp [step, known, found]
      rw [run, Project.visitsOf]
      simp only [found, List.append_nil]
      exact ⟨met.batches, met.entities, met.attributes⟩
    | some e =>
      have run : p.step reader policy ⟨.entity, id⟩ =
          e.attributes.foldl addAttribute ((p.meetEntity id).addConstructor policy e) := by
        simp [step, known, found]
      have new : ⟨.entity, e.id⟩ ∉ (reader.visits refs).map Visit.ref := by
        rw [Project.entity?_id found]
        exact fun visited => known ((h.entities id).mpr (Project.visits_entity visited))
      have constructed := addConstructor_follows met new
      have visited : ∀ a ∈ e.attributes, ⟨.attribute, a.id⟩ ∈ refs ++ [ElementRef.mk .entity id] →
          ⟨.attribute, a.id⟩ ∈ (reader.visits refs ++ [Visit.entity e]).map Visit.ref := by
        intro a inside chosen
        obtain ⟨e', a', there⟩ := Project.attribute?_isSome (Project.entity?_mem found) inside
        have selected : ⟨.attribute, a.id⟩ ∈ refs := by simpa using chosen
        exact mem_refs_concat.mpr (Or.inl (Project.visits_attribute there selected))
      have all := addAttributes_follows constructed e visited
      rw [run, Project.visitsOf]
      simp only [found]
      rw [List.append_assoc] at all
      exact all

theorem attribute_follows (h : Follows policy refs (reader.visits refs) p) (id : Id) :
    Follows policy (refs ++ [⟨.attribute, id⟩]) (reader.visits (refs ++ [⟨.attribute, id⟩]))
      (p.step reader policy ⟨.attribute, id⟩) := by
  rw [visits_concat, Project.visitsOf]
  by_cases known : id ∈ p.attributes
  · have run : p.step reader policy ⟨.attribute, id⟩ = p.repeated := by simp [step, known]
    have again := met_follows h ⟨.attribute, id⟩ nofun fun _ => known
    rw [run]
    cases found : reader.attribute? id with
    | none =>
      rw [List.append_nil]
      exact ⟨again.batches, again.entities, again.attributes⟩
    | some pair =>
      obtain ⟨e, a⟩ := pair
      have visited : ⟨.attribute, id⟩ ∈ (reader.visits refs).map Visit.ref :=
        ((h.attributes id).mp known).elim (Project.visits_attribute found) fun reached => reached
      have repeats : ∀ v ∈ [Visit.attribute e a], v.ref ∈ (reader.visits refs).map Visit.ref := by
        intro v member
        obtain rfl := List.mem_singleton.mp member
        rw [Visit.ref, (Project.attribute?_some found).2.2]
        exact visited
      have both := repeated_follows again repeats
      exact ⟨both.batches, both.entities, both.attributes⟩
  · have met := meetAttribute_follows h id
    cases found : reader.attribute? id with
    | none =>
      have run : p.step reader policy ⟨.attribute, id⟩ = (p.meetAttribute id).skip := by
        simp [step, known, found]
      rw [run, List.append_nil]
      exact ⟨met.batches, met.entities, met.attributes⟩
    | some pair =>
      obtain ⟨e, a⟩ := pair
      have same := (Project.attribute?_some found).2.2
      have run : p.step reader policy ⟨.attribute, id⟩ = (p.meetAttribute id).push (.ofAttribute a) := by
        simp [step, known, found]
      have new : (Visit.attribute e a).ref ∉ (reader.visits refs).map Visit.ref := by
        rw [Visit.ref, same]
        exact fun visited => known ((h.attributes id).mpr (Or.inr visited))
      rw [run]
      refine ⟨follows_batches met _ (if_neg new).symm, met.entities, fun other => ?_⟩
      show other ∈ (p.meetAttribute id).attributes ↔ _
      rw [met.attributes, mem_refs_concat, Visit.ref, same]
      simp [or_assoc, or_comm, or_left_comm]

theorem step_follows (h : Follows policy refs (reader.visits refs) p) (element : ElementRef) :
    Follows policy (refs ++ [element]) (reader.visits (refs ++ [element]))
      (p.step reader policy element) := by
  obtain ⟨kind, id⟩ := element
  cases kind with
  | entity => exact entity_follows h id
  | «attribute» => exact attribute_follows h id
  | other =>
    have met := met_follows h ⟨.other, id⟩ nofun nofun
    rw [visits_concat, Project.visitsOf, List.append_nil]
    exact ⟨met.batches, met.entities, met.attributes⟩

theorem run_follows (reader : Project) (policy : ConstructorPolicy) (selection : List ElementRef) :
    Follows policy selection (reader.visits selection) (ofSelection reader policy selection) := by
  have run : ∀ (refs more : List ElementRef) (p : Plan), Follows policy refs (reader.visits refs) p →
      Follows policy (refs ++ more) (reader.visits (refs ++ more)) (more.foldl (step reader policy) p) := by
    intro refs more
    induction more generalizing refs with
    | nil => simp
    | cons element more ih =>
      intro p h
      rw [List.append_cons]
      exact ih _ _ (step_follows h element)
  exact run [] selection {} ⟨rfl, by simp, by simp [Project.visits]⟩

end Plan

/-- A request generates for the first visit of each entity and of each attribute. -/
theorem plan_batches (reader : Project) (policy : ConstructorPolicy) (selection : List ElementRef) :
    (Plan.ofSelection reader policy selection).batches =
      (firstVisits (reader.visits selection)).flatMap (Visit.batches policy) :=
  (Plan.run_follows reader policy selection).batches

end Accessors
