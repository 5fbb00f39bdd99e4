import Accessors.Proofs.Reloading
import Mathlib.Data.List.TakeWhile

/-!
# Selecting by path

A path is turned into an identifier, the identifier into an element of the model, and the owner of
what is generated for it into the entity that gets it, each by the first match. `path_gives` says when
these agree, so that the members land in the entity that the path names. Nothing asks for distinct
identifiers when a model is loaded, and with repeated ones they can land in another (`path_misses`).
-/

namespace Accessors

/-! ### Paths -/

theorem splitAtDot_none {cs : List Char} (dotless : '.' ∉ cs) : splitAtDot cs = none := by
  have all : cs.dropWhile (· != '.') = [] :=
    List.dropWhile_eq_nil_iff.mpr fun c inside => bne_iff_ne.mpr fun same => dotless (same ▸ inside)
  rw [splitAtDot, all]

theorem splitAtDot_append {owner : List Char} (dotless : '.' ∉ owner) (member : List Char) :
    splitAtDot (owner ++ '.' :: member) = some (owner, member) := by
  have all : ∀ c ∈ owner, (c != '.') = true :=
    fun c inside => bne_iff_ne.mpr fun same => dotless (same ▸ inside)
  have front : (owner ++ '.' :: member).takeWhile (· != '.') = owner := by
    rw [List.takeWhile_append_of_pos all]
    simp
  have back : (owner ++ '.' :: member).dropWhile (· != '.') = '.' :: member := by
    rw [List.dropWhile_append_of_pos all]
    simp
  rw [splitAtDot, back, front]

theorem findIdx_le {α : Type} {q : α → Bool} {l : List α} {i : Nat} {x : α} (found : l[i]? = some x)
    (holds : q x = true) : l.findIdx q ≤ i := by
  obtain ⟨bound, rfl⟩ := List.getElem?_eq_some_iff.mp found
  by_contra later
  rw [List.not_of_lt_findIdx (Nat.lt_of_not_le later)] at holds
  cases holds

namespace Project

variable {p : Project} {e : Entity} {a : Attribute}

theorem resolvePath_entity (named : p.entityNamed? e.name = some e) (dotless : '.' ∉ e.name.toList) :
    p.resolvePath e.name = some ⟨.entity, e.id⟩ := by
  rw [resolvePath, splitAtDot_none dotless]
  simp [named]

theorem resolvePath_attribute (named : p.entityNamed? e.name = some e)
    (dotless : '.' ∉ e.name.toList) (member : e.attributeNamed? a.name = some a) :
    p.resolvePath (e.name ++ "." ++ a.name) = some ⟨.attribute, a.id⟩ := by
  have chars : (e.name ++ "." ++ a.name).toList = e.name.toList ++ '.' :: a.name.toList := by
    simp
  rw [resolvePath, chars, splitAtDot_append dotless]
  simp [named, member]

/-! ### The entity with a name -/

def updateNamed (p : Project) (name : String) (f : Entity → Entity) : Project :=
  { p with entities := updateFirst (·.name == name) f p.entities }

/-- Operations of one entity are appended where its name leads, if its identifier leads there, too. -/
theorem appendAll_updateNamed (named : p.entityNamed? e.name = some e)
    (first : p.entity? e.id = some e) {ops : List Operation} (own : ∀ op ∈ ops, op.ownerId = e.id) :
    p.appendAll ops = p.updateNamed e.name fun e => { e with operations := e.operations ++ ops } := by
  have byName : p.entities[p.entities.findIdx (·.name == e.name)]? = some e :=
    List.find?_eq_getElem?_findIdx.symm.trans named
  have byId : p.entities[p.place e.id]? = some e := (p.entity?_place e.id).symm.trans first
  have place : p.entities.findIdx (·.name == e.name) = p.place e.id :=
    Nat.le_antisymm (findIdx_le byId (beq_self_eq_true _)) (findIdx_le byName (beq_self_eq_true _))
  simp only [appendAll, updateNamed, Project.mk.injEq, true_and]
  apply List.ext_getElem?
  intro i
  rw [List.getElem?_mapIdx, getElem?_updateFirst, place]
  by_cases here : p.place e.id = i
  · have all : ops.filter (·.ownerId == e.id) = ops :=
      List.filter_eq_self.mpr fun op member => beq_iff_eq.mpr (own op member)
    subst here
    rw [byId, if_pos rfl, Option.map_some, Option.map_some, if_pos rfl, all]
  · rw [if_neg here]
    cases found : p.entities[i]? with
    | none => rfl
    | some other =>
      rw [Option.map_some]
      split
      · rename_i own_place
        have different : e.id ≠ other.id := fun same => here (same ▸ own_place)
        have none : ops.filter (·.ownerId == other.id) = [] :=
          List.filter_eq_nil_iff.mpr fun op member owner =>
            different ((own op member).symm.trans (beq_iff_eq.mp owner))
        rw [none, List.append_nil]
      · rfl

end Project

/-! ### Requests for a path -/

theorem Host.generateSelected_apply (options : Options) (h : Host) :
    generateSelected options h = generate options h.repository.selection h := by
  rw [generateSelected, Action.bind_of_ok (Action.get_apply h)]

namespace Repository

/-- If a path is resolved and the request for it succeeds, then the entity that `entityNamed?` finds
got the members, and nothing else changed. -/
def Gives (r : Repository) (path : String) (options : Options) (supply : Supply) (name : String)
    (members : List Operation.Draft) : Prop :=
  let request :=
    Host.generateSelected options { repository := (r.selectPaths [path]).2, supply }
  (r.selectPaths [path]).1 = [] → request.1.isOk →
    ∃ ops : List Operation, ops.map Operation.draft = members ∧
      request.2.repository.project =
        r.project.updateNamed name fun e => { e with operations := e.operations ++ ops }

theorem gives_of_resolved {p : Project} (policy : Policy) {e : Entity} {path : String}
    {element : ElementRef} {options : Options} (owned : p.Owned)
    (named : p.entityNamed? e.name = some e) (first : p.entity? e.id = some e)
    (resolved : p.resolvePath path = some element)
    (own : ∀ d ∈ p.expectedMembers options.constructorPolicy [element], d.ownerId = e.id)
    (supply : Supply) :
    (ofProject p policy).Gives path options supply e.name
      (p.expectedMembers options.constructorPolicy [element]) := by
  have same : (ofProject p policy).project = p := Project.normalize_eq owned
  have selected : ((ofProject p policy).selectPaths [path]).2.selection = [element] := by
    simp [selectPaths, select, same, resolved]
  intro _ succeeds
  rw [Host.generateSelected_apply, selected] at succeeds ⊢
  rcases run : Host.generate options [element]
      { repository := ((ofProject p policy).selectPaths [path]).2, supply } with ⟨_ | report, after⟩
  · rw [run] at succeeds
    cases succeeds
  · obtain ⟨ops, drafts, -, project⟩ :=
      Host.generate_members (.call (.selectPaths [path]) .start trivial) run
    have drafts : ops.map Operation.draft = p.expectedMembers options.constructorPolicy [element] :=
      same ▸ drafts
    have project : after.repository.project = (ofProject p policy).project.appendAll ops := project
    have owners : ∀ op ∈ ops, op.ownerId = e.id := by
      intro op member
      exact own op.draft (drafts ▸ List.mem_map_of_mem member)
    have grown := Project.appendAll_updateNamed named first owners
    rw [project, same]
    exact ⟨ops, drafts, grown⟩

/-- A path gives its members to the entity that it names, if the identifier of the entity leads to it
and those of the attributes lead to them. -/
theorem path_gives {text : String} {s t : Supply} {p : Project}
    (loaded : Project.ofText text s = .ok (p, t)) (policy : Policy) (options : Options)
    (supply : Supply) {e : Entity} (named : p.entityNamed? e.name = some e)
    (dotless : '.' ∉ e.name.toList) (first : p.entity? e.id = some e) :
    (∀ a, e.attributeNamed? a.name = some a → p.attribute? a.id = some (e, a) →
      (ofProject p policy).Gives (e.name ++ "." ++ a.name) options supply e.name
        (Visit.members options.constructorPolicy (.attribute e a))) ∧
    ((e.attributes.map (·.id)).Nodup →
      (ofProject p policy).Gives e.name options supply e.name
        (Visit.members options.constructorPolicy (.entity e) ++
          e.attributes.flatMap fun a => Visit.members options.constructorPolicy (.attribute e a))) := by
  obtain ⟨-, owned⟩ := Project.ofText_loaded loaded
  constructor
  · intro a member found
    have planned := Project.expectedMembers_attribute found options.constructorPolicy
    have resolved := Project.resolvePath_attribute named dotless member
    have owners : ∀ d ∈ p.expectedMembers options.constructorPolicy [⟨.attribute, a.id⟩],
        d.ownerId = e.id := by
      intro d inside
      rw [planned] at inside
      exact Visit.members_owner inside
    have gives := gives_of_resolved policy owned named first resolved owners supply
    rwa [planned] at gives
  · intro distinct
    have planned := Project.expectedMembers_entity first distinct options.constructorPolicy
    have resolved := Project.resolvePath_entity named dotless
    rw [← planned]
    exact gives_of_resolved policy owned named first resolved
      (fun d inside => Project.expectedMembers_entity_owner first inside) supply

/-- Both kinds of path to a class with a mandatory attribute and one that is optional. -/
theorem path_gives_sample :
    let text := "[\"s\",\"\",[[\"o\",\"Order\",[[\"a\",\"sum\",\"Int\"],[\"b\",\"to\",\"?Date\"]]]]]"
    let sum : Attribute := ⟨"a", "sum", .primitive "Int", "o"⟩
    let order : Entity := ⟨"o", "Order", [sum, ⟨"b", "to", .optional "Date", "o"⟩], [], none⟩
    let supply : Supply := ⟨Nat.repr, 0, ""⟩
    let r := ofProject ⟨"s", "", [order]⟩ {}
    let request (path : String) :=
      Host.generateSelected {} { repository := (r.selectPaths [path]).2, supply }
    (∃ t, Project.ofText text supply = .ok (⟨"s", "", [order]⟩, t)) ∧
      (request "Order.sum").1.isOk ∧ (request "Order").1.isOk ∧
      r.Gives "Order.sum" {} supply "Order" (Visit.members .requireMandatory (.attribute order sum)) ∧
      r.Gives "Order" {} supply "Order" (Visit.members .requireMandatory (.entity order) ++
        order.attributes.flatMap fun a => Visit.members .requireMandatory (.attribute order a)) := by
  intro text sum order supply r request
  obtain ⟨t, loaded⟩ : ∃ t, Project.ofText text supply = .ok (⟨"s", "", [order]⟩, t) :=
    exists_ok (by decide +kernel)
  have member : (request "Order.sum").1.isOk := by decide +kernel
  have all : (request "Order").1.isOk := by decide +kernel
  have gives := path_gives loaded {} {} supply (e := order) rfl (by decide) rfl
  obtain ⟨attributes, entities⟩ := gives
  exact ⟨⟨t, loaded⟩, member, all, attributes sum rfl rfl, entities (by decide)⟩

/-! ### Repeated identifiers -/

/-- Order and Invoice share the identifier of an attribute, Order and Offer their own, and the two
attributes of Draft theirs. -/
def sharing : Project :=
  ⟨"s", "Shop",
    [⟨"o", "Order", [⟨"a", "sum", .primitive "Int", "o"⟩], [], none⟩,
      ⟨"i", "Invoice", [⟨"a", "total", .primitive "Int", "i"⟩], [], none⟩,
      ⟨"o", "Offer", [⟨"b", "until", .primitive "Int", "o"⟩], [], none⟩,
      ⟨"d", "Draft", [⟨"c", "from", .primitive "Int", "d"⟩, ⟨"c", "to", .primitive "Int", "d"⟩], [], none⟩]⟩

theorem sharing_loaded (s : Supply) : Project.ofText sharing.toText s = .ok (sharing, s) := by
  have sound : sharing.Sound := by
    have named : (TypeDescriptor.primitive "Int").Sound := ⟨'I', ['n', 't'], rfl, by decide⟩
    simp only [Project.Sound, sharing, List.forall_mem_cons]
    refine ⟨⟨?_, ?_⟩, ⟨?_, ?_⟩, ⟨?_, ?_⟩, ⟨?_, ?_⟩, List.forall_mem_nil _⟩
    all_goals simp [named]
  have owned : sharing.Owned := by
    unfold Project.Owned
    decide
  rw [Project.ofText_toText sound owned]
  rfl

theorem not_gives {r : Repository} {path name : String} {options : Options} {supply : Supply}
    {members : List Operation.Draft} (names : List (List String))
    (resolved : (r.selectPaths [path]).1 = [])
    (request : (Host.generateSelected options
      { repository := (r.selectPaths [path]).2, supply }).1.isOk ∧
      (Host.generateSelected options
        { repository := (r.selectPaths [path]).2, supply }).2.repository.project.entities.map
          Entity.operationNames = names)
    (other : ∀ ops : List Operation, ops.map (·.name) = members.map (·.name) →
      (r.project.updateNamed name fun e =>
        { e with operations := e.operations ++ ops }).entities.map Entity.operationNames ≠ names) :
    ¬r.Gives path options supply name members := by
  intro gives
  obtain ⟨succeeds, gets⟩ := request
  obtain ⟨ops, drafts, project⟩ := gives resolved succeeds
  have same : ops.map (·.name) = members.map (·.name) := by
    rw [← drafts, List.map_map]
    rfl
  rw [project] at gets
  exact other ops same gets

/-- With repeated identifiers another entity gets the members, or an attribute gets none. -/
theorem path_misses :
    let supply : Supply := ⟨Nat.repr, 0, ""⟩
    let r := ofProject sharing {}
    Project.ofText sharing.toText supply = .ok (sharing, supply) ∧
    (∃ e a, sharing.entityNamed? "Invoice" = some e ∧ e.attributeNamed? "total" = some a ∧
      ¬r.Gives "Invoice.total" {} supply "Invoice"
        (Visit.members .requireMandatory (.attribute e a))) ∧
    (∃ e a, sharing.entityNamed? "Offer" = some e ∧ e.attributeNamed? "until" = some a ∧
      ¬r.Gives "Offer.until" {} supply "Offer"
        (Visit.members .requireMandatory (.attribute e a)) ∧
      ¬r.Gives "Offer" {} supply "Offer" (Visit.members .requireMandatory (.entity e) ++
        e.attributes.flatMap fun a => Visit.members .requireMandatory (.attribute e a))) ∧
    ∃ e, sharing.entityNamed? "Draft" = some e ∧
      ¬r.Gives "Draft" {} supply "Draft" (Visit.members .requireMandatory (.entity e) ++
        e.attributes.flatMap fun a => Visit.members .requireMandatory (.attribute e a)) := by
  intro supply r
  refine ⟨sharing_loaded supply, ⟨_, _, rfl, rfl, ?_⟩, ⟨_, _, rfl, rfl, ?_, ?_⟩, _, rfl, ?_⟩
  -- the getter and the setter of the first attribute with the identifier, where that one is
  · exact not_gives [["getSum", "setSum"], [], [], []] (by decide +kernel)
      (by decide +kernel) fun ops _ same => by cases same
  -- those of the attribute, in the first entity with the identifier
  · exact not_gives [["getUntil", "setUntil"], [], [], []] (by decide +kernel)
      (by decide +kernel) fun ops _ same => by cases same
  · exact not_gives [["__construct", "getSum", "setSum"], [], [], []] (by decide +kernel)
      (by decide +kernel) fun ops _ same => by cases same
  -- those of one of the two attributes
  · refine not_gives [[], [], [], ["__construct", "getFrom", "setFrom"]] (by decide +kernel)
      (by decide +kernel) fun ops names same => ?_
    have short : ops.map (·.name) = ["__construct", "getFrom", "setFrom"] := by
      have last := congrArg List.getLast? same
      exact Option.some.inj last
    rw [short] at names
    exact absurd (congrArg List.length names) (by decide)

end Repository

end Accessors
