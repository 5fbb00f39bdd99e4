import Accessors.Proofs.Json.Reading

/-!
# Decoding what was written, and what decoding gives

`Decoder.Reads` says that a decoder gives a value for its written form, and draws no identifier for
it. `Decoder.Gives` says what holds of a decoded value, whatever the text. For records both are put
together from their fields (`Schema.Written`, `Schema.Gives`).
-/

namespace Accessors.Json

variable {α β σ : Type}

/-! ### Written values -/

namespace Decoder

/-- The decoder gives `a` for the written `v`, which has no numbers. -/
structure Reads (d : Decoder α) (depth : Nat) (v : Json) (a : α) : Prop where
  numberless : v.Numberless
  run : d depth (.ofJson v) = pure a

theorem string_reads (depth : Nat) (s : String) : string.Reads depth (.str s) s := ⟨.str s, rfl⟩

theorem optional_reads (depth : Nat) (s : String) : (optional string).Reads depth (.str s) (some s) :=
  ⟨.str s, rfl⟩

theorem map_reads {d : Decoder α} {depth : Nat} {v : Json} {a : α} (f : α → β) (h : d.Reads depth v a) :
    (map f d).Reads depth v (f a) := by
  refine ⟨h.numberless, ?_⟩
  rw [map, h.run, map_pure]

theorem choice_reads {variants : List (String × α)} {name : String} {a : α}
    (found : variants.lookup name = some a) (depth : Nat) :
    (choice variants).Reads depth (.str name) a := by
  refine ⟨.str name, ?_⟩
  rw [Reading.ofJson, choice, Decode.ofFlaw, pure_bind, variant, found]

theorem items_read {d : Decoder α} {depth : Nat} {f : α → Json} {as : List α}
    (h : ∀ a ∈ as, d.Reads depth (f a) a) : d.items depth (Reading.ofItems (as.map f)) = pure as := by
  induction as with
  | nil => rfl
  | cons a as ih =>
    obtain ⟨first, others⟩ := List.forall_mem_cons.mp h
    rw [List.map_cons, Reading.ofItems, items, first.run, pure_bind, ih others, pure_bind]

theorem list_reads {d : Decoder α} {depth : Nat} {f : α → Json} {as : List α}
    (h : ∀ a ∈ as, d.Reads (depth + 1) (f a) a) : (list d).Reads depth (.arr (as.map f)) as := by
  refine ⟨.arr (List.forall_mem_map.mpr fun a member => (h a member).numberless), ?_⟩
  rw [Reading.ofJson, list, items_read h, pure_bind]
  rfl

end Decoder

namespace Schema

variable {depth : Nat}

def names {σ β : Type} : Schema σ β → List String
  | .done => []
  | .field name _ _ rest => name :: rest.names

/-- The members of an object give the fields, in order; a field whose default it has may be left
out. -/
inductive Written (depth : Nat) : {σ β : Type} → Schema σ β → List (String × Json) → β → Prop where
  | done : Written depth .done [] ()
  | field {α σ β : Type} {name : String} {read : Decoder α} {absent : Absent α} {rest : Schema σ β}
      {v : Json} {a : α} {members : List (String × Json)} {b : β} :
      read.Reads depth v a → Written depth rest members b →
      Written depth (.field name read absent rest) ((name, v) :: members) (a, b)
  | omitted {α σ β : Type} {name : String} {read : Decoder α} {rest : Schema σ β} {a : α}
      {members : List (String × Json)} {b : β} :
      Written depth rest members b →
      Written depth (.field name read (.default (pure a)) rest) members (a, b)

theorem Written.keys {schema : Schema σ β} {members : List (String × Json)} {b : β}
    (h : schema.Written depth members b) : ∀ m ∈ members, m.1 ∈ schema.names := by
  induction h with
  | done => nofun
  | field _ _ ih =>
    refine List.forall_mem_cons.mpr ⟨List.mem_cons_self, fun m member => ?_⟩
    exact List.mem_cons_of_mem _ (ih m member)
  | omitted _ ih => exact fun m member => List.mem_cons_of_mem _ (ih m member)

theorem Written.numberless {schema : Schema σ β} {members : List (String × Json)} {b : β}
    (h : schema.Written depth members b) : ∀ m ∈ members, m.2.Numberless := by
  induction h with
  | done => nofun
  | field first _ ih => exact List.forall_mem_cons.mpr ⟨first.numberless, ih⟩
  | omitted _ ih => exact ih

theorem putAll_later {name : String} {read : Decoder α} {absent : Absent α} {rest : Schema σ β}
    {members : List (String × Json)} (other : ∀ m ∈ members, m.1 ≠ name) (slot : Option α) (slots : σ) :
    (Schema.field name read absent rest).putAll depth (Reading.ofMembers members) (slot, slots) =
      (slot, ·) <$> rest.putAll depth (Reading.ofMembers members) slots := by
  induction members generalizing slots with
  | nil =>
    rw [Reading.ofMembers, putAll, putAll, map_pure]
  | cons m members ih =>
    obtain ⟨key, v⟩ := m
    obtain ⟨different, others⟩ := List.forall_mem_cons.mp other
    simp only [Reading.ofMembers, putAll, Decode.ofFlaw, pure_bind, put?, if_neg different]
    cases rest.put? depth key (.ofJson v) slots with
    | none => simp only [Option.map_none, ih others, map_bind]
    | some run =>
      simp only [Option.map_some, map_bind, bind_assoc, pure_bind]
      exact bind_congr fun slots => ih others slots

theorem Written.complete {schema : Schema σ β} {members : List (String × Json)} {b : β}
    (h : schema.Written depth members b) (distinct : schema.names.Nodup) :
    ∃ slots, schema.putAll depth (Reading.ofMembers members) schema.empty = pure slots ∧
      schema.complete slots = pure b := by
  -- on the fields; the keys of the members behind a field are names of later fields, so that they
  -- pass its slot by
  induction h with
  | done => exact ⟨(), rfl, rfl⟩
  | @field α σ β name read absent rest v a members b first later ih =>
    obtain ⟨new, distinct⟩ := List.nodup_cons.mp distinct
    obtain ⟨slots, put, complete⟩ := ih distinct
    have other : ∀ m ∈ members, m.1 ≠ name := fun m member same => new (same ▸ later.keys m member)
    refine ⟨(some a, slots), ?_, ?_⟩
    · simp only [Reading.ofMembers, putAll, Decode.ofFlaw, pure_bind, empty, put?, if_true, first.run,
        putAll_later other, put, map_pure]
    · simp only [Schema.complete, pure_bind, complete]
  | @omitted α σ β name read rest a members b later ih =>
    obtain ⟨new, distinct⟩ := List.nodup_cons.mp distinct
    obtain ⟨slots, put, complete⟩ := ih distinct
    have other : ∀ m ∈ members, m.1 ≠ name := fun m member same => new (same ▸ later.keys m member)
    refine ⟨(none, slots), ?_, ?_⟩
    · rw [empty, putAll_later other, put, map_pure]
    · simp only [Schema.complete, pure_bind, complete]

theorem Written.reads {schema : Schema σ β} {members : List (String × Json)} {b : β} (name : String)
    (h : schema.Written (depth + 1) members b) (distinct : schema.names.Nodup) :
    (schema.decoder name).Reads depth (.obj members) b := by
  obtain ⟨slots, put, complete⟩ := h.complete distinct
  refine ⟨.obj h.numberless, ?_⟩
  rw [Reading.ofJson, decoder, put, pure_bind, complete]
  rfl

end Schema

/-- The text of a written value decodes to what the decoder reads it as. -/
theorem decode_pretty {d : Decoder α} {v : Json} {a : α} (h : d.Reads 0 v a) :
    decode d v.pretty = pure a := by
  rw [decode, ofText_pretty h.numberless]
  simp only [h.run, pure_bind, if_true]

/-! ### Decoded values -/

theorem Decode.bind_ok {x : Decode α} {f : α → Decode β} {s t : Supply} {b : β}
    (h : (x >>= f) s = .ok (b, t)) : ∃ a s', x s = .ok (a, s') ∧ f a s' = .ok (b, t) := by
  simp only [bind, StateT.bind, Except.bind] at h
  rcases run : x s with e | ⟨a, s'⟩
  · rw [run] at h
    cases h
  · rw [run] at h
    exact ⟨a, s', rfl, h⟩

theorem Decode.map_ok {x : Decode α} {f : α → β} {s t : Supply} {b : β}
    (h : (f <$> x) s = .ok (b, t)) : ∃ a, x s = .ok (a, t) ∧ f a = b := by
  rw [map_eq_pure_bind] at h
  obtain ⟨a, s', run, done⟩ := bind_ok h
  cases done
  exact ⟨a, run, rfl⟩

namespace Decoder

/-- Every value that the decoder gives satisfies `P`. -/
def Gives (d : Decoder α) (P : α → Prop) : Prop :=
  ∀ ⦃depth r s a t⦄, d depth r s = .ok (a, t) → P a

theorem gives_any (d : Decoder α) : d.Gives fun _ => True := fun _ _ _ _ _ _ => trivial

theorem map_gives {d : Decoder α} {P : α → Prop} {Q : β → Prop} {f : α → β} (h : d.Gives P)
    (keeps : ∀ a, P a → Q (f a)) : (map f d).Gives Q := by
  intro depth r s b t run
  obtain ⟨a, first, rfl⟩ := Decode.map_ok run
  exact keeps a (h first)

theorem items_give {d : Decoder α} {P : α → Prop} (h : d.Gives P) {depth : Nat} {rs : List Reading}
    {s t : Supply} {as : List α} (run : d.items depth rs s = .ok (as, t)) : ∀ a ∈ as, P a := by
  induction rs generalizing s as with
  | nil =>
    cases run
    nofun
  | cons r rs ih =>
    obtain ⟨a, s₁, first, run⟩ := Decode.bind_ok run
    obtain ⟨others, s₂, later, run⟩ := Decode.bind_ok run
    cases run
    exact List.forall_mem_cons.mpr ⟨h first, ih later⟩

theorem list_gives {d : Decoder α} {P : α → Prop} (h : d.Gives P) : (list d).Gives (∀ a ∈ ·, P a) := by
  intro depth r s as t run
  cases r with
  | arr rs close =>
    obtain ⟨as, s₁, items, run⟩ := Decode.bind_ok run
    obtain ⟨_, s₂, _, run⟩ := Decode.bind_ok run
    cases run
    exact items_give h items
  | _ => cases run

end Decoder

def Absent.Gives (P : α → Prop) : Absent α → Prop
  | .required => True
  | .default make => ∀ s a t, make s = .ok (a, t) → P a
  | .unlessListed a => P a

namespace Schema

variable {Q : β → Prop} {schema : Schema σ β}

inductive Gives : {σ β : Type} → Schema σ β → (β → Prop) → Prop where
  | done : Gives .done fun _ => True
  | field {α σ β : Type} {name : String} {read : Decoder α} {absent : Absent α} {rest : Schema σ β}
      {P : α → Prop} {Q : β → Prop} :
      read.Gives P → absent.Gives P → Gives rest Q →
      Gives (.field name read absent rest) fun b => P b.1 ∧ Q b.2

theorem Gives.skip {name : String} {read : Decoder α} {absent : Absent α} {rest : Schema σ β}
    (h : rest.Gives Q) : (Schema.field name read absent rest).Gives fun b => True ∧ Q b.2 := by
  refine .field read.gives_any ?_ h
  cases absent with
  | required => trivial
  | default make => exact fun _ _ _ _ => trivial
  | unlessListed a => trivial

/-- Something holds of the slots from the first member on that makes the record satisfy `Q` in the
end. -/
theorem Gives.slots (h : schema.Gives Q) : ∃ S : σ → Prop, S schema.empty ∧
    (∀ depth key r slots run s after t, S slots → schema.put? depth key r slots = some run →
      run s = .ok (after, t) → S after) ∧
    ∀ slots s b t, S slots → schema.complete slots s = .ok (b, t) → Q b := by
  induction h with
  | done => exact ⟨fun _ => True, trivial, fun _ _ _ _ _ _ _ _ _ _ _ => trivial, fun _ _ _ _ _ _ => trivial⟩
  | @field α σ β name read absent rest P Q own default _ ih =>
    obtain ⟨S, start, step, finish⟩ := ih
    -- the slot of the field is empty or holds a value of its decoder; `S` speaks of the others
    refine ⟨fun slots => (∀ a, slots.1 = some a → P a) ∧ S slots.2, ⟨nofun, start⟩, ?_, ?_⟩
    · rintro depth key r ⟨slot, slots⟩ run s ⟨slot', slots'⟩ t ⟨filled, later⟩ put ok
      simp only [put?] at put
      by_cases same : key = name
      · rw [if_pos same] at put
        cases slot with
        | some _ => cases put; cases ok
        | none =>
          cases put
          obtain ⟨a, s₁, first, ok⟩ := Decode.bind_ok ok
          cases ok
          refine ⟨fun b eq => ?_, later⟩
          cases eq
          exact own first
      · rw [if_neg same] at put
        obtain ⟨inner, found, rfl⟩ := Option.map_eq_some_iff.mp put
        obtain ⟨after, s₁, moved, ok⟩ := Decode.bind_ok ok
        cases ok
        exact ⟨filled, step _ _ _ _ _ _ _ _ later found moved⟩
    · rintro ⟨slot, slots⟩ s b t ⟨filled, later⟩ ok
      cases slot with
      | some a =>
        simp only [Schema.complete, pure_bind] at ok
        obtain ⟨b, s₁, others, ok⟩ := Decode.bind_ok ok
        cases ok
        exact ⟨filled _ rfl, finish _ _ _ _ later others⟩
      | none =>
        cases absent with
        | required => cases ok
        | default make =>
          obtain ⟨a, s₁, made, ok⟩ := Decode.bind_ok ok
          obtain ⟨b, s₂, others, ok⟩ := Decode.bind_ok ok
          cases ok
          exact ⟨default _ _ _ made, finish _ _ _ _ later others⟩
        | unlessListed a =>
          simp only [Schema.complete, pure_bind] at ok
          obtain ⟨b, s₁, others, ok⟩ := Decode.bind_ok ok
          cases ok
          exact ⟨default, finish _ _ _ _ later others⟩

theorem putAll_keeps {S : σ → Prop}
    (step : ∀ depth key r slots run s after t, S slots → schema.put? depth key r slots = some run →
      run s = .ok (after, t) → S after)
    {depth : Nat} {members : List (Except Flaw String × Reading)} {slots after : σ} {s t : Supply}
    (h : S slots) (run : schema.putAll depth members slots s = .ok (after, t)) : S after := by
  induction members generalizing slots s with
  | nil =>
    cases run
    exact h
  | cons m members ih =>
    obtain ⟨key, r⟩ := m
    obtain ⟨key, s₁, _, run⟩ := Decode.bind_ok run
    cases put : schema.put? depth key r slots with
    | none =>
      rw [put] at run
      obtain ⟨_, s₂, _, run⟩ := Decode.bind_ok run
      exact ih h run
    | some d =>
      rw [put] at run
      obtain ⟨next, s₂, moved, run⟩ := Decode.bind_ok run
      exact ih (step _ _ _ _ _ _ _ _ h put moved) run

theorem Gives.fill (h : schema.Gives Q) {depth index : Nat} {short : Nat → Fault} {rs : List Reading}
    {close : Close} {s t : Supply} {b : β}
    (run : schema.fill depth short index rs close s = .ok (b, t)) : Q b := by
  induction h generalizing index rs s t with
  | done => trivial
  | @field α σ β name read absent rest P Q own default _ ih =>
    cases rs with
    | cons r rs =>
      obtain ⟨a, s₁, first, run⟩ := Decode.bind_ok run
      obtain ⟨b, s₂, others, run⟩ := Decode.bind_ok run
      cases run
      exact ⟨own first, ih others⟩
    | nil =>
      -- past the end of the array only a default can stand for the field
      obtain ⟨_, s₁, _, run⟩ := Decode.bind_ok run
      cases absent with
      | default make =>
        obtain ⟨a, s₂, made, run⟩ := Decode.bind_ok run
        obtain ⟨b, s₃, others, run⟩ := Decode.bind_ok run
        cases run
        exact ⟨default _ _ _ made, ih others⟩
      | _ => cases run

/-- A decoded record satisfies what its fields call for, whether it was an object or an array. -/
theorem Gives.decoder (name : String) (h : schema.Gives Q) : (schema.decoder name).Gives Q := by
  intro depth r s b t run
  cases r with
  | obj members close =>
    obtain ⟨S, start, step, finish⟩ := h.slots
    obtain ⟨slots, s₁, put, run⟩ := Decode.bind_ok run
    obtain ⟨_, s₂, _, run⟩ := Decode.bind_ok run
    exact finish _ _ _ _ (putAll_keeps step start put) run
  | arr rs close => exact h.fill run
  | _ => cases run

end Schema

theorem decode_gives {d : Decoder α} {P : α → Prop} (h : d.Gives P) {text : String} {s t : Supply} {a : α}
    (run : decode d text s = .ok (a, t)) : P a := by
  rcases read : Reading.ofText text.toList with ⟨r, alone⟩
  rw [decode, read] at run
  obtain ⟨a, s₁, first, run⟩ := Decode.bind_ok run
  cases alone with
  | false => cases run
  | true =>
    cases run
    exact h first

end Accessors.Json
