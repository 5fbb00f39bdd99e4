import Accessors.Generation
import Accessors.Proofs.Transaction

/-!
# Batches

Drawing identifiers changes nothing else about planned members (`identify_drafts`), and staging
batches is staging their insertions in turn (`stageBatches_eq`).
-/

namespace Accessors

theorem mapM_map {σ α β : Type} {f : α → StateM σ β} {g : β → α} (keeps : ∀ a s, g (f a s).1 = a)
    (l : List α) (s : σ) : ((l.mapM f) s).1.map g = l := by
  induction l generalizing s with
  | nil => rfl
  | cons a l ih =>
    rw [List.mapM_cons]
    show g (f a s).1 :: ((l.mapM f) (f a s).2).1.map g = a :: l
    rw [keeps, ih]

theorem identify_draft (d : Operation.Draft) (s : Supply) : (d.identify s).1.draft = d := by
  obtain ⟨name, visibility, ownerId, parameters⟩ := d
  have same : ∀ (p : Parameter.Draft) (s : Supply), (p.identify s).1.draft = p := fun _ _ => rfl
  show Operation.Draft.mk name visibility ownerId
    (((parameters.mapM Parameter.Draft.identify) (Supply.fresh s).2).1.map Parameter.draft) = _
  rw [mapM_map same]

namespace Batch

def map {α β : Type} (f : α → β) (b : Batch α) : Batch β := ⟨b.kind, b.ownerId, b.members.map f⟩

theorem identify_map (b : Batch Operation.Draft) (s : Supply) :
    (b.identify s).1.map Operation.draft = b := by
  obtain ⟨kind, ownerId, members⟩ := b
  show Batch.mk kind ownerId (((members.mapM Operation.Draft.identify) s).1.map Operation.draft) = _
  rw [mapM_map identify_draft]

/-- Identified batches are the planned ones, but for their identifiers. -/
theorem identify_drafts (batches : List (Batch Operation.Draft)) (s : Supply) :
    ((batches.mapM identify) s).1.map (map Operation.draft) = batches := mapM_map identify_map batches s

def insertions (b : Batch Operation) : List FieldInsertion :=
  b.members.map fun op => ⟨b.ownerId, .operations, op⟩

end Batch

namespace Transaction

theorem stageBatches_eq (batches : List (Batch Operation)) :
    stageBatches batches = stageEach (batches.flatMap Batch.insertions) := by
  induction batches with
  | nil => rfl
  | cons b batches ih => rw [stageBatches, ih, stageAll_eq, List.flatMap_cons, stageEach_append]; rfl

end Transaction

namespace Host

/-- The batches that a request commits: the plan for a selection, with the next identifiers. -/
def batches (h : Host) (policy : ConstructorPolicy) (selection : List ElementRef) :
    List (Batch Operation) :=
  (((Plan.ofSelection h.reader policy selection).batches.mapM Batch.identify) h.supply).1

def drawn (h : Host) (policy : ConstructorPolicy) (selection : List ElementRef) : Host :=
  { h with
    supply := (((Plan.ofSelection h.reader policy selection).batches.mapM Batch.identify) h.supply).2 }

open Accessors.Action

theorem generate_apply (options : Options) (selection : List ElementRef) (h : Host) :
    generate options selection h =
      match commitAll options.granularity (h.batches options.constructorPolicy selection)
          (h.drawn options.constructorPolicy selection) with
      | (.error e, h') => (.error e, h')
      | (.ok commands, h') =>
        (.ok ((Plan.ofSelection h.reader options.constructorPolicy selection).report commands), h') := by
  unfold generate batches drawn
  rw [bind_of_ok (get_apply h)]
  simp only [onSupply, bind_apply, focus_apply, ofState_apply, pure_apply]
  rcases commitAll options.granularity _ _ with ⟨_ | _, _⟩ <;> rfl

theorem generate_request (policy : ConstructorPolicy) (selection : List ElementRef) (h : Host) :
    generate ⟨policy, .perRequest⟩ selection h =
      match transact requestLabel
          (Transaction.stageEach ((h.batches policy selection).flatMap Batch.insertions))
          (h.drawn policy selection) with
      | (.error source, h') => (.error (.rejected requestLabel 0 source), h')
      | (.ok receipt, h') =>
        (.ok ((Plan.ofSelection h.reader policy selection).report receipt.toList), h') := by
  rw [generate_apply]
  simp only [commitAll, commitRequest, Transaction.stageBatches_eq, bind_apply, mapError_apply]
  rcases transact requestLabel _ _ with ⟨_ | _, _⟩ <;> rfl

end Host

end Accessors
