import DeltaPipeline.Node.Function
import DeltaPipeline.Update.Step

/-!
# `DeltaPipeline.Update.Transform`: a function applied to each value

Each item of the source gives one group. For a cached item the group of the run
before is kept and the function is not called; for a removed item it is
dropped; for an added or modified item the function is called, and the outputs
of a modified one are compared with the group of the run before.

* `Transform.visit`, `Transform.visit_cases`: the group of one item.
* `Transform.write`: the groups of all items, or the first fault.
* `Transform.update`: the update of the node.
-/

set_option autoImplicit false

namespace DeltaPipeline.Transform

variable {σ : Type}

/-- Calls the function for an item and writes its outputs. They are compared with
the next group of the run before if the item is modified, and added if not. -/
def recompute (function : Transform σ) (node : NodeId) (comparer : Comparer σ)
    (item : Entry Value) (draft : Draft Value) : StepM σ (Except Fault (Draft Value)) := do
  match ← StepM.invoke node item.value (function.call item.value) with
  | .error fault => return .error fault
  | .ok outputs =>
    if item.tag = .modified then
      return .ok (← StepM.reviseOrAdd node comparer draft outputs)
    else
      return .ok (draft.add outputs .added)

/-- Writes the group of one item. With no group left of the run before, there is
nothing to drop or to keep. -/
def visit (function : Transform σ) (node : NodeId) (comparer : Comparer σ)
    (item : Entry Value) (draft : Draft Value) : StepM σ (Except Fault (Draft Value)) :=
  match item.tag with
  | .removed => return .ok (draft.drop?.getD draft)
  | .cached =>
    match draft.keep? with
    | some kept => return .ok kept
    | none => recompute function node comparer item draft
  | _ => recompute function node comparer item draft

/-- The three ways to write the group of an item: the next pending group is dropped or kept,
or the function is called. A cached item is computed only if no group is left to keep. -/
theorem visit_cases (function : Transform σ) (node : NodeId) (comparer : Comparer σ)
    (item : Entry Value) (draft : Draft Value) :
    (∃ value, item = ⟨value, .removed⟩ ∧
        visit function node comparer item draft = pure (.ok (draft.drop?.getD draft))) ∨
      (∃ value kept, item = ⟨value, .cached⟩ ∧ draft.keep? = some kept ∧
        visit function node comparer item draft = pure (.ok kept)) ∨
      (item.tag ≠ .removed ∧ (item.tag = .cached → draft.pending = []) ∧
        visit function node comparer item draft
          = recompute function node comparer item draft) := by
  obtain ⟨value, tag⟩ := item
  cases tag with
  | removed => exact .inl ⟨value, rfl, rfl⟩
  | added => exact .inr (.inr ⟨by simp, by simp, rfl⟩)
  | modified => exact .inr (.inr ⟨by simp, by simp, rfl⟩)
  | cached =>
    cases hkeep : draft.keep? with
    | some kept => exact .inr (.inl ⟨value, kept, rfl, rfl, by simp [visit, hkeep]⟩)
    | none =>
      have hnil := draft.keep?_eq_none_iff.mp hkeep
      exact .inr (.inr ⟨by simp, fun _ => hnil, by simp [visit, hkeep]⟩)

/-- Writes the groups of the items in order, up to the first fault. -/
def write (function : Transform σ) (node : NodeId) (comparer : Comparer σ) :
    List (Entry Value) → Draft Value → StepM σ (Except Fault (Draft Value))
  | [], draft => return .ok draft
  | item :: items, draft => do
    StepM.check
    match ← visit function node comparer item draft with
    | .error fault => return .error fault
    | .ok next => write function node comparer items next

/-- The update of a transform, given the table of its source. -/
def update (function : Transform σ) (site : Site) (comparer : Comparer σ)
    (baseline source : Table Value) : StepM σ Product := do
  if source.isCompacted && !baseline.isEmpty then
    return .unchanged
  else if source.isFaulted then
    return .table (source.carryFault (.engine site))
  else
    match ← write function site.node comparer source.items (.against baseline) with
    | .error fault => StepM.failWith site.node fault
    | .ok draft =>
      StepM.check
      return .table (← StepM.publish draft)

end DeltaPipeline.Transform
