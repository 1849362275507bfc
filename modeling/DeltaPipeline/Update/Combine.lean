import DeltaPipeline.Update.Step

/-!
# `DeltaPipeline.Update.Combine`: each left value with the one right value

The right source is to hold exactly one item, as a batch of one value does. A
left item keeps its tag while the right item is cached; otherwise the pair is
compared with that of the run before.

* `Combine.visit`: the pair of one left item.
* `Combine.write`: the pairs of all left items.
* `Combine.update`: the update of the node.
-/

set_option autoImplicit false

namespace DeltaPipeline.Combine

variable {σ : Type}

/-- Writes the pair of one left item with the right one. -/
def visit (node : NodeId) (comparer : Comparer σ) (right left : Entry Value)
    (draft : Draft Value) : StepM σ (Draft Value) :=
  let pair := Value.pair left.value right.value
  match left.tag, right.tag with
  | .removed, _ => return draft.drop?.getD draft
  | .added, _ => return draft.add [pair] .added
  | .cached, .cached =>
    match draft.keep? with
    | some kept => return kept
    | none => StepM.reviseOrAdd node comparer draft [pair]
  | _, _ => StepM.reviseOrAdd node comparer draft [pair]

/-- Writes the pairs of the left items in order. -/
def write (node : NodeId) (comparer : Comparer σ) (right : Entry Value) :
    List (Entry Value) → Draft Value → StepM σ (Draft Value)
  | [], draft => return draft
  | left :: lefts, draft => do
    StepM.check
    write node comparer right lefts (← visit node comparer right left draft)

/-- The end of an update whose right side is not a single item. -/
def refuse (site : Site) (found : Nat) : StepM σ Product := do
  StepM.notice (.rightItems site.node found)
  return .table (.faulted
    ⟨.error (.invalidState (.rightNotSingle site.node found)), .engine site⟩)

/-- The update of a combine, given the tables of its sources. A fault on the left
goes before one on the right. -/
def update (site : Site) (comparer : Comparer σ) (baseline left right : Table Value) :
    StepM σ Product := do
  if left.isCompacted && right.isCompacted && !baseline.isEmpty then
    return .unchanged
  else if left.isFaulted then
    return .table (left.carryFault (.engine site))
  else if right.isFaulted then
    return .table (right.carryFault (.engine site))
  else
    match right.single? with
    | none => refuse site right.values.length
    | some item =>
      let draft ← write site.node comparer item left.items (.against baseline)
      StepM.check
      return .table (← StepM.publish draft)

end DeltaPipeline.Combine
