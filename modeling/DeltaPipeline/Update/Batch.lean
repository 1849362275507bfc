import DeltaPipeline.Node.Function
import DeltaPipeline.Update.Step

/-!
# `DeltaPipeline.Update.Batch`: a function applied to all values at once

A batch always gives exactly one group, also for a source without values. The
function sees the present values of the source and not how they came about.
Its outputs are added on a first run and compared with the one group of the
run before otherwise.

* `Batch.apply`: applies the function.
* `Batch.write`: the group of the outputs.
* `Batch.update`: the update of the node.
-/

set_option autoImplicit false

namespace DeltaPipeline.Batch

variable {σ : Type}

/-- Applies the function to the values. That the library collects them is no call
of host code. -/
def apply (function : Reduction σ) (node : NodeId) (values : List Value) :
    StepM σ (Except Fault (List Value)) :=
  match function with
  | .collect => return .ok [.list values]
  | .one f => do
    return (← StepM.invoke node (.list values) (f values)).map ([·])
  | .many f => StepM.invoke node (.list values) (f values)

/-- Writes the outputs over a baseline. A baseline of several groups or none is
against the rules and faults the node. -/
def write (site : Site) (comparer : Comparer σ) (baseline : Table Value)
    (outputs : List Value) : StepM σ Product := do
  let draft : Draft Value := .against baseline
  if baseline.isEmpty then
    return .table (← StepM.publish (draft.add outputs .added))
  else if baseline.groups.length = 1 then
    return .table (← StepM.publish (← StepM.reviseOrAdd site.node comparer draft outputs))
  else
    let violation := Violation.batchBaseline site.node
    StepM.notice (.violated violation)
    return .table (.faulted ⟨.error (.invalidState violation), .engine site⟩)

/-- The update of a batch, given the table of its source. -/
def update (function : Reduction σ) (site : Site) (comparer : Comparer σ)
    (baseline source : Table Value) : StepM σ Product := do
  if source.isCompacted && !baseline.isEmpty then
    return .unchanged
  else if source.isFaulted then
    return .table (source.carryFault (.engine site))
  else
    match ← apply function site.node source.values with
    | .error fault => StepM.failWith site.node fault
    | .ok outputs =>
      StepM.check
      write site comparer baseline outputs

end DeltaPipeline.Batch
