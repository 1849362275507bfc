import DeltaPipeline.Update.Step

/-!
# `DeltaPipeline.Update.Input`: an input takes the values set on the driver

The values are compared position by position with those of the run before, one
group for each. If nothing changed the baseline itself is the table, which
lets every node downstream keep what it has.

* `Draft.dropAll`: writes all pending groups as removed.
* `Draft.addEach`: writes each value as an added group.
* `Input.write`: the table of the values.
* `Input.update`: the same, or the baseline if all is as it was.
-/

set_option autoImplicit false

namespace DeltaPipeline

/-- Writes all pending groups as removed. -/
def Draft.dropAll {α : Type} (draft : Draft α) : Draft α :=
  { draft with pending := [], groups := draft.groups ++ draft.pending.map Group.dropped }

/-- Writes each value as a group of its own, added. -/
def Draft.addEach {α : Type} (draft : Draft α) (values : List α) : Draft α :=
  values.foldl (fun written value => written.add [value] .added) draft

/-- Adding each of some values writes a group for each and nothing else. -/
theorem Draft.addEach_eq {α : Type} (draft : Draft α) (values : List α) :
    draft.addEach values = { draft with
      groups := draft.groups ++ values.map fun value => Group.tagged .added [value] } := by
  induction values generalizing draft with
  | nil => simp [addEach]
  | cons value values ih =>
    show (draft.add [value] .added).addEach values = _
    rw [ih, add_added]
    simp [push]

namespace Input

variable {σ : Type}

/-- Revises one group for each value. -/
def reviseEach (node : NodeId) (comparer : Comparer σ) :
    List Value → Draft Value → StepM σ (Draft Value)
  | [], draft => return draft
  | value :: values, draft => do
    reviseEach node comparer values (← StepM.reviseOrAdd node comparer draft [value])

/-- Writes the values over a baseline: those at positions the baseline has are
compared with it, the rest of the baseline is removed, the rest of the values
is added. -/
def write (node : NodeId) (comparer : Comparer σ) (baseline : Table Value)
    (values : List Value) : StepM σ (Table Value) := do
  let shared := min baseline.groups.length values.length
  let draft ← reviseEach node comparer (values.take shared) (.against baseline)
  StepM.publish (draft.dropAll.addEach (values.drop shared))

/-- The update of an input. -/
def update (node : NodeId) (comparer : Comparer σ) (baseline : Table Value)
    (values : List Value) : StepM σ Product := do
  let table ← write node comparer baseline values
  return if !baseline.isEmpty && table.isCached then .unchanged else .table table

end Input

end DeltaPipeline
