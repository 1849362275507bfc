import DeltaPipeline.Entry
import DeltaPipeline.Fault
import DeltaPipeline.Recipe.Mapping
import DeltaPipeline.Recipe.Rule

/-!
# `DeltaPipeline.Workbench.Parts`: entries, faults and comparers by hand

* `Workbench.alterEntry`: an entry under changes, with all stages.
* `Workbench.makeFaults`: faults raised anew or carried on from others.
* `Rule.inspected`: the inspection text of a comparer.
* `NodeId.ascending`: node numbers in order.
-/

set_option autoImplicit false

namespace DeltaPipeline

/-- A change of an entry. -/
inductive EntryChange where
  /-- another tag for the same value -/
  | retag (tag : Tag)
  /-- another value under the same tag -/
  | map (mapping : Mapping)

/-- The entry after a change. -/
def EntryChange.apply (entry : Entry Value) : EntryChange → Entry Value
  | .retag tag => entry.retag tag
  | .map mapping => entry.map mapping.apply

/-- How a fault comes about. -/
inductive FaultSource where
  /-- it is raised anew -/
  | raised (cause : Cause)
  /-- it is carried on from a fault made before -/
  | carried (fault : Nat)

namespace Workbench

/-- An entry and what it is after each change in turn. -/
def alterEntry (entry : Entry Value) : List EntryChange → List (Entry Value)
  | [] => [entry]
  | change :: changes => entry :: alterEntry (change.apply entry) changes

/-- Makes faults in order, as long as each can be made. -/
def makeFaults (made : List Fault) : List FaultSource → Option (List Fault)
  | [] => some made
  | .raised cause :: rest => makeFaults (made ++ [⟨cause, .host made.length⟩]) rest
  | .carried number :: rest => do
    let fault ← made[number]?
    makeFaults (made ++ [fault]) rest

end Workbench

/-- The inspection text of the comparer a rule describes. -/
def Rule.inspected : Rule → String
  | .structural => "DefaultComparer"
  | _ => "FnComparer \x7b .. \x7d"

/-- Node numbers in ascending order. -/
def NodeId.ascending (ids : List NodeId) : List NodeId :=
  ids.mergeSort (·.raw ≤ ·.raw)

end DeltaPipeline
