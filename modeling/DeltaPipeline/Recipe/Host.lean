import DeltaPipeline.Fault
import DeltaPipeline.Node.Program
import DeltaPipeline.Node.UserCode

/-!
# `DeltaPipeline.Recipe.Host`: the host that recipes run in

Functions, comparers and custom nodes that are described by data run in one host. It knows
the nodes by name and counts calls and faults.

* `Host`: the state of the host.
* `Host.countCall`, `Host.raise`: what recipes do with it.
-/

set_option autoImplicit false

namespace DeltaPipeline

/-- The state of the host that recipes run in. -/
structure Host where
  /-- the nodes known by name -/
  handles : List (String × Handle) := []
  /-- how often the function of each node was called -/
  callCounts : String → Nat := fun _ => 0
  /-- how many faults host code has raised -/
  faultsRaised : Nat := 0

namespace Host

/-- Counts a call of a node's function and gives its number, from 1. -/
def countCall (name : String) : UserCode Host Nat := do
  let call := (← UserCode.host).callCounts name + 1
  UserCode.modifyHost fun host =>
    { host with callCounts := fun n => if n = name then call else host.callCounts n }
  return call

/-- Raises a fault. -/
def raise (cause : Cause) : UserCode Host Fault := do
  let serial := (← UserCode.host).faultsRaised
  UserCode.modifyHost fun host => { host with faultsRaised := serial + 1 }
  return ⟨cause, .host serial⟩

end Host

end DeltaPipeline
