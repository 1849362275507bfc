import DeltaPipeline.Error

/-!
# `DeltaPipeline.Fault`: why a node has no values in a run

A fault is raised once, by a user function or by the engine, and then carried
unchanged through every table downstream. Two faults share their cause exactly
if one was raised and the other carried from it, which their origin records.

* `Cause`: what went wrong.
* `Origin`: which raising a fault goes back to.
* `Fault`: a cause with its origin.
-/

set_option autoImplicit false

namespace DeltaPipeline

open DeltaPipeline.Text

/-- What went wrong. -/
inductive Cause where
  /-- an error of the library, for instance a cancellation seen by host code -/
  | error (e : Error)
  /-- a plain message -/
  | plain (text : String)
  /-- an error of the host's own, known by its number -/
  | code (number : Int)
deriving DecidableEq

/-- The message of a cause. -/
def Cause.message : Cause → String
  | .error e => e.message
  | .plain text => text
  | .code number => s!"custom code {number}"

/-- The inspection text of a cause. -/
def Cause.inspected : Cause → String
  | .error e => e.inspected
  | .plain text => "Message(" ++ Convention.inspection.quote text ++ ")"
  | .code number => s!"Custom({number})"

/-- One update of one node: where and when a table is made. -/
structure Site where
  pipeline : Nat
  run : Nat
  node : NodeId
  /-- how many updates of the node ended before in the run -/
  attempt : Nat
deriving DecidableEq

/-- The raising that a fault goes back to. -/
inductive Origin where
  /-- by host code, which numbers the faults it raises -/
  | host (serial : Nat)
  /-- by the engine, at most once in an update -/
  | engine (site : Site)
deriving DecidableEq

/-- The failure that a faulted table carries. -/
structure Fault where
  cause : Cause
  origin : Origin
deriving DecidableEq

namespace Fault

/-- Do both faults go back to one raising? -/
def sameCause (a b : Fault) : Bool :=
  a.origin = b.origin

/-- The position of the first of these faults that has the same cause. -/
def firstSharing (faults : List Fault) (fault : Fault) : Nat :=
  faults.findIdx (fault.sameCause ·)

/-- The message of a fault is that of its cause. -/
def message (fault : Fault) : String :=
  fault.cause.message

/-- The inspection text of a fault. -/
def inspected (fault : Fault) : String :=
  "Fault(" ++ fault.cause.inspected ++ ")"

end Fault

end DeltaPipeline
