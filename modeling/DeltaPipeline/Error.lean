import DeltaPipeline.Node.Kind
import DeltaPipeline.Text.Quoted

/-!
# `DeltaPipeline.Error`: why an operation is refused

An error means cancellation or misuse. A user function that fails is no error:
its node's table carries a fault (`DeltaPipeline.Fault`).

* `Violation`: the ways to break a rule of the library, with their wording.
* `Error`: what an operation is refused with.
* `Panic`: host code gave up; the operation ends without an answer.
-/

set_option autoImplicit false

namespace DeltaPipeline

open DeltaPipeline.Text

/-- A rule of the library that was broken. -/
inductive Violation where
  /-- values were set on a node that is not an input -/
  | notAnInput (node : NodeId) (kind : Kind)
  /-- the right side of a combine holds no item or several -/
  | rightNotSingle (node : NodeId) (found : Nat)
  /-- the baseline of a batch does not hold exactly one group -/
  | batchBaseline (node : NodeId)
  /-- a fault was asked of a table that has none -/
  | sourceNotFaulted
  /-- host code reports a broken rule in its own words -/
  | reported (message : String)
deriving DecidableEq

/-- The wording of a broken rule. -/
def Violation.message : Violation → String
  | .notAnInput node kind => s!"{node.shown} is a {kind.name} node, not an input"
  | .rightNotSingle node found =>
    s!"{node.shown}: combine expects exactly one right item, found {found}"
  | .batchBaseline node => s!"{node.shown}: batch baseline must hold exactly one entry"
  | .sourceNotFaulted => "fault propagated from a table that is not faulted"
  | .reported message => message

/-- What an operation is refused with. -/
inductive Error where
  /-- the run was cancelled -/
  | cancelled
  /-- the node does not belong to the pipeline at hand -/
  | unknownNode (node : NodeId)
  /-- the node's elements are of another type than the one asked for -/
  | typeMismatch (node : NodeId) (expected : ElementType)
  /-- a rule of the library was broken -/
  | invalidState (violation : Violation)
deriving DecidableEq

namespace Error

/-- Is the error a cancellation? -/
def isCancelled : Error → Bool
  | .cancelled => true
  | _ => false

/-- The message of an error. -/
def message : Error → String
  | .cancelled => "run was cancelled"
  | .unknownNode node => s!"node {node.raw} is not part of this pipeline"
  | .typeMismatch node expected =>
    s!"table for node {node.raw} does not hold values of type {expected.name}"
  | .invalidState violation => s!"invalid state: {violation.message}"

/-- The inspection text of an error. -/
def inspected : Error → String
  | .cancelled => "Cancelled"
  | .unknownNode node => s!"UnknownNode \x7b node: {node.raw} \x7d"
  | .typeMismatch node expected =>
    s!"TableTypeMismatch \x7b node: {node.raw}, expected: " ++
      Convention.inspection.quote expected.name ++ " \x7d"
  | .invalidState violation =>
    "InvalidState \x7b message: " ++ Convention.inspection.quote violation.message ++ " \x7d"

end Error

/-- Host code gave up in the middle of an operation. -/
structure Panic where
  message : String
deriving DecidableEq

end DeltaPipeline
