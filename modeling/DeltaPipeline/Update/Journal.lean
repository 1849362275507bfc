import DeltaPipeline.Table.Draft
import DeltaPipeline.Update.Product

/-!
# `DeltaPipeline.Update.Journal`: what happened, in order

* `Notice`: a log message, as data; `Notice.level` and `Notice.text` word it.
* `Event`: an entry of a run's journal: a node's update began, host code was
  called, the run was cancelled, or something worth a message happened.
* `Event.notices`, `Event.calls`: the two kinds of entries that answers show.
-/

set_option autoImplicit false

namespace DeltaPipeline

/-- How much a log message matters. -/
inductive Level where
  | trace
  | debug
  | error
deriving DecidableEq

/-- The name of a level before its messages. -/
def Level.name : Level → String
  | .trace => "TRACE"
  | .debug => "DEBUG"
  | .error => "ERROR"

/-- A log message. -/
inductive Notice where
  /-- about how a table was written -/
  | written (remark : Draft.Remark)
  /-- a node's table is there -/
  | computed (node : NodeId) (kind : Kind) (outcome : Outcome)
  /-- a user function failed -/
  | raised (node : NodeId) (fault : Fault)
  /-- the right side of a combine holds no item or several -/
  | rightItems (node : NodeId) (found : Nat)
  /-- the engine broke a rule of its own -/
  | violated (violation : Violation)
  | runStarted (run nodes : Nat)
  | runAbandoned (run : Nat) (node : NodeId) (kind : Kind) (error : Error)
  | runFinished (run executed reused faulted : Nat)
  /-- the baselines of a driver were dropped -/
  | driverReset (runs : Nat)
deriving DecidableEq

namespace Notice

/-- How much the message matters. -/
def level : Notice → Level
  | .written _ => .trace
  | .computed _ _ _ => .trace
  | .violated _ => .error
  | _ => .debug

/-- The wording of the message. -/
def text : Notice → String
  | .written (.pastEnd tag) => s!"{tag.name} group added past the end of the previous table"
  | .written (.unconsumed count) =>
    s!"{count} previous groups left unconsumed by the new table"
  | .computed node kind outcome => s!"{node.shown} ({kind.name}) {outcome.name}"
  | .raised node fault => s!"{node.shown} faulted: {fault.message}"
  | .rightItems node found => s!"{node.shown} right input holds {found} items"
  | .violated violation => violation.message
  | .runStarted run nodes => s!"run {run} started over {nodes} nodes"
  | .runAbandoned run node kind error =>
    s!"run {run} abandoned at {node.shown} ({kind.name}): {error.message}"
  | .runFinished run executed reused faulted =>
    s!"run {run} finished: {executed} executed, {reused} reused, {faulted} faulted"
  | .driverReset runs => s!"driver state reset after {runs} runs"

/-- The line of a log that shows the message. -/
def line (notice : Notice) : String :=
  s!"{notice.level.name} {notice.text}"

end Notice

/-- The parts of a node that can cancel a run. -/
inductive Signaller where
  /-- its function -/
  | function
  /-- its comparer -/
  | comparer
  /-- its program, if it is a custom node -/
  | program
deriving DecidableEq

/-- An entry of a run's journal. -/
inductive Event where
  /-- the update of a node began -/
  | entered (node : NodeId)
  /-- host code of a node was called with an argument -/
  | called (node : NodeId) (argument : Value)
  /-- the run was cancelled by a part of a node -/
  | cancelled (node : NodeId) (signaller : Signaller)
  /-- a message was logged -/
  | noticed (notice : Notice)
deriving DecidableEq

namespace Event

/-- The messages of a journal, in order. -/
def notices (journal : List Event) : List Notice :=
  journal.filterMap fun
    | .noticed notice => some notice
    | _ => none

/-- The calls of host code in a journal, in order. -/
def calls (journal : List Event) : List (NodeId × Value) :=
  journal.filterMap fun
    | .called node argument => some (node, argument)
    | _ => none

/-- The updates begun in a journal, in order. -/
def entries (journal : List Event) : List NodeId :=
  journal.filterMap fun
    | .entered node => some node
    | _ => none

end Event

end DeltaPipeline
