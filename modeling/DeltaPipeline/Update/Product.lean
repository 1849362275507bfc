import DeltaPipeline.Table.Basic
import DeltaPipeline.Value.Basic

/-!
# `DeltaPipeline.Update.Product`: what an update of a node gives

* `Product`: the node's baseline unchanged, or a new table.
* `Outcome`: how a node's table was obtained.
* `Computed`: one computation of a node's table in a run.
* `Computed.find?`, `Computed.latest`: the computations that count, of a list in
  the order in which they ended.
-/

set_option autoImplicit false

namespace DeltaPipeline

/-- What the update of a node gives. -/
inductive Product where
  /-- the baseline itself -/
  | unchanged
  /-- a new table -/
  | table (t : Table Value)

/-- How a node's table was obtained in a run. -/
inductive Outcome where
  /-- the baseline was taken as it was -/
  | reused
  /-- a new table was made -/
  | executed
  /-- the node failed, or a node it depends on did -/
  | faulted
deriving DecidableEq

/-- The name of an outcome in answers and log messages. -/
def Outcome.name : Outcome → String
  | .reused => "reused"
  | .executed => "executed"
  | .faulted => "faulted"

namespace Product

/-- The table a product stands for, given the node's baseline. -/
def resolve (baseline : Table Value) : Product → Table Value
  | .unchanged => baseline
  | .table t => t

/-- How the product was obtained. A table counts as reused if it is the very baseline that the
node was given, not if it is merely equal to it, and the constructor says which of both it is.
A custom node that hands on a table it pulled may hold that very table as its baseline, if the
other node was reused in this run and in the one before. Its program gives `unchanged` then. -/
def outcome : Product → Outcome
  | .unchanged => .reused
  | .table t => if t.isFaulted then .faulted else .executed

end Product

/-- One computation of a node's table in a run. -/
structure Computed where
  node : NodeId
  table : Table Value
  outcome : Outcome
  /-- How many computations of the run ended before. Each has a number of its own,
  which tells whether two pulls gave the same table. -/
  serial : Nat
deriving DecidableEq

namespace Computed

/-- The last computation of this node. A custom node that is pulled again while it
is at work is computed more than once, and then the last one counts. -/
def find? (computed : List Computed) (id : NodeId) : Option Computed :=
  computed.reverse.find? (·.node = id)

/-- The last computation of each node, in order. -/
def latest : List Computed → List Computed
  | [] => []
  | first :: rest =>
    if rest.any (·.node = first.node) then latest rest else first :: latest rest

/-- A computation that just ended is the last one of its node. -/
@[simp] theorem find?_append_singleton (computed : List Computed) (last : Computed)
    (id : NodeId) :
    find? (computed ++ [last]) id
      = if last.node = id then some last else find? computed id := by
  simp only [find?, List.reverse_append, List.reverse_singleton, List.singleton_append,
    List.find?_cons]
  split <;> simp_all

end Computed

end DeltaPipeline
