import DeltaPipeline.Node.Program

/-!
# `DeltaPipeline.Driver.Report`: what a completed run gave

The tables of a report keep their tags, so that the host sees what was added,
modified, kept and removed.

* `Report.Step`: the record of one node's computation.
* `Report`: the tables of a run and its steps, if they were recorded.
* `Report.stats`, `Report.faults`, `Report.table`: the views of a report.
-/

set_option autoImplicit false

namespace DeltaPipeline

/-- The record of one node's computation. -/
structure Report.Step where
  node : NodeId
  /-- the name given to the node, if any -/
  name : Option String
  kind : Kind
  outcome : Outcome
  condition : Condition
  counts : TagCounts
deriving DecidableEq

/-- How many computations of a run had each outcome. -/
structure Report.Stats where
  executed : Nat
  reused : Nat
  faulted : Nat
deriving DecidableEq

/-- The number of computations counted. -/
def Report.Stats.total (stats : Report.Stats) : Nat :=
  stats.executed + stats.reused + stats.faulted

/-- The inspection text of the numbers. -/
def Report.Stats.inspected (stats : Report.Stats) : String :=
  s!"RunStats \x7b executed: {stats.executed}, reused: {stats.reused}, " ++
    s!"faulted: {stats.faulted} \x7d"

/-- How many of the computations had each outcome. -/
def Report.Stats.ofComputed (computed : List Computed) : Report.Stats where
  executed := computed.countP (·.outcome = .executed)
  reused := computed.countP (·.outcome = .reused)
  faulted := computed.countP (·.outcome = .faulted)

/-- What a completed run gave. -/
structure Report where
  /-- the pipeline that was run -/
  pipeline : Nat
  /-- which of its driver's completed runs this is, counted from 1 -/
  run : Nat
  /-- the computations, in the order in which they ended -/
  computed : List Computed
  /-- the steps in the same order, if they were recorded -/
  steps : List Report.Step
deriving DecidableEq

namespace Report

/-- The table of the node with this number. -/
def find? (report : Report) (id : NodeId) : Option (Table Value) :=
  (Computed.find? report.computed id).map Computed.table

/-- The computations that gave the nodes their tables. -/
def latest (report : Report) : List Computed :=
  Computed.latest report.computed

/-- The table of a node. Handles of other pipelines are refused. -/
def table (report : Report) (handle : Handle) : Except Error (Table Value) :=
  if handle.pipeline = report.pipeline then
    match report.find? handle.node with
    | some table => .ok table
    | none => .error (.unknownNode handle.node)
  else
    .error (.unknownNode handle.node)

/-- The condition of the table of the node with this number. -/
def condition? (report : Report) (id : NodeId) : Option Condition :=
  (report.find? id).map Table.condition

/-- The fault of every faulted node, in order of their numbers. -/
def faults (report : Report) : List (NodeId × Fault) :=
  (report.latest.filterMap fun c => c.table.fault?.map (c.node, ·)).mergeSort
    (fun a b => a.1.raw ≤ b.1.raw)

/-- Did any node fail? -/
def isFaulted (report : Report) : Bool :=
  report.latest.any (·.table.isFaulted)

/-- How many computations had each outcome. -/
def stats (report : Report) : Stats :=
  .ofComputed report.computed

/-- The number of nodes with a table. -/
def size (report : Report) : Nat :=
  report.latest.length

/-- The inspection text of a report. -/
def inspected (report : Report) : String :=
  s!"RunResult \x7b run: {report.run}, nodes: {report.size}, stats: " ++
    report.stats.inspected ++ " \x7d"

end Report

end DeltaPipeline
