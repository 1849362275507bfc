import DeltaPipeline.Driver.Pull
import DeltaPipeline.Driver.Report
import DeltaPipeline.Table.Baseline

/-!
# `DeltaPipeline.Driver.Run`: running a pipeline

A run pulls every node in order of declaration. If it completes, its tables
become the baselines of the next run. If it stops, the driver stays as it was.

* `Driver.visitAll`: pulls nodes in order, and says where a run was abandoned.
* `Driver.advance`: the driver after a run that completed.
* `Driver.run`: one run, with its effects on the driver and the environment.
-/

set_option autoImplicit false

namespace DeltaPipeline

/-- What came of a run. -/
structure Ran (σ : Type) where
  /-- the report of a completed run, or why the run stopped -/
  result : Except Stop Report
  /-- the driver after the run -/
  driver : Driver σ
  /-- the environment after the run -/
  env : Env σ
  journal : List Event

namespace Driver

variable {σ : Type}

/-- Abandons the run at a node. For an error there is a message that names the node. -/
def abandon (driver : Driver σ) (id : NodeId) (stop : Stop) : RunM σ Unit := do
  match stop, driver.pipeline.kind? id with
  | .error e, some kind =>
    RunM.step (StepM.notice (.runAbandoned (driver.runs + 1) id kind e))
  | _, _ => pure ()
  throw stop

/-- Pulls a node for the run itself. What stops the pull abandons the run. -/
def visit (driver : Driver σ) (id : NodeId) : RunM σ Unit :=
  tryCatch (discard (driver.pull driver.depth id)) (driver.abandon id)

/-- Pulls nodes in order. -/
def visitAll (driver : Driver σ) : List NodeId → RunM σ Unit
  | [] => return ()
  | id :: ids => do
    driver.visit id
    driver.visitAll ids

/-- The step that records a node's computation. -/
def stepOf? (driver : Driver σ) (computed : Computed) : Option Report.Step :=
  (driver.pipeline.kind? computed.node).map fun kind =>
    { node := computed.node
      name := driver.pipeline.names computed.node
      kind := kind
      outcome := computed.outcome
      condition := computed.table.condition
      counts := computed.table.counts }

/-- The report of a run with these computations. -/
def report (driver : Driver σ) (computed : List Computed) : Report where
  pipeline := driver.pipeline.id
  run := driver.runs + 1
  computed := computed
  steps := if driver.tracksSteps then computed.filterMap driver.stepOf? else []

/-- The driver after a run with these computations. -/
def advance (driver : Driver σ) (computed : List Computed) : Driver σ :=
  { driver with
    baselines := (Computed.latest computed).map fun c => (c.node, c.table.asCached)
    runs := driver.runs + 1 }

/-- The journal of a run begins with a message that it started. -/
def start (driver : Driver σ) (env : Env σ) : Scratch σ where
  ambient :=
    { env
      trail := [.noticed (.runStarted (driver.runs + 1) driver.pipeline.size)] }

/-- Runs the pipeline in an environment. -/
def run (driver : Driver σ) (env : Env σ) : Ran σ :=
  let (answer, scratch) := (driver.visitAll driver.pipeline.ids).run.run (driver.start env)
  match answer with
  | .error stop =>
    { result := .error stop
      driver
      env := scratch.ambient.env
      journal := scratch.ambient.journal }
  | .ok () =>
    let report := driver.report scratch.computed
    let stats := report.stats
    { result := .ok report
      driver := driver.advance scratch.computed
      env := scratch.ambient.env
      journal := scratch.ambient.journal ++
        [.noticed (.runFinished report.run stats.executed stats.reused stats.faulted)] }

end Driver

end DeltaPipeline
