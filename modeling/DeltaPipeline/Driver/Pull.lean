import DeltaPipeline.Driver.Basic
import DeltaPipeline.Update.Batch
import DeltaPipeline.Update.Combine
import DeltaPipeline.Update.Input
import DeltaPipeline.Update.Transform

/-!
# `DeltaPipeline.Driver.Pull`: the tables of a run, computed on demand

In a run nodes pull the tables of other nodes. The first pull of a node computes
its table, later ones give the same.

* `Scratch`: the tables computed so far; `RunM`: computations over them.
* `RunM.attempt`: a computation whose error is handed over.
* `Program.exec`: carries out the program of a custom node.
* `Driver.update`: the update of a node, given how to pull others.
* `Driver.compute`: the update with its bookkeeping.
* `Driver.pull`: a node's table, computed if it is not there.

A custom node that is pulled while it is at work, by a node it waits for, begins
anew. That may end, since its program may do otherwise the second time, or go on
for ever, so `Driver.pull` gives up when too many nodes wait for one another.
`Driver.depth` says how many are too many. Of more nodes in a row than the
pipeline has, one waits for itself. Unless a custom node took one of its turns
between its two beginnings or a first table of some node was done, the second is
as the first and there will be a third. Turns and first tables are limited, so
among as many waiting nodes as `depth` says there is one that waits for ever.
-/

set_option autoImplicit false

namespace DeltaPipeline

/-- The state of a run in progress. -/
structure Scratch (σ : Type) where
  ambient : Ambient σ
  /-- The computations that ended, the latest first. -/
  ended : List Computed := []

namespace Scratch

variable {σ : Type}

/-- The computations that ended, in order. -/
def computed (scratch : Scratch σ) : List Computed :=
  scratch.ended.reverse

/-- The table of this node, if it is there. -/
def find? (scratch : Scratch σ) (id : NodeId) : Option Computed :=
  scratch.ended.find? (·.node = id)

/-- Adds a computation that just ended. -/
def add (scratch : Scratch σ) (last : Computed) : Scratch σ :=
  { scratch with ended := last :: scratch.ended }

/-- The table that is there is that of the last computation. -/
theorem find?_eq (scratch : Scratch σ) (id : NodeId) :
    scratch.find? id = Computed.find? scratch.computed id := by
  simp [find?, Computed.find?, computed]

/-- A computation that just ended comes after the others. -/
@[simp] theorem computed_add (scratch : Scratch σ) (last : Computed) :
    (scratch.add last).computed = scratch.computed ++ [last] := by
  simp [computed, add]

end Scratch

/-- A computation of a run. -/
abbrev RunM (σ : Type) := ExceptT Stop (StateM (Scratch σ))

/-- An update's step as part of a run. It leaves the tables alone. -/
def RunM.step {σ α : Type} (action : StepM σ α) : RunM σ α := do
  let scratch ← get
  let (answer, ambient) := action.run.run scratch.ambient
  set { scratch with ambient }
  match answer with
  | .ok a => return a
  | .error stop => throw stop

/-- What the computation gives, or the error that it stops with. A panic and too many nodes
that wait for one another are not held back. -/
def RunM.attempt {σ α : Type} (m : RunM σ α) : RunM σ (Except Error α) :=
  tryCatch (return .ok (← m)) fun
    | .error e => return .error e
    | stop => throw stop

/-- Carries out the program of a custom node. -/
def Program.exec {σ α : Type} (driver : Driver σ) (self : NodeId)
    (pull : Handle → RunM σ Computed) : Program σ α → RunM σ α
  | .done answer => return answer
  | .stop reason => throw reason
  | .pull source next => do (next (← (pull source).attempt)).exec driver self pull
  | .input node type next => (next (driver.inputValues node type)).exec driver self pull
  | .override node type next => (next (driver.override? node type)).exec driver self pull
  | .env change next => do
    (next (← RunM.step (StepM.changeEnv self change))).exec driver self pull
  | .observe comparer pairs next => do
    RunM.step (StepM.observe self comparer pairs)
    next.exec driver self pull
  | .call argument next => do
    RunM.step (StepM.record (.called self argument))
    next.exec driver self pull
  | .publish draft next => do
    (next (← RunM.step (StepM.publish draft))).exec driver self pull

namespace Driver

variable {σ : Type}

/-- Pulls a node by handle. Handles of other pipelines are refused. -/
def pullHandle (driver : Driver σ) (pull : NodeId → RunM σ Computed) (handle : Handle) :
    RunM σ Computed :=
  if driver.pipeline.owns handle then pull handle.node
  else throw (.error (.unknownNode handle.node))

/-- The site of an update of a node whose sources are pulled. -/
def currentSite (driver : Driver σ) (id : NodeId) : RunM σ Site := do
  return driver.site id ((← get).ended.countP (·.node = id))

/-- The update of a node, given how to pull others. The nodes of the library check
for cancellation before they pull their sources. -/
def update (driver : Driver σ) (pull : NodeId → RunM σ Computed) (id : NodeId)
    (node : Node σ) : RunM σ Product := do
  let comparer := driver.comparer id node
  let baseline := driver.baseline id
  match node.role with
  | .input =>
    RunM.step StepM.check
    match driver.inputValues id node.element with
    | .error e => throw (.error e)
    | .ok values => RunM.step (Input.update id comparer baseline values)
  | .transform source function =>
    RunM.step StepM.check
    let source ← pull source
    RunM.step (function.update (← driver.currentSite id) comparer baseline source.table)
  | .batch source function =>
    RunM.step StepM.check
    let source ← pull source
    RunM.step (Batch.update function (← driver.currentSite id) comparer baseline source.table)
  | .combine left right =>
    RunM.step StepM.check
    let left ← pull left
    let right ← pull right
    RunM.step (Combine.update (← driver.currentSite id) comparer baseline left.table right.table)
  | .custom _ _ program => (program id baseline).exec driver id (driver.pullHandle pull)

/-- Keeps the table that an update gave. -/
def settle (driver : Driver σ) (id : NodeId) (node : Node σ) (product : Product) :
    RunM σ Computed := do
  RunM.step (StepM.notice (.computed id node.kind product.outcome))
  let scratch ← get
  let computed : Computed :=
    { node := id
      table := product.resolve (driver.baseline id)
      outcome := product.outcome
      serial := scratch.ended.length }
  set (scratch.add computed)
  return computed

/-- Computes a node's table and keeps it. -/
def compute (driver : Driver σ) (pull : NodeId → RunM σ Computed) (id : NodeId) :
    RunM σ Computed := do
  RunM.step StepM.check
  match driver.pipeline.node? id with
  | none => throw (.error (.unknownNode id))
  | some node =>
    RunM.step (StepM.record (.entered id))
    let product ← driver.update pull id node
    driver.settle id node product

/-- A node's table if it is there, and else what `compute` gives. -/
def memoized (id : NodeId) (compute : RunM σ Computed) : RunM σ Computed := do
  match (← get).find? id with
  | some computed => return computed
  | none => compute

/-- How many nodes may wait for one another: a row longer than the pipeline for
each turn, for each first table, and once more. -/
def depth (driver : Driver σ) : Nat :=
  (driver.pipeline.size + 1) * (driver.pipeline.turns + driver.pipeline.size + 1)

/-- All nodes of a pipeline may wait for one another. -/
theorem size_lt_depth (driver : Driver σ) : driver.pipeline.size < driver.depth :=
  Nat.lt_of_lt_of_le (Nat.lt_succ_self _) (Nat.le_mul_of_pos_right _ (Nat.succ_pos _))

/-- A node's table of the run, computed if it is not there, with at most `depth`
nodes waiting for one another. -/
def pull (driver : Driver σ) : Nat → NodeId → RunM σ Computed
  | 0, id => memoized id (throw .tooDeep)
  | depth + 1, id => memoized id (driver.compute (driver.pull depth) id)

end Driver

end DeltaPipeline
