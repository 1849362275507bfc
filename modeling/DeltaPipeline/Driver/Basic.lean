import DeltaPipeline.Pipeline
import DeltaPipeline.Update.Journal

/-!
# `DeltaPipeline.Driver.Basic`: a pipeline with what it keeps between runs

A driver owns a pipeline, the values and comparers set for it, and the
baselines that its last completed run left.

* `Driver`: the state.
* `Driver.setInput`, `Driver.clearInput`, `Driver.setComparer`,
  `Driver.clearComparer`, `Driver.reset`: the changes between runs.
* `Driver.inputValues`, `Driver.override?`, `Driver.baseline?`: what a run reads.
* `Driver.Change`, `Driver.change`: the changes as data, and carrying one out.
-/

set_option autoImplicit false

namespace DeltaPipeline

/-- A pipeline with what it keeps between runs. -/
structure Driver (σ : Type) where
  pipeline : Pipeline σ
  /-- Are the steps of runs recorded? -/
  tracksSteps : Bool := false
  /-- For each node the baseline of the last completed run, if there was one. -/
  baselines : List (NodeId × Table Value) := []
  /-- The values set on inputs. -/
  inputs : NodeId → Option (List Value) := fun _ => none
  /-- The comparers set in place of declared ones. -/
  overrides : NodeId → Option (Comparer σ) := fun _ => none
  /-- The number of completed runs. -/
  runs : Nat := 0

/-- The map with another value at one node. -/
def NodeId.update {α : Type} (map : NodeId → α) (id : NodeId) (a : α) : NodeId → α :=
  fun node => if node = id then a else map node

/-- A map that is updated gives the new value at the node. -/
@[simp] theorem NodeId.update_self {α : Type} (map : NodeId → α) (id : NodeId) (a : α) :
    id.update map a id = a := by
  simp [NodeId.update]

/-- A map that is updated gives the old values elsewhere. -/
theorem NodeId.update_of_ne {α : Type} (map : NodeId → α) {id node : NodeId} (a : α)
    (h : node ≠ id) : id.update map a node = map node := by
  simp [NodeId.update, h]

namespace Driver

variable {σ : Type}

/-! ### Changes between runs -/

/-- Sets the values an input gives from the next run on. An input is known by the name of its
kind, which a custom node may have as well. -/
def setInput (driver : Driver σ) (handle : Handle) (values : List Value) :
    Except Error (Driver σ) :=
  if driver.pipeline.owns handle then
    match driver.pipeline.kind? handle.node with
    | none => .error (.unknownNode handle.node)
    | some kind =>
      if kind.name = "input" then
        .ok { driver with inputs := handle.node.update driver.inputs (some values) }
      else
        .error (.invalidState (.notAnInput handle.node kind))
  else
    .error (.unknownNode handle.node)

/-- Takes back the values of an input, which then gives none. Handles of other
pipelines are ignored. -/
def clearInput (driver : Driver σ) (handle : Handle) : Driver σ :=
  if driver.pipeline.owns handle then
    { driver with inputs := handle.node.update driver.inputs none }
  else
    driver

/-- Sets the comparer of a node from the next run on, in place of its own. -/
def setComparer (driver : Driver σ) (handle : Handle) (comparer : Comparer σ) :
    Except Error (Driver σ) :=
  if driver.pipeline.owns handle then
    .ok { driver with overrides := handle.node.update driver.overrides (some comparer) }
  else
    .error (.unknownNode handle.node)

/-- Gives a node back its own comparer. Handles of other pipelines are ignored. -/
def clearComparer (driver : Driver σ) (handle : Handle) : Driver σ :=
  if driver.pipeline.owns handle then
    { driver with overrides := handle.node.update driver.overrides none }
  else
    driver

/-- Drops every baseline: the next run computes all nodes anew. -/
def reset (driver : Driver σ) : Driver σ :=
  { driver with baselines := [] }

/-! ### What a run reads -/

/-- The baseline of the node with this number. -/
def baseline? (driver : Driver σ) (id : NodeId) : Option (Table Value) :=
  driver.baselines.lookup id

/-- The baseline a node compares with: an empty table if there is none. -/
def baseline (driver : Driver σ) (id : NodeId) : Table Value :=
  (driver.baseline? id).getD .empty

/-- The baseline of a node, for a handle of this driver's pipeline. -/
def baselineOf? (driver : Driver σ) (handle : Handle) : Option (Table Value) :=
  if handle.pipeline = driver.pipeline.id then driver.baseline? handle.node else none

/-- The values set on an input, none if nothing was set. They can be read as what
the elements of the input are and as nothing else. -/
def inputValues (driver : Driver σ) (id : NodeId) (type : ElementType) :
    Except Error (List Value) :=
  match driver.inputs id with
  | none => .ok []
  | some values =>
    if driver.pipeline.element? id = some type then .ok values
    else .error (.typeMismatch id type)

/-- The comparer set on a node, if it compares elements of this type. -/
def override? (driver : Driver σ) (id : NodeId) (type : ElementType) : Option (Comparer σ) :=
  if driver.pipeline.element? id = some type then driver.overrides id else none

/-- The comparer in effect for a node: the one set on it, or else its own. -/
def comparer (driver : Driver σ) (id : NodeId) (node : Node σ) : Comparer σ :=
  (driver.overrides id).getD node.comparer

/-- A comparer that is set on a node is in effect for it and for no other node. -/
theorem comparer_of_setComparer {driver next : Driver σ} {handle : Handle}
    {comparer : Comparer σ} (h : driver.setComparer handle comparer = .ok next) (id : NodeId)
    (node : Node σ) :
    next.comparer id node = if id = handle.node then comparer else driver.comparer id node := by
  unfold setComparer at h
  split at h
  · cases h
    by_cases hid : id = handle.node <;> simp [Driver.comparer, NodeId.update, hid]
  · cases h

/-- A node whose comparer is taken back has its own again, and no other node is concerned. -/
theorem comparer_clearComparer {driver : Driver σ} {handle : Handle}
    (h : driver.pipeline.owns handle = true) (id : NodeId) (node : Node σ) :
    (driver.clearComparer handle).comparer id node
      = if id = handle.node then node.comparer else driver.comparer id node := by
  unfold clearComparer
  rw [if_pos h]
  by_cases hid : id = handle.node <;> simp [Driver.comparer, NodeId.update, hid]

/-- The update of a node in the next run, after so many others of it. -/
def site (driver : Driver σ) (id : NodeId) (attempt : Nat) : Site where
  pipeline := driver.pipeline.id
  run := driver.runs + 1
  node := id
  attempt := attempt

/-! ### Changes as data -/

/-- A change of a driver between runs. -/
inductive Change (σ : Type) where
  | setInput (handle : Handle) (values : List Value)
  | clearInput (handle : Handle)
  | setComparer (handle : Handle) (comparer : Comparer σ)
  | clearComparer (handle : Handle)
  | reset

/-- Carries out a change. A change that is refused changes nothing. -/
def change (driver : Driver σ) : Change σ → Except Error (Driver σ)
  | .setInput handle values => driver.setInput handle values
  | .clearInput handle => .ok (driver.clearInput handle)
  | .setComparer handle comparer => driver.setComparer handle comparer
  | .clearComparer handle => .ok (driver.clearComparer handle)
  | .reset => .ok driver.reset

/-- What is logged about a change. -/
def changeNotices (driver : Driver σ) : Change σ → List Notice
  | .reset => [.driverReset driver.runs]
  | _ => []

end Driver

end DeltaPipeline
