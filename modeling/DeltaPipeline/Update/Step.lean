import DeltaPipeline.Node.Program
import DeltaPipeline.Update.Journal

/-!
# `DeltaPipeline.Update.Step`: what an update may do besides computing

An update runs in an environment that user code may change, keeps a journal,
and may stop. What it changed before it stopped stays changed.

* `Ambient`: the environment and the journal, `Ambient.journal`.
* `StepM`: computations over them that may stop.
* `check`, `record`, `work`, `invoke`, `observe`, `publish`, `failWith`: the steps
  that updates are made of.
-/

set_option autoImplicit false

namespace DeltaPipeline

/-- What the updates of a run share besides their tables. -/
structure Ambient (σ : Type) where
  env : Env σ
  /-- The entries of the journal, the latest first. -/
  trail : List Event := []

namespace Ambient

variable {σ : Type}

/-- The journal, in the order in which its entries were made. -/
def journal (ambient : Ambient σ) : List Event :=
  ambient.trail.reverse

/-- Makes an entry in the journal. -/
def note (ambient : Ambient σ) (event : Event) : Ambient σ :=
  { ambient with trail := event :: ambient.trail }

/-- A note leaves the environment. -/
@[simp] theorem env_note (ambient : Ambient σ) (event : Event) :
    (ambient.note event).env = ambient.env := rfl

/-- An entry goes to the end of the journal. -/
@[simp] theorem journal_note (ambient : Ambient σ) (event : Event) :
    (ambient.note event).journal = ambient.journal ++ [event] := by
  simp [journal, note]

end Ambient

/-- A computation of an update. -/
abbrev StepM (σ : Type) := ExceptT Stop (StateM (Ambient σ))

namespace StepM

variable {σ α : Type}

/-- Stops if the run is cancelled. -/
def check : StepM σ Unit := do
  if (← get).env.cancelled then throw (.error .cancelled)

/-- Makes an entry in the journal. -/
def record (event : Event) : StepM σ Unit :=
  modify fun ambient => ambient.note event

/-- Logs a message. -/
def notice (message : Notice) : StepM σ Unit :=
  record (.noticed message)

/-- Records that the run was cancelled, if it is now and was not before. -/
def watch (node : NodeId) (signaller : Signaller) (before : Env σ) : StepM σ Unit := do
  if !before.cancelled && (← get).env.cancelled then
    record (.cancelled node signaller)

/-- Changes the environment and gives it as it was before. -/
def changeEnv (node : NodeId) (change : Env σ → Env σ) : StepM σ (Env σ) := do
  let before := (← get).env
  modify fun ambient => { ambient with env := change ambient.env }
  watch node .program before
  return before

/-- Runs host code that works for a node. If it gives up, so does the update. -/
def work (node : NodeId) (signaller : Signaller) (code : UserCode σ α) : StepM σ α := do
  let before := (← get).env
  let (answer, env) := code.run.run before
  modify fun ambient => { ambient with env }
  watch node signaller before
  match answer with
  | .ok a => return a
  | .error panic => throw (.panic panic)

/-- Runs the function of a node. -/
def perform (node : NodeId) (code : UserCode σ α) : StepM σ α :=
  work node .function code

/-- Calls host code of a node with an argument. -/
def invoke (node : NodeId) (argument : Value) (code : UserCode σ α) : StepM σ α := do
  record (.called node argument)
  perform node code

/-- What comparing two values does besides deciding. -/
def observeOne (node : NodeId) (comparer : Comparer σ) (previous current : Value) :
    StepM σ Unit :=
  work node .comparer (comparer.effect previous current)

/-- What comparing pairs of values in order does besides deciding. -/
def observe (node : NodeId) (comparer : Comparer σ) : List (Value × Value) → StepM σ Unit
  | [] => return ()
  | (previous, current) :: rest => do
    observeOne node comparer previous current
    observe node comparer rest

/-- Finishes a draft, with a message for each remark on it. -/
def publish (draft : Draft Value) : StepM σ (Table Value) := do
  draft.finalRemarks.forM fun remark => notice (.written remark)
  return draft.finish

/-- Revises the next group of a draft by a comparer, or adds the values if no
group is left. -/
def reviseOrAdd (node : NodeId) (comparer : Comparer σ) (draft : Draft Value)
    (values : List Value) : StepM σ (Draft Value) := do
  observe node comparer (draft.comparisons values)
  return draft.reviseOrAdd comparer.equals values

/-- The end of an update whose user function failed. A run that was cancelled
meanwhile reports the cancellation and not the failure. -/
def failWith (node : NodeId) (fault : Fault) : StepM σ Product := do
  check
  notice (.raised node fault)
  return .table (.faulted fault)

end StepM

end DeltaPipeline
