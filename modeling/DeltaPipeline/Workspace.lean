import DeltaPipeline.Driver.Run

/-!
# `DeltaPipeline.Workspace`: several pipelines and drivers side by side

A workspace holds pipelines, each numbered by its position, and the drivers that
pipelines were given to. All runs go on in one host, which has a state of its own and
cancellation tokens. Everything a host can do to them is a command.

* `Shared`: the state of the host and the tokens.
* `Workspace`: the pipelines and drivers, and what they share.
* `Workspace.Command`, `Workspace.Answer`: the commands and their answers.
* `Workspace.perform`: carries out a command.
-/

set_option autoImplicit false

namespace DeltaPipeline

/-- What the pipelines of a workspace share through the host. -/
structure Shared (σ : Type) where
  /-- The flags of cancellation tokens, each token numbered by its position. A clone
  shares the flag of a token, and is the same token here. -/
  tokens : List Bool := []
  /-- The state of the host. -/
  host : σ

namespace Shared

variable {σ : Type}

/-- Something to do with the tokens or the state of the host. -/
inductive Command (σ : Type) where
  /-- makes a token -/
  | token
  /-- cancels a token, or resets it -/
  | signal (token : Nat) (cancelled : Bool)
  /-- something that the host does in between -/
  | act (change : σ → σ)

/-- What came of it. -/
inductive Answer where
  | made (token : Nat)
  | done

/-- Changes the state of the host. -/
def mapHost (shared : Shared σ) (change : σ → σ) : Shared σ :=
  { shared with host := change shared.host }

/-- Carries out a command. There is no answer to one about a token that does not exist. -/
def perform (shared : Shared σ) : Command σ → Option (Answer × Shared σ)
  | .token =>
    some (.made shared.tokens.length, { shared with tokens := shared.tokens ++ [false] })
  | .signal token cancelled =>
    if token < shared.tokens.length then
      some (.done, { shared with tokens := shared.tokens.set token cancelled })
    else none
  | .act change => some (.done, shared.mapHost change)

/-- The environment of a run with a token, or with a token of its own. -/
def env? (shared : Shared σ) : Option Nat → Option (Env σ)
  | some token => shared.tokens[token]?.map fun cancelled => { host := shared.host, cancelled }
  | none => some { host := shared.host }

/-- What a run with the token leaves. -/
def leave (shared : Shared σ) (token : Option Nat) (env : Env σ) : Shared σ where
  tokens :=
    match token with
    | some token => shared.tokens.set token env.cancelled
    | none => shared.tokens
  host := env.host

end Shared

/-- Pipelines and drivers side by side. -/
structure Workspace (σ : Type) where
  /-- All pipelines. The number of a pipeline is its position. -/
  pipelines : List (Pipeline σ) := []
  /-- All drivers, each with the pipeline it was given. -/
  drivers : List (Driver σ) := []
  shared : Shared σ

namespace Workspace

variable {σ : Type}

/-- Something to do with a pipeline or driver, or with what they share. -/
inductive Command (σ : Type) where
  /-- makes a pipeline -/
  | create
  | declare (pipeline : Nat) (declaration : Declaration σ)
  | setName (pipeline : Nat) (handle : Handle) (name : String)
  /-- gives a pipeline to a new driver -/
  | drive (pipeline : Nat) (tracksSteps : Bool)
  | change (driver : Nat) (change : Driver.Change σ)
  /-- runs a driver with a token, or with one of its own -/
  | run (driver : Nat) (token : Option Nat)
  | shared (command : Shared.Command σ)

/-- What came of a command. -/
inductive Answer (σ : Type) where
  | created (pipeline : Nat)
  | declared (handle : Handle)
  | driving (driver : Nat)
  | done
  /-- a handle of another pipeline was given to a pipeline -/
  | foreign (handle : ForeignHandle)
  /-- a driver refused a change -/
  | refused (e : Error)
  | ran (ran : Ran σ)
  | shared (answer : Shared.Answer)

/-- Was the pipeline given to a driver? Then nothing more can be declared. -/
def isDriven (workspace : Workspace σ) (pipeline : Nat) : Bool :=
  workspace.drivers.any (·.pipeline.id = pipeline)

/-- The pipeline with this number, as long as it is not given to a driver. -/
def open? (workspace : Workspace σ) (number : Nat) : Option (Pipeline σ) :=
  if workspace.isDriven number then none else workspace.pipelines[number]?

/-- Puts another pipeline in the place of one. -/
def setPipeline (workspace : Workspace σ) (number : Nat) (pipeline : Pipeline σ) :
    Workspace σ :=
  { workspace with pipelines := workspace.pipelines.set number pipeline }

/-- Puts another driver in the place of one. -/
def setDriver (workspace : Workspace σ) (number : Nat) (driver : Driver σ) : Workspace σ :=
  { workspace with drivers := workspace.drivers.set number driver }

/-- Carries out a command. There is no answer to a command about a pipeline, driver or
token that does not exist, nor to the declaration of anything in a pipeline that was
given to a driver. What a run changes of the host and of its token stays changed, also
if the run stops. -/
def perform (workspace : Workspace σ) : Command σ → Option (Answer σ × Workspace σ)
  | .create =>
    let number := workspace.pipelines.length
    some (.created number,
      { workspace with pipelines := workspace.pipelines ++ [{ id := number }] })
  | .declare number declaration => do
    let pipeline ← workspace.open? number
    match pipeline.declare declaration with
    | .error foreign => return (.foreign foreign, workspace)
    | .ok (handle, pipeline) => return (.declared handle, workspace.setPipeline number pipeline)
  | .setName number handle name => do
    let pipeline ← workspace.open? number
    match pipeline.setName handle name with
    | .error foreign => return (.foreign foreign, workspace)
    | .ok pipeline => return (.done, workspace.setPipeline number pipeline)
  | .drive number tracksSteps => do
    let pipeline ← workspace.open? number
    return (.driving workspace.drivers.length,
      { workspace with drivers := workspace.drivers ++ [{ pipeline, tracksSteps }] })
  | .change number change => do
    let driver ← workspace.drivers[number]?
    match driver.change change with
    | .error e => return (.refused e, workspace)
    | .ok driver => return (.done, workspace.setDriver number driver)
  | .run number token => do
    let driver ← workspace.drivers[number]?
    let env ← workspace.shared.env? token
    let ran := driver.run env
    return (.ran ran,
      { workspace.setDriver number ran.driver with
        shared := workspace.shared.leave token ran.env })
  | .shared command => do
    let (answer, shared) ← workspace.shared.perform command
    return (.shared answer, { workspace with shared })

end Workspace

end DeltaPipeline
