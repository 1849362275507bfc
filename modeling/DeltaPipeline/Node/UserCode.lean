import DeltaPipeline.Error

/-!
# `DeltaPipeline.Node.UserCode`: code the host supplies

User functions are programs of the host. Besides computing an answer they may
read and change the host's own state, cancel the run, or give up with a panic.

* `Env`: what user code sees: the host's state and the run's cancellation flag.
* `UserCode`: a program over an environment.
-/

set_option autoImplicit false

namespace DeltaPipeline

/-- What user code sees and may change. The host's state is of type `σ`. -/
structure Env (σ : Type) where
  host : σ
  /-- Is the run in progress cancelled? -/
  cancelled : Bool := false

/-- A program of the host. What it changed stays changed when it gives up. -/
abbrev UserCode (σ α : Type) := ExceptT Panic (StateM (Env σ)) α

namespace UserCode

variable {σ : Type}

/-- Cancels the run in progress. -/
def cancel : UserCode σ Unit :=
  modify fun env => { env with cancelled := true }

/-- Is the run in progress cancelled? -/
def isCancelled : UserCode σ Bool := do
  return (← get).cancelled

/-- The host's own state. -/
def host : UserCode σ σ := do
  return (← get).host

/-- Changes the host's own state. -/
def modifyHost (f : σ → σ) : UserCode σ Unit :=
  modify fun env => { env with host := f env.host }

/-- Rewriting the answer of code changes nothing else. -/
theorem run_map {α β : Type} (code : UserCode σ α) (f : α → β) (env : Env σ) :
    (do return f (← code) : UserCode σ β).run.run env
      = ((code.run.run env).1.map f, (code.run.run env).2) := by
  rw [ExceptT.run_bind, StateT.run_bind]
  rcases code.run.run env with ⟨_ | _, _⟩ <;> rfl

end UserCode

end DeltaPipeline
