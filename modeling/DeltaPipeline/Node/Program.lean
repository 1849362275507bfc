import DeltaPipeline.Comparer
import DeltaPipeline.Node.UserCode
import DeltaPipeline.Table.Draft
import DeltaPipeline.Update.Product

/-!
# `DeltaPipeline.Node.Program`: what a custom node does in a run

A host may add nodes of kinds of its own. What such a node does in a run is a
program: it may ask for the tables of other nodes and for what was set on the
driver, look at its environment and change it, and write a table. What a pull
gives it may be an error, which it may handle or pass on.

* `Handle`: a reference to a node, good for the pipeline that declared it only.
* `Program`: the programs, with `do` notation.
* `Program.ask`: a pull whose error is passed on.
-/

set_option autoImplicit false

namespace DeltaPipeline

/-- A reference to a node of some pipeline. -/
structure Handle where
  /-- the pipeline that declared the node -/
  pipeline : Nat
  node : NodeId
  element : ElementType
deriving DecidableEq

/-- The inspection text of a handle to a node of this kind. -/
def Handle.inspected (handle : Handle) (kind : Kind) : String :=
  s!"NodeHandle \x7b id: {handle.node.inspected}, kind: " ++
    Text.Convention.inspection.quote kind.name ++ " \x7d"

/-- Why an operation of a run ends without an answer. -/
inductive Stop where
  /-- an error, for instance a cancellation -/
  | error (e : Error)
  /-- host code gave up -/
  | panic (p : Panic)
  /-- too many nodes wait for one another -/
  | tooDeep
deriving DecidableEq

/-- What a custom node does in a run. -/
inductive Program (σ α : Type) where
  | done (answer : α)
  | stop (reason : Stop)
  /-- asks for a node's table of this run, and is told of an error if there is none -/
  | pull (source : Handle) (next : Except Error Computed → Program σ α)
  /-- asks for the values set on an input -/
  | input (node : NodeId) (type : ElementType) (next : Except Error (List Value) → Program σ α)
  /-- asks for the comparer set on a node in place of its own -/
  | override (node : NodeId) (type : ElementType) (next : Option (Comparer σ) → Program σ α)
  /-- changes the environment; goes on with how it was before -/
  | env (change : Env σ → Env σ) (next : Env σ → Program σ α)
  /-- compares pairs of values, for what comparing them does besides deciding -/
  | observe (comparer : Comparer σ) (pairs : List (Value × Value)) (next : Program σ α)
  /-- records a call of host code with an argument -/
  | call (argument : Value) (next : Program σ α)
  /-- finishes a draft -/
  | publish (draft : Draft Value) (next : Table Value → Program σ α)

namespace Program

variable {σ α β : Type}

/-- One program after the other. -/
def bind : Program σ α → (α → Program σ β) → Program σ β
  | .done answer, f => f answer
  | .stop reason, _ => .stop reason
  | .pull source next, f => .pull source fun result => (next result).bind f
  | .input node type next, f => .input node type fun values => (next values).bind f
  | .override node type next, f => .override node type fun comparer => (next comparer).bind f
  | .env change next, f => .env change fun env => (next env).bind f
  | .observe comparer pairs next, f => .observe comparer pairs (next.bind f)
  | .call argument next, f => .call argument (next.bind f)
  | .publish draft next, f => .publish draft fun table => (next table).bind f

instance : Monad (Program σ) where
  pure := .done
  bind := bind

/-- Pulls a node, and passes on the error if there is one. -/
def ask (source : Handle) : Program σ Computed :=
  .pull source fun
    | .ok computed => .done computed
    | .error e => .stop (.error e)

end Program

end DeltaPipeline
