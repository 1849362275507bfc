import DeltaPipeline.Driver.Run
import DeltaPipeline.Recipe.Declaration

/-!
# `DeltaPipeline.Session.Command`: what can be asked of a session

* `Command`: the commands. Pipelines, drivers, tokens and reports go by number,
  nodes by name or by their number within the pipeline.
* `Answer`: what a command is answered with.
-/

set_option autoImplicit false

namespace DeltaPipeline

/-- A command to a session. -/
inductive Command where
  /-- makes a pipeline -/
  | pipeline
  /-- declares a node under a name -/
  | declare (pipeline : Nat) (name : String) (recipe : NodeRecipe)
  /-- gives a node a name for run steps -/
  | setName (pipeline : Nat) (node name : String)
  /-- gives a pipeline to a new driver -/
  | driver (pipeline : Nat) (tracks : Option Bool)
  /-- describes a pipeline, and whether it owns a node, and a node by number -/
  | describe (pipeline : Nat) (node : Option String) (id : Option NodeId)
  | setInput (driver : Nat) (node : String) (values : List Value)
  | clearInput (driver : Nat) (node : String)
  | setComparer (driver : Nat) (node : String) (rule : Rule)
  | clearComparer (driver : Nat) (node : String)
  /-- makes a token -/
  | token
  | cloneToken (token : Nat)
  | cancel (token : Nat)
  | resetToken (token : Nat)
  | checkToken (token : Nat)
  /-- runs a driver with a token, or with one of its own -/
  | run (driver : Nat) (token : Option Nat)
  | reset (driver : Nat)
  /-- shows the baseline of a node -/
  | state (driver : Nat) (node : String)
  | stateAt (driver : Nat) (id : NodeId)
  /-- shows the table of a node in a completed run -/
  | result (report : Nat) (node : String)
  | resultAt (report : Nat) (id : NodeId)

/-- What a pipeline has at a number. -/
structure Probe where
  id : NodeId
  contained : Bool
  kind : Option Kind
  name : Option String

/-- A description of a pipeline. -/
structure Description where
  size : Nat
  nodes : List (NodeId × Option Kind × Option String)
  owns : Option Bool
  probe : Option Probe

/-- The baselines of a driver. -/
structure StateView where
  runs : Nat
  /-- how many nodes have a baseline -/
  size : Nat
  /-- the baseline of each node, in order of declaration -/
  nodes : List (Option (Table Value))

/-- A completed run. -/
structure ReportView where
  report : Report
  /-- the table of each node, in order of declaration -/
  tables : List (Table Value)

/-- What came of a run. -/
structure RunView where
  result : Except Stop ReportView
  /-- the calls of host code, by the names of the nodes -/
  calls : List (String × Value)
  /-- is the token of the run cancelled now? -/
  cancelled : Bool
  state : StateView

/-- The answer to a command. -/
inductive Answer where
  | done
  | refused (error : Error)
  | foreign (foreign : ForeignHandle)
  | pipeline (number : Nat)
  | declared (handle : Handle) (kind : Kind)
  | driver (number : Nat) (tracks : Bool)
  | description (description : Description)
  | token (number : Nat)
  | tokenState (cancelled : Bool)
  | ran (run : RunView)
  | state (state : StateView)
  | baseline (contained : Bool) (condition : Option Condition) (table : Option (Table Value))
  | baselineAt (contained : Bool) (condition : Option Condition)
  | result (table : Table Value)
  | resultAt (condition : Option Condition) (report : Report)

end DeltaPipeline
