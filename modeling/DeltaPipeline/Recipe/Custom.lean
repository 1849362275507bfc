import DeltaPipeline.Node.Basic
import DeltaPipeline.Recipe.Function
import DeltaPipeline.Table.Baseline
import DeltaPipeline.Table.Edit

/-!
# `DeltaPipeline.Recipe.Custom`: custom nodes as data

Three kinds of custom nodes, described by data.

* `Script`: writes a table by given operations, others in each run.
* `Survey`: lists what it finds in the tables of other nodes.
* `Reading`: lists what is set on the driver for a node.
-/

set_option autoImplicit false

namespace DeltaPipeline

namespace Program

variable {σ α : Type}

/-- Runs user code. -/
def perform (code : UserCode σ α) : Program σ α :=
  .env (fun env => (code.run.run env).2) fun env =>
    match (code.run.run env).1 with
    | .ok a => .done a
    | .error panic => .stop (.panic panic)

/-- Stops if the run is cancelled. -/
def check : Program σ Unit :=
  .env id fun env => if env.cancelled then .stop (.error .cancelled) else .done ()

/-- Revises the next group of a draft by a comparer, or adds the values if no
group is left. -/
def reviseOrAdd (comparer : Comparer σ) (draft : Draft Value) (values : List Value) :
    Program σ (Draft Value) :=
  .observe comparer (draft.comparisons values)
    (.done (draft.reviseOrAdd comparer.equals values))

/-- Carries out operations on a draft in order. -/
def editAll : List (Edit Value Rule) → Draft Value → Program Host (Draft Value)
  | [], draft => .done draft
  | edit :: edits, draft =>
    let next := editAll edits (draft.perform Rule.equals edit).2
    match edit.compared? with
    | some (values, rule) => .observe rule.comparer (draft.comparisons values) next
    | none => next

/-- Finishes a draft as the table of the node. -/
def finish (draft : Draft Value) : Program σ Product :=
  .publish draft fun table => .done (.table table)

/-- The node known by this name. -/
def handle (name : String) : Program Host Handle := do
  match (← perform UserCode.host).handles.lookup name with
  | some handle => return handle
  | none => .stop (.error (.invalidState (.reported s!"no node is named {name}")))

end Program

/-! ### Scripts -/

/-- What a script gives in the end. -/
inductive Script.Ending where
  /-- the table it wrote -/
  | written
  /-- the baseline form of the table it wrote -/
  | cached
  /-- its baseline -/
  | baseline
  /-- an empty table -/
  | empty
  /-- an error -/
  | fails (e : Error)
  /-- a fault of its own -/
  | faults (cause : Cause)

/-- What a script does in one run. -/
structure Script.Act where
  /-- the nodes it pulls, by name -/
  pulls : List String := []
  /-- the run is cancelled -/
  cancels : Bool := false
  edits : List (Edit Value Rule) := []
  ending : Script.Ending := .written

/-- What a script does in the runs it takes part in, the last act over and over. -/
abbrev Script := List Script.Act

/-- The product that an ending stands for, given the table written. -/
def Script.Ending.product (table : Table Value) : Script.Ending → Program Host Product
  | .written => return .table table
  | .cached => return .table table.asCached
  | .baseline => return .unchanged
  | .empty => return .table .empty
  | .fails e => .stop (.error e)
  | .faults cause => do return .table (.faulted (← .perform (Host.raise cause)))

/-- Carries out one act. -/
def Script.Act.program (act : Script.Act) (baseline : Table Value) :
    Program Host Product := do
  act.pulls.forM fun name => do
    discard (Program.ask (← Program.handle name))
  if act.cancels then Program.perform UserCode.cancel
  let draft ← Program.editAll act.edits (.against baseline)
  Program.publish draft act.ending.product

/-- The program of a scripted node. Its call number, from 0, picks the act. -/
def Script.program (script : Script) (name : String) (_self : NodeId)
    (baseline : Table Value) : Program Host Product := do
  let call ← Program.perform (Host.countCall name)
  Program.call (.int (Int64.ofNat (call - 1))) (.done ())
  match script[min (call - 1) (script.length - 1)]? with
  | some act => act.program baseline
  | none => Program.finish (.against baseline)

/-- The role of a scripted node. From the last act on it does the same over and
over. -/
def Script.role {ref : Type} (script : Script) (name : String) : Role Host ref :=
  .custom "script" script.length (script.program name)

/-! ### Surveys -/

/-- The nodes to look at, by name. -/
abbrev Survey := List String

/-- What a survey notes about a node: its condition, whether two pulls gave the
same table, and its values. -/
def Survey.finding (first second : Computed) : List Value :=
  [.text first.table.condition.name, .bool (first.serial == second.serial),
    .list first.table.values]

/-- Looks at nodes in order. -/
def Survey.write (comparer : Comparer Host) : Survey → Draft Value → Program Host (Draft Value)
  | [], draft => return draft
  | name :: names, draft => do
    Program.check
    let handle ← Program.handle name
    let first ← Program.ask handle
    let second ← Program.ask handle
    let draft ← Program.reviseOrAdd comparer draft (finding first second)
    Survey.write comparer names draft

/-- The program of a survey. -/
def Survey.program (survey : Survey) (self : NodeId) (baseline : Table Value) :
    Program Host Product :=
  .override self .value fun comparer => do
    Program.finish (← survey.write (comparer.getD .structural) (.against baseline))

/-- The role of a survey. -/
def Survey.role {ref : Type} (survey : Survey) : Role Host ref :=
  .custom "pull" 0 survey.program

/-! ### Readings -/

/-- The node whose settings are read, and as what type. -/
structure Reading where
  node : NodeId
  type : ElementType

/-- The program of a reading: the values set on the node, then whether a comparer
of values and one of bytes is set on it. -/
def Reading.program (reading : Reading) (_self : NodeId) (baseline : Table Value) :
    Program Host Product :=
  .input reading.node reading.type fun
    | .error e => .stop (.error e)
    | .ok values =>
      .override reading.node .value fun ofValues =>
        .override reading.node .byte fun ofBytes => do
          let draft ← Program.reviseOrAdd .structural (.against baseline) values
          let draft ← Program.reviseOrAdd .structural draft
            [.bool ofValues.isSome, .bool ofBytes.isSome]
          Program.finish draft

/-- The role of a reading. -/
def Reading.role {ref : Type} (reading : Reading) : Role Host ref :=
  .custom "reader" 0 reading.program

end DeltaPipeline
