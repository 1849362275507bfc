import DeltaPipeline.Recipe.Rule
import DeltaPipeline.Table.Baseline
import DeltaPipeline.Table.Edit
import DeltaPipeline.Update.Journal

/-!
# `DeltaPipeline.Workbench.Tables`: making tables by hand

Tables are made one after the other, each from tables made before it, and
numbered from 0.

* `TableCommand`: the ways to make a table.
* `Workbench.makeTables`: makes tables in order.
-/

set_option autoImplicit false

namespace DeltaPipeline

/-- A way to make a table. -/
inductive TableCommand where
  | empty
  /-- a table that carries a fault -/
  | faulted (cause : Cause)
  /-- a table that carries on the fault of another -/
  | carryFault (table : Nat)
  /-- the baseline form of a table -/
  | asCached (table : Nat)
  | copy (table : Nat)
  /-- a table written over another -/
  | write (baseline : Nat) (edits : List (Edit Value Rule))

/-- What there is to say about the making of a table. -/
inductive TableCommand.Outcome where
  | plain
  /-- whether the table's fault is the one carried on -/
  | carried (same : Bool)
  /-- how each operation went, with the draft after it -/
  | written (steps : List (Edit.Reply Value × Draft Value))

/-- A table made, with the messages logged on the way. -/
structure TableReply where
  table : Table Value
  outcome : TableCommand.Outcome := .plain
  notices : List Notice := []

namespace Workbench

/-- Makes a table, given those made before it. -/
def makeTable (made : List (Table Value)) : TableCommand → Option TableReply
  | .empty => some { table := .empty }
  | .faulted cause => some { table := .faulted ⟨cause, .host made.length⟩ }
  | .carryFault number => do
    let source ← made[number]?
    let table : Table Value := source.carryFault (.host made.length)
    let same := match source.fault?, table.fault? with
      | some old, some new => new.sameCause old
      | _, _ => false
    return { table, outcome := .carried same }
  | .asCached number => do
    return { table := (← made[number]?).asCached }
  | .copy number => do
    return { table := ← made[number]? }
  | .write number edits => do
    let baseline ← made[number]?
    let (steps, draft) := (Draft.against baseline).performAll Rule.equals edits
    return {
      table := draft.finish
      outcome := .written steps
      notices := draft.finalRemarks.map .written }

/-- Makes tables in order, as long as each can be made. -/
def makeTables (made : List (Table Value)) : List TableCommand → Option (List TableReply)
  | [] => some []
  | command :: commands => do
    let reply ← makeTable made command
    return reply :: (← makeTables (made ++ [reply.table]) commands)

end Workbench

end DeltaPipeline
