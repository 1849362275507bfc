import DeltaPipeline.Table.Draft

/-!
# `DeltaPipeline.Table.Edit`: the operations of a draft as data

* `Edit`: one operation on a draft.
* `Draft.perform`: carries an operation out and says how it went.
* `Draft.performAll`: carries out a list of operations.
-/

set_option autoImplicit false

namespace DeltaPipeline

/-- One operation on a draft. Revisions carry the relation they compare by, as a
value of `ρ`. -/
inductive Edit (α ρ : Type) where
  | add (values : List α) (tag : Tag)
  | addOne (value : α) (tag : Tag)
  | keep
  | drop
  | revise (values : List α) (relation : ρ)
  | reviseOne (value : α) (relation : ρ)
  | reviseOrAdd (values : List α) (relation : ρ)

/-- How an operation on a draft went. -/
inductive Edit.Reply (α : Type) where
  /-- it cannot fail -/
  | done
  /-- whether a pending group was there to take -/
  | took (taken : Bool)
  /-- the values were compared with a pending group -/
  | revised
  /-- no group was pending: the values come back -/
  | returned (values : List α)
  /-- no group was pending: the value comes back -/
  | returnedOne (value : α)
deriving DecidableEq

namespace Edit

variable {α ρ : Type}

/-- The values an operation compares, and the relation it compares by. -/
def compared? : Edit α ρ → Option (List α × ρ)
  | .revise values relation => some (values, relation)
  | .reviseOne value relation => some ([value], relation)
  | .reviseOrAdd values relation => some (values, relation)
  | _ => none

end Edit

namespace Draft

variable {α ρ : Type}

/-- Carries out one operation. -/
def perform (equals : ρ → α → α → Bool) (draft : Draft α) :
    Edit α ρ → Edit.Reply α × Draft α
  | .add values tag => (.done, draft.add values tag)
  | .addOne value tag => (.done, draft.add [value] tag)
  | .keep =>
    match draft.keep? with
    | some next => (.took true, next)
    | none => (.took false, draft)
  | .drop =>
    match draft.drop? with
    | some next => (.took true, next)
    | none => (.took false, draft)
  | .revise values relation =>
    match draft.revise? (equals relation) values with
    | some next => (.revised, next)
    | none => (.returned values, draft)
  | .reviseOne value relation =>
    match draft.revise? (equals relation) [value] with
    | some next => (.revised, next)
    | none => (.returnedOne value, draft)
  | .reviseOrAdd values relation => (.done, draft.reviseOrAdd (equals relation) values)

/-- Carries out operations in order. Each reply comes with the draft after it. -/
def performAll (equals : ρ → α → α → Bool) (draft : Draft α) :
    List (Edit α ρ) → List (Edit.Reply α × Draft α) × Draft α
  | [] => ([], draft)
  | edit :: edits =>
    let step := draft.perform equals edit
    let rest := step.2.performAll equals edits
    (step :: rest.1, rest.2)

end Draft

end DeltaPipeline
