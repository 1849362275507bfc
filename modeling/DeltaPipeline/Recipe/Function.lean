import DeltaPipeline.Node.Function
import DeltaPipeline.Node.Program
import DeltaPipeline.Recipe.Mapping
import DeltaPipeline.Recipe.Predicate

/-!
# `DeltaPipeline.Recipe.Function`: user functions as data

A recipe describes a user function. A call counts itself, then goes through the
guards, which may cancel the run, give up or fail, and then computes. How much
of a guard takes effect depends on what its node's function may do.

* `Guard`, `Recipe`: the descriptions.
* `Recipe.outputs`, `Recipe.output`, `Recipe.keeps`: the functions described.
-/

set_option autoImplicit false

namespace DeltaPipeline

/-- What a user function may do besides computing. -/
inductive Licence where
  /-- it always gives an answer -/
  | infallible
  /-- it may fail -/
  | fallible
  /-- it may fail and may look whether the run is cancelled -/
  | cancellable
deriving DecidableEq

/-- May a function with this licence fail? -/
def Licence.mayFail (licence : Licence) : Bool :=
  licence ≠ .infallible

/-- May a function with this licence look whether the run is cancelled? -/
def Licence.mayCheck (licence : Licence) : Bool :=
  licence = .cancellable

/-- Something that happens in some calls of a user function. -/
structure Guard where
  condition : Predicate := .always
  /-- the run is cancelled -/
  cancels : Bool := false
  /-- the function gives up with this message -/
  panics : Option String := none
  /-- the function fails -/
  fails : Option Cause := none
  /-- the function fails if the run is cancelled -/
  checks : Bool := false

/-- The description of a user function. -/
structure Recipe where
  guards : List Guard := []
  mappings : List Mapping := []
  expansion : Expansion := .one
  keep : Predicate := .never

namespace Guard

/-- What a guard does in a call it applies to. An answer is a failure. -/
def act (licence : Licence) (guard : Guard) : UserCode Host (Option Fault) := do
  if guard.cancels then UserCode.cancel
  if let some message := guard.panics then throw ⟨message⟩
  if licence.mayFail then
    if let some cause := guard.fails then return some (← Host.raise cause)
  if licence.mayCheck && guard.checks then
    if ← UserCode.isCancelled then return some (← Host.raise (.error .cancelled))
  return none

/-- Goes through guards in order, up to the first failure. -/
def actAll (licence : Licence) (v : Value) (call : Nat) :
    List Guard → UserCode Host (Option Fault)
  | [] => return none
  | guard :: guards => do
    if guard.condition.holds v call then
      if let some fault ← guard.act licence then return some fault
    actAll licence v call guards

end Guard

namespace Recipe

/-- Begins a call: it counts itself and goes through the guards. -/
def begin (recipe : Recipe) (licence : Licence) (name : String) (v : Value) :
    UserCode Host (Except Fault Nat) := do
  let call ← Host.countCall name
  match ← Guard.actAll licence v call recipe.guards with
  | some fault => return .error fault
  | none => return .ok call

/-- The described function to one value. -/
def output (recipe : Recipe) (licence : Licence) (name : String) (v : Value) :
    UserCode Host (Except Fault Value) := do
  return (← recipe.begin licence name v).map fun _ => Mapping.applyAll recipe.mappings v

/-- The described function to any number of values. -/
def outputs (recipe : Recipe) (licence : Licence) (name : String) (v : Value) :
    UserCode Host (Except Fault (List Value)) := do
  return (← recipe.begin licence name v).map fun _ =>
    recipe.expansion.apply (Mapping.applyAll recipe.mappings v)

/-- The described condition. It never fails. -/
def keeps (recipe : Recipe) (name : String) (v : Value) : UserCode Host Bool := do
  match ← recipe.begin .infallible name v with
  | .error _ => return false
  | .ok call => return recipe.keep.holds v call

end Recipe

end DeltaPipeline
