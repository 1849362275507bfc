import DeltaPipeline.Fault
import DeltaPipeline.Node.UserCode
import DeltaPipeline.Value.Basic

/-!
# `DeltaPipeline.Node.Function`: the functions nodes apply

* `Transform`: a function of one value of the source. Its form says how many
  values it gives: one, any number, or the value itself or nothing.
* `Reduction`: a function of all values of the source.
* `Transform.call`: every form as a function to lists.
-/

set_option autoImplicit false

namespace DeltaPipeline

/-- A function applied to each value of a source. -/
inductive Transform (σ : Type) where
  /-- gives one value -/
  | select (f : Value → UserCode σ (Except Fault Value))
  /-- gives any number of values -/
  | selectMany (f : Value → UserCode σ (Except Fault (List Value)))
  /-- keeps the value or not -/
  | filter (keeps : Value → UserCode σ Bool)

namespace Transform

variable {σ : Type}

/-- The kind of the node that applies the function. -/
def kind : Transform σ → Kind
  | .select _ => .select
  | .selectMany _ => .selectMany
  | .filter _ => .filter

/-- The function as one to lists of values. -/
def call : Transform σ → Value → UserCode σ (Except Fault (List Value))
  | .select f, value => do return (← f value).map ([·])
  | .selectMany f, value => f value
  | .filter keeps, value => do return .ok (if ← keeps value then [value] else [])

/-- A function to any number of values is called as it is. -/
@[simp] theorem call_selectMany (f : Value → UserCode σ (Except Fault (List Value)))
    (value : Value) : (selectMany f).call value = f value := rfl

/-- A condition gives the value itself or nothing, and never fails. -/
@[simp] theorem run_call_filter (keeps : Value → UserCode σ Bool) (value : Value) (env : Env σ) :
    ((filter keeps).call value).run.run env
      = (((keeps value).run.run env).1.map fun kept => .ok (if kept then [value] else []),
        ((keeps value).run.run env).2) :=
  UserCode.run_map ..

end Transform

/-- A function applied to all values of a source at once. -/
inductive Reduction (σ : Type) where
  /-- gives the list of the values, without any code of the host -/
  | collect
  /-- gives one value -/
  | one (f : List Value → UserCode σ (Except Fault Value))
  /-- gives any number of values -/
  | many (f : List Value → UserCode σ (Except Fault (List Value)))

end DeltaPipeline
