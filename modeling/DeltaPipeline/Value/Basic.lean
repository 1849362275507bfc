/-!
# `DeltaPipeline.Value.Basic`: the values that flow through a pipeline

One type of value serves every node: inputs hold values, user functions map
them, and tables list them. A pair is written as a list of two.

* `Value`: null, truth values, 64-bit integers, texts and lists.
* `Value.same_iff`: the structural comparison decides equality, which gives
  values decidable equality.
-/

set_option autoImplicit false

namespace DeltaPipeline

/-- A value of a table or an input. -/
inductive Value where
  | null
  | bool (b : Bool)
  | int (i : Int64)
  | text (s : String)
  | list (vs : List Value)
deriving Inhabited

namespace Value

mutual

/-- Structural comparison: values of different kinds differ. -/
def same : Value → Value → Bool
  | .null, .null => true
  | .bool a, .bool b => a == b
  | .int a, .int b => a == b
  | .text a, .text b => a == b
  | .list as, .list bs => sameAll as bs
  | _, _ => false

/-- Structural comparison of two lists, position by position. -/
def sameAll : List Value → List Value → Bool
  | [], [] => true
  | a :: as, b :: bs => same a b && sameAll as bs
  | _, _ => false

end

mutual

/-- The structural comparison accepts exactly equal values. -/
theorem same_iff : ∀ a b : Value, same a b = true ↔ a = b
  | .list as, .list bs => by simp [same, sameAll_iff as bs]
  | .null, b => by cases b <;> simp [same]
  | .bool _, b => by cases b <;> simp [same]
  | .int _, b => by cases b <;> simp [same]
  | .text _, b => by cases b <;> simp [same]
  | .list _, .null => by simp [same]
  | .list _, .bool _ => by simp [same]
  | .list _, .int _ => by simp [same]
  | .list _, .text _ => by simp [same]

/-- The comparison of lists accepts exactly equal lists. -/
theorem sameAll_iff : ∀ as bs : List Value, sameAll as bs = true ↔ as = bs
  | [], [] => by simp [sameAll]
  | [], _ :: _ => by simp [sameAll]
  | _ :: _, [] => by simp [sameAll]
  | a :: as, b :: bs => by simp [sameAll, same_iff a b, sameAll_iff as bs]

end

instance : DecidableEq Value := fun a b =>
  decidable_of_iff (same a b = true) (same_iff a b)

/-- Two values as one, in the written form of a pair. -/
def pair (left right : Value) : Value :=
  .list [left, right]

end Value

end DeltaPipeline
