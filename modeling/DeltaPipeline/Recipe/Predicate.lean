import DeltaPipeline.Recipe.Rule

/-!
# `DeltaPipeline.Recipe.Predicate`: conditions as data

A condition is about a value and about how often it was asked: call number 1 is
the first.

* `Predicate`: the conditions.
* `Predicate.holds`: whether one holds of a value in a call.
-/

set_option autoImplicit false

namespace DeltaPipeline

/-- A condition on a value and a call number. -/
inductive Predicate where
  | always
  | never
  | less (n : Int)
  | greater (n : Int)
  /-- an integer with this remainder, which is never negative -/
  | remainder (m r : Int)
  | equals (v : Value)
  /-- a text or list of more than so many code points or elements -/
  | longer (n : Int)
  /-- a list with this element -/
  | has (v : Value)
  /-- a call number between these two -/
  | calls (first last : Int)
  | not (p : Predicate)
deriving DecidableEq

/-- Does the condition hold of the value in this call? -/
def Predicate.holds : Predicate → Value → Nat → Bool
  | .always, _, _ => true
  | .never, _, _ => false
  | .less n, .int i, _ => i.toInt < n
  | .greater n, .int i, _ => i.toInt > n
  | .remainder m r, .int i, _ => i.toInt % m == r
  | .equals v, value, _ => value == v
  | .longer n, value, _ => (value.size?.getD 0 : Nat) > n
  | .has v, .list vs, _ => vs.contains v
  | .calls first last, _, call => first ≤ call && (call : Int) ≤ last
  | .not p, value, call => !p.holds value call
  | _, _, _ => false

end DeltaPipeline
