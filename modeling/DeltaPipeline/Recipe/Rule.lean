import DeltaPipeline.Comparer
import DeltaPipeline.Recipe.Host

/-!
# `DeltaPipeline.Recipe.Rule`: comparers as data

A rule describes a comparer. Most rules speak about one kind of values and
compare all others by equality.

* `Rule`: the rules.
* `Rule.comparer`: the comparer a rule describes.
-/

set_option autoImplicit false

namespace DeltaPipeline

/-- The number of code points of a text or of elements of a list, if the value is
one of these. -/
def Value.size? : Value → Option Nat
  | .text s => some s.length
  | .list vs => some vs.length
  | _ => none

/-- The text with its ASCII letters in lower case. -/
def lowerAscii (s : String) : String :=
  s.map Char.toLower

/-- A description of a comparer. -/
inductive Rule where
  /-- equality -/
  | structural
  /-- all values count as unchanged -/
  | always
  /-- no value counts as unchanged -/
  | never
  /-- integers with the same remainder -/
  | modulo (n : Int)
  /-- an integer that did not become smaller -/
  | atMost
  /-- texts that differ in the case of ASCII letters only -/
  | ignoreCase
  /-- two texts or two lists of the same size -/
  | sameSize
  /-- lists with the same first element -/
  | sameFirst
  /-- equality, and a certain new value cancels the run -/
  | cancelOn (v : Value)
deriving DecidableEq

namespace Rule

/-- Does the value count as unchanged? -/
def equals : Rule → Value → Value → Bool
  | .always, _, _ => true
  | .never, _, _ => false
  | .modulo n, .int a, .int b => a.toInt % n == b.toInt % n
  | .atMost, .int a, .int b => a ≤ b
  | .ignoreCase, .text a, .text b => lowerAscii a == lowerAscii b
  | .sameSize, .text a, .text b => a.length == b.length
  | .sameSize, .list as, .list bs => as.length == bs.length
  | .sameFirst, .list as, .list bs => as.head? == bs.head?
  | _, a, b => a == b

/-- Does comparing the values cancel the run? -/
def signals : Rule → Value → Value → Bool
  | .cancelOn v, _, current => current == v
  | _, _, _ => false

/-- The comparer a rule describes. -/
def comparer (rule : Rule) : Comparer Host where
  equals := rule.equals
  effect previous current := if rule.signals previous current then UserCode.cancel else return ()
  cancelled_effect previous current env h := by
    cases rule.signals previous current with
    | true => rfl
    | false => exact h

end Rule

end DeltaPipeline
