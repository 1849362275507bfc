import DeltaPipeline.Value.Basic

/-!
# `DeltaPipeline.Recipe.Mapping`: functions on values as data

Every mapping is total: a value of a kind it does not speak about stays as it
is. Integers wrap around at 64 bits, and remainders are never negative.

* `Mapping`: one value to one value.
* `Expansion`: one value to any number of values.
-/

set_option autoImplicit false

namespace DeltaPipeline

/-- The integers among the values. -/
def Value.integers (vs : List Value) : List Int64 :=
  vs.filterMap fun
    | .int i => some i
    | _ => none

/-- The values without those that equal the one before. -/
def Value.collapseRuns : List Value → List Value
  | [] => []
  | [v] => [v]
  | v :: w :: rest =>
    if v = w then collapseRuns (w :: rest) else v :: collapseRuns (w :: rest)

/-- A function from values to values. -/
inductive Mapping where
  | identity
  | add (n : Int64)
  | multiply (n : Int64)
  /-- the remainder, never negative -/
  | modulo (n : Int64)
  | absolute
  | constant (v : Value)
  /-- ASCII letters in upper case -/
  | upper
  | length
  | first
  | last
  | reverse
  | wrap
  /-- the sum of the integers of a list -/
  | sum
  /-- the integers of a list, ascending -/
  | sort
  | collapse
  | take (n : Nat)
deriving DecidableEq

/-- Applies a mapping. -/
def Mapping.apply : Mapping → Value → Value
  | .add n, .int i => .int (i + n)
  | .multiply n, .int i => .int (i * n)
  | .modulo n, .int i => .int (Int64.ofInt (i.toInt % n.toInt))
  | .absolute, .int i => .int (if i < 0 then -i else i)
  | .constant v, _ => v
  | .upper, .text s => .text (s.map Char.toUpper)
  | .length, .text s => .int (Int64.ofNat s.length)
  | .length, .list vs => .int (Int64.ofNat vs.length)
  | .first, .list (v :: _) => v
  | .last, .list (v :: vs) => (v :: vs).getLast (by simp)
  | .reverse, .text s => .text (String.ofList s.toList.reverse)
  | .reverse, .list vs => .list vs.reverse
  | .wrap, v => .list [v]
  | .sum, .list vs => .int ((Value.integers vs).foldl (· + ·) 0)
  | .sort, .list vs => .list (((Value.integers vs).mergeSort (· ≤ ·)).map .int)
  | .collapse, .list vs => .list (Value.collapseRuns vs)
  | .take n, .list vs => .list (vs.take n)
  | _, v => v

-- the least integer is its own absolute value
example : Mapping.absolute.apply (.int (-9223372036854775808)) = .int (-9223372036854775808) := by
  decide
example : (Mapping.multiply 2).apply (.int 9223372036854775807) = .int (-2) := by decide
example : (Mapping.modulo 3).apply (.int (-1)) = .int 2 := by decide

/-- Applies mappings one after the other. -/
def Mapping.applyAll (mappings : List Mapping) (v : Value) : Value :=
  mappings.foldl (fun value mapping => mapping.apply value) v

/-- A function from values to lists of values. -/
inductive Expansion where
  | one
  | none
  | copies (n : Nat)
  /-- an integer as often as its remainder says -/
  | remainderCopies (n : Int)
  /-- the integers from 0 up to the given one, which counts as 50 if it is larger -/
  | range
  /-- the elements of a list or the characters of a text -/
  | items
deriving DecidableEq

/-- Applies an expansion. -/
def Expansion.apply : Expansion → Value → List Value
  | .none, _ => []
  | .copies n, v => List.replicate n v
  | .remainderCopies n, .int i =>
    if n = 0 then [] else List.replicate (i.toInt % n).toNat (.int i)
  | .range, .int i =>
    (List.range (min i.toInt.toNat 50)).map fun k => .int (Int64.ofNat k)
  | .items, .list vs => vs
  | .items, .text s => s.toList.map fun c => .text c.toString
  | _, v => [v]

end DeltaPipeline
