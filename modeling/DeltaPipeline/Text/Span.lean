/-!
# `DeltaPipeline.Text.Span`: spans of characters

A property of characters is kept as a list of spans of code points, in
ascending order and apart from one another.

* `Span.holds`: the character's code point lies between the span's ends.
* `Ascending`: every span is well formed and ends before the next one starts.
-/

set_option autoImplicit false

namespace DeltaPipeline.Text

/-- A span of code points, given by its first and its last member. -/
abbrev Span := Nat × Nat

/-- Does the character lie in the span? -/
def Span.holds (span : Span) (c : Char) : Bool :=
  span.1 ≤ c.toNat && c.toNat ≤ span.2

/-- Are the spans well formed, in ascending order and apart from one another? -/
def Ascending : List Span → Bool
  | [] => true
  | [span] => span.1 ≤ span.2
  | span :: next :: rest => span.1 ≤ span.2 && span.2 + 1 < next.1 && Ascending (next :: rest)

end DeltaPipeline.Text
