import DeltaPipeline.Text.Quoted
import DeltaPipeline.Value.Basic

/-!
# `DeltaPipeline.Value.Text`: the written form of a value

A value is written as compact JSON: no spaces, integers in decimal, texts
quoted by the interchange convention.

* `Value.written`: the text of a value.
-/

set_option autoImplicit false

namespace DeltaPipeline.Value

open DeltaPipeline.Text

mutual

/-- The compact text of a value. -/
def written : Value → String
  | .null => "null"
  | .bool true => "true"
  | .bool false => "false"
  | .int i => toString i.toInt
  | .text s => Convention.interchange.quote s
  | .list vs => "[" ++ writtenAll vs ++ "]"

/-- The compact texts of values, with commas between them. -/
def writtenAll : List Value → String
  | [] => ""
  | [v] => written v
  | v :: w :: vs => written v ++ "," ++ writtenAll (w :: vs)

end

/-- Nothing stands between the parts of a written list but commas. -/
example : written (.list [.int (-1), .text "a", .list [], .null]) = "[-1,\"a\",[],null]" := by
  decide +kernel

end DeltaPipeline.Value
