import DeltaPipeline.Text.Extending
import DeltaPipeline.Text.Unprintable

/-!
# `DeltaPipeline.Text.Quoted`: text between quotation marks

Two conventions for quoting a text. Both put it between double quotation marks
and replace some characters by escapes; they differ in which ones and how.

* `Convention.interchange`: the quoting of compact JSON, which writes every
  character from the space on as it is.
* `Convention.inspection`: the quoting of inspection texts, which also spells
  out characters that do not show, by their number between braces.
* `Convention.quote`: a text under a convention.
-/

set_option autoImplicit false

namespace DeltaPipeline.Text

/-- The lower-case hexadecimal digits of a number, without leading zeros. -/
def hex (n : Nat) : String :=
  String.ofList (Nat.toDigits 16 n)

/-- The lower-case hexadecimal digits of a number, in at least four places. -/
def hexInFour (n : Nat) : String :=
  let digits := Nat.toDigits 16 n
  String.ofList (List.replicate (4 - digits.length) '0' ++ digits)

/-- How a quoted text spells each of its characters. -/
structure Convention where
  /-- The characters a character is written as. -/
  spell : Char → String

/-- Compact JSON: the quotation mark, the backslash and the control characters
below the space are escaped, five of them by a letter, all else stays. -/
def Convention.interchange : Convention where
  spell c :=
    if c = '"' then "\\\""
    else if c = '\\' then "\\\\"
    else if c = '\n' then "\\n"
    else if c = '\r' then "\\r"
    else if c = '\t' then "\\t"
    else if c.toNat = 8 then "\\b"
    else if c.toNat = 12 then "\\f"
    else if c.toNat < 32 then "\\u" ++ hexInFour c.toNat
    else c.toString

/-- Inspection texts: the quotation mark, the backslash, the null character, the
tab and the line ends have escapes of their own, and a character that has no
visible form or attaches to the one before it is written by its number. -/
def Convention.inspection : Convention where
  spell c :=
    if c = '"' then "\\\""
    else if c = '\\' then "\\\\"
    else if c = '\n' then "\\n"
    else if c = '\r' then "\\r"
    else if c = '\t' then "\\t"
    else if c.toNat = 0 then "\\0"
    else if isExtending c || isUnprintable c then "\\u\x7b" ++ hex c.toNat ++ "\x7d"
    else c.toString

/-- The text between quotation marks, each character spelt as the convention
says. -/
def Convention.quote (convention : Convention) (s : String) : String :=
  "\"" ++ String.join (s.toList.map convention.spell) ++ "\""

/-- Interchange text escapes by letter where it can and keeps what shows or not. -/
example : Convention.interchange.quote "a\"\\\n\x01\x7fé" = "\"a\\\"\\\\\\n\\u0001\x7fé\"" := by
  decide +kernel

/-- Inspection text spells out the delete character and a combining accent, and
keeps a precomposed letter. -/
example : Convention.inspection.quote "a\x7f\u0301é☃" =
    "\"a\\u\x7b7f\x7d\\u\x7b301\x7dé☃\"" := by
  decide +kernel

/-- It spells out a filler of Hangul syllables, and keeps a Hangul letter and a
halfwidth voicing mark. -/
example : Convention.inspection.quote "\u3131\u3164\uff76\uff9e" =
    "\"\u3131\\u\x7b3164\x7d\uff76\uff9e\"" := by
  decide +kernel

end DeltaPipeline.Text
