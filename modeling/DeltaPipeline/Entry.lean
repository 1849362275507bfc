import DeltaPipeline.Value.Basic

/-!
# `DeltaPipeline.Entry`: a value and how it came about

* `Tag`: how a value relates to the run before.
* `Entry`: a value with its tag, the item of a table.
-/

set_option autoImplicit false

namespace DeltaPipeline

/-- How an item relates to the run before. -/
inductive Tag where
  /-- it had no counterpart -/
  | added
  /-- its counterpart compared unequal -/
  | modified
  /-- its counterpart compared equal and is kept -/
  | cached
  /-- it was there and has no counterpart now -/
  | removed
deriving DecidableEq

/-- The name of a tag in inspection texts and log messages. -/
def Tag.name : Tag → String
  | .added => "Added"
  | .modified => "Modified"
  | .cached => "Cached"
  | .removed => "Removed"

/-- Has an item with this tag a counterpart in the run before? -/
def Tag.hasPrevious (tag : Tag) : Bool :=
  tag ≠ .added

/-- An item of a table: a value and how it came about. -/
structure Entry (α : Type) where
  value : α
  tag : Tag
deriving DecidableEq

namespace Entry

variable {α β : Type}

/-- Is the value present in this run? -/
def isLive (entry : Entry α) : Bool :=
  entry.tag ≠ .removed

/-- The same value under another tag. -/
def retag (entry : Entry α) (tag : Tag) : Entry α :=
  { entry with tag }

/-- Another value under the same tag. -/
def map (f : α → β) (entry : Entry α) : Entry β :=
  { value := f entry.value, tag := entry.tag }

end Entry

end DeltaPipeline
