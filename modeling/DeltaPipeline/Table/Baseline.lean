import DeltaPipeline.Table.Basic

/-!
# `DeltaPipeline.Table.Baseline`: what a run leaves for the next

The next run compares against the values that are present now. Removed items
and groups are dropped, all else becomes cached, and a fault is forgotten, so
that a node that failed starts anew.

* `Group.asCached?`, `Table.asCached`: the baseline of a group and of a table.
-/

set_option autoImplicit false

namespace DeltaPipeline

variable {α : Type}

/-- The baseline of a group: its present values, cached. The group of a source
item that disappeared has none. -/
def Group.asCached? (group : Group α) : Option (Group α) :=
  if group.removed then none else some (Group.tagged .cached group.values)

/-- The baseline a table leaves for the next run. -/
def Table.asCached : Table α → Table α
  | .empty => .empty
  | .faulted _ => .empty
  | .compacted groups => .compacted groups
  | .populated groups => .compacted (groups.filterMap Group.asCached?)

end DeltaPipeline
