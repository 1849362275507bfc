import DeltaPipeline.Entry
import DeltaPipeline.Fault

/-!
# `DeltaPipeline.Table.Basic`: the output of one node in one run

A table lists items in groups, one group for each item of the source it was
made from. Beside the items of this run it keeps those that were removed, so
that the next node can follow.

* `Group`: the items made from one source item.
* `Table`: nothing yet, a fault, or groups; groups are either compacted (the
  baseline of a run, all of it unchanged) or populated (freshly made).
* The views: `items` (all), `values` (those present), `single`, `counts`.
-/

set_option autoImplicit false

namespace DeltaPipeline

/-- The items made from one source item. -/
structure Group (α : Type) where
  items : List (Entry α)
  /-- Did the source item disappear? -/
  removed : Bool := false
deriving DecidableEq

namespace Group

variable {α : Type}

/-- A group of values that all have one tag. -/
def tagged (tag : Tag) (values : List α) : Group α where
  items := values.map (⟨·, tag⟩)

/-- The group of a source item that disappeared. -/
def dropped (values : List α) : Group α where
  items := values.map (⟨·, .removed⟩)
  removed := true

/-- The values that are present. -/
def values (group : Group α) : List α :=
  (group.items.filter Entry.isLive).map Entry.value

/-- Is everything in the group as it was? -/
def isCached (group : Group α) : Bool :=
  !group.removed && group.items.all (·.tag = .cached)

end Group

/-- The four conditions of a table. -/
inductive Condition where
  | empty
  | faulted
  | compacted
  | populated
deriving DecidableEq

/-- The name of a condition in answers. -/
def Condition.name : Condition → String
  | .empty => "Empty"
  | .faulted => "Faulted"
  | .compacted => "Compacted"
  | .populated => "Populated"

/-- How many items of a table have each tag. -/
structure TagCounts where
  added : Nat
  modified : Nat
  cached : Nat
  removed : Nat
deriving DecidableEq

/-- The number of items counted. -/
def TagCounts.total (counts : TagCounts) : Nat :=
  counts.added + counts.modified + counts.cached + counts.removed

/-- The output of one node in one run. -/
inductive Table (α : Type) where
  /-- nothing was made yet -/
  | empty
  /-- the node failed, or a node it depends on did -/
  | faulted (fault : Fault)
  /-- as in the run before: nothing to propagate -/
  | compacted (groups : List (Group α))
  /-- freshly made -/
  | populated (groups : List (Group α))
deriving DecidableEq

namespace Table

variable {α β : Type}

/-- The condition a table is in. -/
def condition : Table α → Condition
  | .empty => .empty
  | .faulted _ => .faulted
  | .compacted _ => .compacted
  | .populated _ => .populated

/-- Was nothing made yet? A table without groups is not empty in this sense. -/
def isEmpty : Table α → Bool
  | .empty => true
  | _ => false

/-- Does the table carry a fault? -/
def isFaulted : Table α → Bool
  | .faulted _ => true
  | _ => false

/-- Is the table a baseline that was kept as it was? -/
def isCompacted : Table α → Bool
  | .compacted _ => true
  | _ => false

/-- The fault of a faulted table. -/
def fault? : Table α → Option Fault
  | .faulted fault => some fault
  | _ => none

/-- The groups of a table. Empty and faulted tables have none. -/
def groups : Table α → List (Group α)
  | .compacted groups => groups
  | .populated groups => groups
  | _ => []

/-- Has the table groups, all of them as they were? A freshly made table may be
cached without being compacted. -/
def isCached : Table α → Bool
  | .compacted groups => groups.all Group.isCached
  | .populated groups => groups.all Group.isCached
  | _ => false

/-- All items in order, the removed ones with them. -/
def items (table : Table α) : List (Entry α) :=
  table.groups.flatMap Group.items

/-- The values that are present, in order. -/
def values (table : Table α) : List α :=
  table.groups.flatMap Group.values

/-- The only item that is present, if there is exactly one. -/
def single? (table : Table α) : Option (Entry α) :=
  match table.items.filter Entry.isLive with
  | [entry] => some entry
  | _ => none

/-- How many items have each tag. -/
def counts (table : Table α) : TagCounts where
  added := table.items.countP (·.tag = .added)
  modified := table.items.countP (·.tag = .modified)
  cached := table.items.countP (·.tag = .cached)
  removed := table.items.countP (·.tag = .removed)

/-- A faulted table that carries on the fault of another. A table that has no
fault to carry on gives a fault of its own, raised as `origin` says. -/
def carryFault (source : Table α) (origin : Origin) : Table β :=
  .faulted (source.fault?.getD ⟨.error (.invalidState .sourceNotFaulted), origin⟩)

end Table

end DeltaPipeline
