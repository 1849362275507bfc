import DeltaPipeline.Table.Basic

/-!
# `DeltaPipeline.Table.Text`: inspection texts of tables

* `Entry.inspected`, `Group.inspected`, `Table.inspected`: the texts, given how
  a value is written.
-/

set_option autoImplicit false

namespace DeltaPipeline

variable {α : Type}

/-- Texts between square brackets, with commas between them. -/
def inspectedList (texts : List String) : String :=
  "[" ++ ", ".intercalate texts ++ "]"

/-- The inspection text of an item. -/
def Entry.inspected (written : α → String) (entry : Entry α) : String :=
  "Entry \x7b value: " ++ written entry.value ++ ", state: " ++ entry.tag.name ++ " \x7d"

/-- The inspection text of a group. -/
def Group.inspected (written : α → String) (group : Group α) : String :=
  "TableEntry \x7b items: " ++ inspectedList (group.items.map (Entry.inspected written)) ++
    ", removed: " ++ toString group.removed ++ " \x7d"

/-- The inspection text of groups, which says whether they are compacted. -/
def inspectedGroups (written : α → String) (compacted : Bool) (groups : List (Group α)) :
    String :=
  "NodeStateTable \x7b compacted: " ++ toString compacted ++ ", entries: " ++
    inspectedList (groups.map (Group.inspected written)) ++ " \x7d"

/-- The inspection text of a table. -/
def Table.inspected (written : α → String) : Table α → String
  | .empty => "NodeStateTable::Empty"
  | .faulted fault => "NodeStateTable::Faulted(" ++ fault.inspected ++ ")"
  | .compacted groups => inspectedGroups written true groups
  | .populated groups => inspectedGroups written false groups

end DeltaPipeline
