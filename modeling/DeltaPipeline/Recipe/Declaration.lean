import DeltaPipeline.Recipe.Custom

/-!
# `DeltaPipeline.Recipe.Declaration`: nodes as data

A described node names its sources; the host knows which handles go by these
names.

* `NodeRecipe`: the descriptions.
* `NodeRecipe.declaration?`: the node described, if all its sources are known.
-/

set_option autoImplicit false

namespace DeltaPipeline

/-- The description of a node. -/
inductive NodeRecipe where
  | input (rule : Rule)
  | select (source : String) (licence : Licence) (recipe : Recipe) (rule : Rule)
  | selectMany (source : String) (licence : Licence) (recipe : Recipe) (rule : Rule)
  | filter (source : String) (recipe : Recipe)
  | batch (source : String) (licence : Licence) (recipe : Recipe) (rule : Rule)
  | batchMany (source : String) (licence : Licence) (recipe : Recipe) (rule : Rule)
  | collect (source : String)
  | combine (left right : String) (rule : Rule)
  | script (acts : Script)
  | survey (nodes : Survey)
  | reading (subject : Reading)

namespace NodeRecipe

/-- The role described for a node of this name, over the names of sources. -/
def role (name : String) : NodeRecipe → Role Host String
  | .input _ => .input
  | .select source licence recipe _ =>
    .transform source (.select (recipe.output licence name))
  | .selectMany source licence recipe _ =>
    .transform source (.selectMany (recipe.outputs licence name))
  | .filter source recipe => .transform source (.filter (recipe.keeps name))
  | .batch source licence recipe _ =>
    .batch source (.one fun values => recipe.output licence name (.list values))
  | .batchMany source licence recipe _ =>
    .batch source (.many fun values => recipe.outputs licence name (.list values))
  | .collect source => .batch source .collect
  | .combine left right _ => .combine left right
  | .script acts => acts.role name
  | .survey nodes => nodes.role
  | .reading subject => subject.role

/-- The rule by which the described node compares its outputs. -/
def rule : NodeRecipe → Rule
  | .input rule => rule
  | .select _ _ _ rule => rule
  | .selectMany _ _ _ rule => rule
  | .batch _ _ _ rule => rule
  | .batchMany _ _ _ rule => rule
  | .combine _ _ rule => rule
  | _ => .structural

/-- The node described, if the host knows all its sources. -/
def declaration? (handles : List (String × Handle)) (name : String)
    (recipe : NodeRecipe) : Option (Declaration Host) :=
  let declare (role : Role Host Handle) : Declaration Host :=
    { role, comparer := recipe.rule.comparer }
  match recipe.role name with
  | .input => some (declare .input)
  | .transform source function =>
    (handles.lookup source).map fun s => declare (.transform s function)
  | .batch source function => (handles.lookup source).map fun s => declare (.batch s function)
  | .combine left right => do
    let l ← handles.lookup left
    let r ← handles.lookup right
    return declare (.combine l r)
  | .custom kind turns program => some (declare (.custom kind turns program))

end NodeRecipe

end DeltaPipeline
