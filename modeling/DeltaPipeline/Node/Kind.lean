/-!
# `DeltaPipeline.Node.Kind`: what names and classifies a node

* `NodeId`: a node's number within its pipeline, in order of declaration.
* `Kind`: what a node does, with the name that run steps and logs show.
* `ElementType`: what the elements of a node's table are.
-/

set_option autoImplicit false

namespace DeltaPipeline

/-- A node's number within its pipeline. Numbers start at 0 in every pipeline. -/
structure NodeId where
  raw : Nat
deriving DecidableEq, Inhabited

/-- The name of a node in messages. -/
def NodeId.shown (id : NodeId) : String :=
  s!"Node({id.raw})"

/-- The inspection text of a node's number. -/
def NodeId.inspected (id : NodeId) : String :=
  s!"NodeId({id.raw})"

/-- What a node does. Kinds the library does not know are named by the host. -/
inductive Kind where
  | input
  | select
  | selectMany
  | filter
  | batch
  | combine
  | custom (name : String)
deriving DecidableEq

/-- The short name of a kind. -/
def Kind.name : Kind → String
  | .input => "input"
  | .select => "select"
  | .selectMany => "select_many"
  | .filter => "filter"
  | .batch => "batch"
  | .combine => "combine"
  | .custom name => name

/-- What the elements of a node's table are. -/
inductive ElementType where
  /-- a single value -/
  | value
  /-- a byte, which no table holds but a custom node may ask for -/
  | byte
  /-- all values of another table -/
  | collected
  /-- a value of each of two tables -/
  | paired
deriving DecidableEq

/-- The name of an element type in messages. -/
def ElementType.name : ElementType → String
  | .value => "value"
  | .byte => "u8"
  | .collected => "list"
  | .paired => "pair"

end DeltaPipeline
