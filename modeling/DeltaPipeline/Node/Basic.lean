import DeltaPipeline.Node.Function
import DeltaPipeline.Node.Program

/-!
# `DeltaPipeline.Node.Basic`: the nodes of a pipeline

A node has a role, which says what it does and which nodes it draws on, and a
comparer, by which it tells whether its outputs changed. A declaration names
its sources by handle; the node that comes of it knows them by number.

* `Role`: the roles, over references of type `ref`.
* `Declaration`, `Node`: a node to be declared, and one that was.
-/

set_option autoImplicit false

namespace DeltaPipeline

/-- What a node does, and which nodes it draws on. -/
inductive Role (σ ref : Type) where
  /-- gives the values set on the driver -/
  | input
  /-- applies a function to each value of a source -/
  | transform (source : ref) (function : Transform σ)
  /-- applies a function to all values of a source -/
  | batch (source : ref) (function : Reduction σ)
  /-- pairs each value of the left source with the one value of the right one -/
  | combine (left right : ref)
  /-- does as a program of the host says, given its own number and baseline; from
  its `turns`-th computation on, the nodes that the program pulls depend on nothing
  but which tables are there. A node does nothing with its turns. They go into the
  number of nodes that may wait for one another, and a run that does not reach this
  number goes the same for every other one: see `Driver.visitAll_eq_visitAllWithin`. -/
  | custom (name : String) (turns : Nat) (program : NodeId → Table Value → Program σ Product)

namespace Role

variable {σ ref ref' : Type}

/-- The kind of a node in this role. -/
def kind : Role σ ref → Kind
  | .input => .input
  | .transform _ function => function.kind
  | .batch _ _ => .batch
  | .combine _ _ => .combine
  | .custom name _ _ => .custom name

/-- The nodes the role names as sources, in the order in which they are pulled.
A custom node names none: its program pulls what it likes. -/
def sources : Role σ ref → List ref
  | .input => []
  | .transform source _ => [source]
  | .batch source _ => [source]
  | .combine left right => [left, right]
  | .custom _ _ _ => []

/-- The same role over other references. -/
def map (f : ref → ref') : Role σ ref → Role σ ref'
  | .input => .input
  | .transform source function => .transform (f source) function
  | .batch source function => .batch (f source) function
  | .combine left right => .combine (f left) (f right)
  | .custom name turns program => .custom name turns program

/-- In how many of its computations a node in this role may pull other nodes than
before. The library's own always pull the same. -/
def turns : Role σ ref → Nat
  | .custom _ turns _ => turns
  | _ => 0

/-- Is the role one of the library's own? -/
def isBuiltIn : Role σ ref → Bool
  | .custom _ _ _ => false
  | _ => true

/-- The sources are translated with the role. -/
@[simp] theorem sources_map (f : ref → ref') (role : Role σ ref) :
    (role.map f).sources = role.sources.map f := by
  cases role <;> rfl

end Role

/-- A node to be declared. -/
structure Declaration (σ : Type) where
  role : Role σ Handle
  comparer : Comparer σ := .structural

/-- What the elements of the node's table will be. A filter keeps those of its
source. -/
def Declaration.element {σ : Type} (declaration : Declaration σ) : ElementType :=
  match declaration.role with
  | .transform source (.filter _) => source.element
  | .batch _ .collect => .collected
  | .combine _ _ => .paired
  | _ => .value

/-- A node of a pipeline. -/
structure Node (σ : Type) where
  role : Role σ NodeId
  comparer : Comparer σ
  element : ElementType

/-- The kind of a node. -/
def Node.kind {σ : Type} (node : Node σ) : Kind :=
  node.role.kind

/-- The nodes a node names as sources. -/
def Node.sources {σ : Type} (node : Node σ) : List NodeId :=
  node.role.sources

end DeltaPipeline
