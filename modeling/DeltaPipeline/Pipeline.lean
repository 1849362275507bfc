import DeltaPipeline.Node.Basic

/-!
# `DeltaPipeline.Pipeline`: the declared shape of a computation

Nodes are declared one after the other, each from handles of nodes declared
before it. So every source of a node has a smaller number, which is part of
the type. A handle is good for the pipeline that gave it only, even where its
number is in range elsewhere.

* `Pipeline.declare`, `Pipeline.setName`: refuse handles of other pipelines.
* `Pipeline.owns`: was the handle given by this pipeline?
-/

set_option autoImplicit false

namespace DeltaPipeline

/-- The declared shape of a computation. -/
structure Pipeline (σ : Type) where
  /-- No two pipelines have the same number. -/
  id : Nat
  /-- The nodes in order of declaration. -/
  nodes : List (Node σ) := []
  /-- Names given to nodes for run steps. -/
  names : NodeId → Option String := fun _ => none
  /-- Sources are declared before the nodes that draw on them. -/
  sources_lt : ∀ (i : Nat) (node : Node σ), nodes[i]? = some node →
    ∀ source ∈ node.sources, source.raw < i := by simp

/-- A handle of another pipeline was given where only an own one will do. -/
structure ForeignHandle where
  node : NodeId
deriving DecidableEq

/-- How the use of a foreign handle is reported. -/
def ForeignHandle.message (foreign : ForeignHandle) : String :=
  s!"{foreign.node.shown} belongs to another pipeline"

namespace Pipeline

variable {σ : Type}

/-- The number of nodes. -/
def size (pipeline : Pipeline σ) : Nat :=
  pipeline.nodes.length

/-- The turns of all nodes together. -/
def turns (pipeline : Pipeline σ) : Nat :=
  pipeline.nodes.foldr (fun node turns => node.role.turns + turns) 0

/-- The node with this number. -/
def node? (pipeline : Pipeline σ) (id : NodeId) : Option (Node σ) :=
  pipeline.nodes[id.raw]?

/-- Does the pipeline have a node with this number? -/
def contains (pipeline : Pipeline σ) (id : NodeId) : Bool :=
  id.raw < pipeline.size

/-- Was the handle given by this pipeline? -/
def owns (pipeline : Pipeline σ) (handle : Handle) : Bool :=
  handle.pipeline = pipeline.id && pipeline.contains handle.node

/-- The numbers of all nodes, in order of declaration. -/
def ids (pipeline : Pipeline σ) : List NodeId :=
  (List.range pipeline.size).map NodeId.mk

/-- The kind of the node with this number. -/
def kind? (pipeline : Pipeline σ) (id : NodeId) : Option Kind :=
  (pipeline.node? id).map Node.kind

/-- What the elements of the node's table are. -/
def element? (pipeline : Pipeline σ) (id : NodeId) : Option ElementType :=
  (pipeline.node? id).map Node.element

/-- A pipeline has a node at each of its numbers and at no other. -/
theorem contains_iff (pipeline : Pipeline σ) (id : NodeId) :
    pipeline.contains id = true ↔ ∃ node, pipeline.node? id = some node := by
  show decide (id.raw < pipeline.nodes.length) = true
    ↔ ∃ node, pipeline.nodes[id.raw]? = some node
  rw [decide_eq_true_iff]
  constructor
  · intro h
    exact ⟨pipeline.nodes[id.raw], List.getElem?_eq_getElem h⟩
  · rintro ⟨node, h⟩
    exact (List.getElem?_eq_some_iff.mp h).1

/-- The numbers of a pipeline's nodes are those it contains. -/
theorem mem_ids (pipeline : Pipeline σ) (id : NodeId) :
    id ∈ pipeline.ids ↔ pipeline.contains id = true := by
  show id ∈ (List.range pipeline.size).map NodeId.mk ↔ decide (id.raw < pipeline.size) = true
  rw [decide_eq_true_iff, List.mem_map]
  simp only [List.mem_range]
  constructor
  · rintro ⟨i, h, rfl⟩
    exact h
  · intro h
    exact ⟨id.raw, h, rfl⟩

/-- Appends a node whose sources are all declared. -/
def push (pipeline : Pipeline σ) (node : Node σ)
    (h : ∀ source ∈ node.sources, source.raw < pipeline.size) : Pipeline σ :=
  { pipeline with
    nodes := pipeline.nodes ++ [node]
    sources_lt := by
      intro i n hn source hs
      rcases Nat.lt_trichotomy i pipeline.nodes.length with hi | hi | hi
      · rw [List.getElem?_append_left hi] at hn
        exact pipeline.sources_lt i n hn source hs
      · subst hi
        simp only [List.getElem?_concat_length, Option.some.injEq] at hn
        subst hn
        exact h source hs
      · rw [List.getElem?_eq_none (by simpa using Nat.succ_le_of_lt hi)] at hn
        cases hn }

/-- Declares a node. The first source that is not this pipeline's own is refused,
and then nothing is declared. -/
def declare (pipeline : Pipeline σ) (declaration : Declaration σ) :
    Except ForeignHandle (Handle × Pipeline σ) :=
  match h : declaration.role.sources.find? (!pipeline.owns ·) with
  | some source => .error ⟨source.node⟩
  | none =>
    let node : Node σ :=
      { role := declaration.role.map Handle.node
        comparer := declaration.comparer
        element := declaration.element }
    .ok (⟨pipeline.id, ⟨pipeline.size⟩, node.element⟩, pipeline.push node (by
      intro source hs
      simp only [Node.sources, node, Role.sources_map, List.mem_map] at hs
      obtain ⟨handle, hmem, rfl⟩ := hs
      have howns := List.find?_eq_none.mp h handle hmem
      simp only [Bool.not_eq_true', Bool.not_eq_false, owns, contains, Bool.and_eq_true,
        decide_eq_true_eq] at howns
      exact howns.2))

/-- Gives a node a name for run steps. A handle of another pipeline is refused. -/
def setName (pipeline : Pipeline σ) (handle : Handle) (name : String) :
    Except ForeignHandle (Pipeline σ) :=
  if pipeline.owns handle then
    .ok { pipeline with
      names := fun id => if id = handle.node then some name else pipeline.names id }
  else
    .error ⟨handle.node⟩

end Pipeline

end DeltaPipeline
