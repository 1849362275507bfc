import DeltaPipeline.Node.Basic

/-!
# `DeltaPipeline.Proofs.Calls`: the user code of a node and what it answers

User code runs in an environment that it may read and change, so it may answer
differently each time. What it answers in some environment and what it answers in all of
them are told apart.

* `UserCode.MayGive`, `UserCode.Gives`: what user code answers in some environment,
  and in all of them.
* `Role.Calls`: the user code of a node.
* `Node.mem_sources_of_transform` and the like: the sources of a node, by its role.
-/

set_option autoImplicit false

namespace DeltaPipeline

/-! ### What user code answers -/

namespace UserCode

variable {σ α : Type}

/-- In some environment the code answers so. -/
def MayGive (code : UserCode σ α) (answer : α) : Prop :=
  ∃ env after, code.run.run env = (.ok answer, after)

/-- What code gives whose answer is only rewritten. -/
theorem mayGive_of_map {β : Type} {code : UserCode σ α} {f : α → β} {answer : β}
    (h : UserCode.MayGive (do return f (← code)) answer) :
    ∃ given, code.MayGive given ∧ f given = answer := by
  obtain ⟨env, after, hrun⟩ := h
  rw [run_map] at hrun
  cases hcode : code.run.run env with
  | mk result later =>
    rw [hcode] at hrun
    cases result with
    | error panic => cases hrun
    | ok given =>
      cases hrun
      exact ⟨given, ⟨env, later, hcode⟩, rfl⟩

/-- In every environment the code answers so, up to the raising that a fault goes
back to, and neither cancels the run nor gives up. -/
def Gives (code : UserCode σ (Except Fault α)) (answer : Except Cause α) : Prop :=
  ∀ env, ∃ given after, code.run.run env = (.ok given, after) ∧
    after.cancelled = env.cancelled ∧ given.mapError Fault.cause = answer

/-- What code gives in every environment is all that it may give. -/
theorem Gives.mapError_eq {code : UserCode σ (Except Fault α)} {answer : Except Cause α}
    {given : Except Fault α} (h : code.Gives answer) (hgiven : code.MayGive given) :
    given.mapError Fault.cause = answer := by
  obtain ⟨env, after, hrun⟩ := hgiven
  obtain ⟨given', after', hrun', -, hanswer⟩ := h env
  rw [hrun] at hrun'
  cases hrun'
  exact hanswer

/-- Code that gives an answer in every environment gives any list it may give. -/
theorem Gives.of_mayGive_ok {code : UserCode σ (Except Fault α)} {answer : Except Cause α}
    {value : α} (h : code.Gives answer) (hgiven : code.MayGive (.ok value)) :
    code.Gives (.ok value) := by
  -- A value goes back to no raising, so nothing of it is forgotten.
  have hanswer : Except.ok value = answer := h.mapError_eq hgiven
  rw [hanswer]
  exact h

end UserCode

/-! ### The user code of a node -/

/-- The function as one that fails by a fault or gives a list of values. -/
def Reduction.call {σ : Type} :
    Reduction σ → List Value → UserCode σ (Except Fault (List Value))
  | .collect, values => return .ok [.list values]
  | .one f, values => do return (← f values).map ([·])
  | .many f, values => f values

/-- The user code that a node in this role may run. -/
def Role.Calls {σ ref : Type} (role : Role σ ref)
    (code : UserCode σ (Except Fault (List Value))) : Prop :=
  match role with
  | .transform _ function => ∃ value, code = function.call value
  | .batch _ function => ∃ values, code = function.call values
  | _ => False

/-! ### The role of a node -/

namespace Node

variable {σ : Type} {node : Node σ} {source left right : NodeId}

/-- The sources follow from the role. -/
theorem sources_of_role {role : Role σ NodeId} (h : node.role = role) :
    node.sources = role.sources :=
  congrArg Role.sources h

/-- The source of a transform is one of its sources. -/
theorem mem_sources_of_transform {function : Transform σ}
    (h : node.role = .transform source function) : source ∈ node.sources := by
  rw [sources_of_role h]
  exact List.mem_singleton_self source

/-- The source of a batch node is one of its sources. -/
theorem mem_sources_of_batch {function : Reduction σ}
    (h : node.role = .batch source function) : source ∈ node.sources := by
  rw [sources_of_role h]
  exact List.mem_singleton_self source

/-- The left side of a combining node is one of its sources. -/
theorem left_mem_sources (h : node.role = .combine left right) : left ∈ node.sources := by
  rw [sources_of_role h]
  exact List.mem_cons_self

/-- The right side of a combining node is one of its sources. -/
theorem right_mem_sources (h : node.role = .combine left right) : right ∈ node.sources := by
  rw [sources_of_role h]
  exact List.mem_cons_of_mem left (List.mem_singleton_self right)

/-- Only a combine has a second source. -/
theorem role_of_sources_cons {first : NodeId} {rest : List NodeId}
    (h : node.sources = first :: rest) (hsource : source ∈ rest) :
    node.role = .combine first source := by
  unfold sources at h
  cases hrole : node.role with
  | input =>
    rw [hrole] at h
    cases h
  | transform origin function =>
    rw [hrole] at h
    cases h
    cases hsource
  | batch origin function =>
    rw [hrole] at h
    cases h
    cases hsource
  | combine left right =>
    rw [hrole] at h
    cases h
    rw [List.mem_singleton.mp hsource]
  | custom name turns program =>
    rw [hrole] at h
    cases h

/-- A transform may call its function for any value. -/
theorem calls_of_transform {function : Transform σ} (h : node.role = .transform source function)
    (value : Value) : node.role.Calls (function.call value) := by
  rw [h]
  exact ⟨value, rfl⟩

/-- A batch may call its function for any list of values. -/
theorem calls_of_batch {function : Reduction σ} (h : node.role = .batch source function)
    (values : List Value) : node.role.Calls (function.call values) := by
  rw [h]
  exact ⟨values, rfl⟩

end Node

end DeltaPipeline
