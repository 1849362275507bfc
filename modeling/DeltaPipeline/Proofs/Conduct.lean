import DeltaPipeline.Proofs.Enacts
import DeltaPipeline.Proofs.Updates

/-!
# `DeltaPipeline.Proofs.Conduct`: the user code that an update runs

An update calls the function of its node for arguments that follow from the table of the
source and the baseline of the node (`Driver.arguments`), and it goes on only as long as
the run is not cancelled. It ends after a check, or with comparisons that nothing
follows (`Concludes`).

* `Driver.arguments`: the arguments of a node's function in a run.
* `Driver.Ends`: the judgement of `Driver.Enacts` for steps that end an update.
* `Driver.Performs`: the calls of an update, and the fault they lead to.
* `Driver.ends_updateNode`: what the update of a node performs.
-/

set_option autoImplicit false

namespace DeltaPipeline

variable {σ : Type}

/-! ### The arguments of a node's function -/

/-- The values of the added and the modified items, in order. -/
def Table.freshValues (table : Table Value) : List Value :=
  (table.items.filter Entry.isFresh).map Entry.value

/-- What the function of a batch is called with for these values. That the library
collects them is no call. -/
def Reduction.arguments (function : Reduction σ) (values : List Value) : List Value :=
  match function with
  | .collect => []
  | _ => [.list values]

/-- The fault that an update ended with, if it did. -/
def Product.fault? : Product → Option Fault
  | .unchanged => none
  | .table t => t.fault?

namespace Driver

/-- The function of a node is left alone: the source is faulted, or it is as it was and
the node has something to keep. -/
def spares (driver : Driver σ) (tables : NodeId → Table Value) (id source : NodeId) : Bool :=
  (tables source).isFaulted || ((tables source).isCompacted && !(driver.baseline id).isEmpty)

/-- The arguments that the function of a node is to be called with in a run, in order. The
first fault ends the calls. -/
def arguments (driver : Driver σ) (tables : NodeId → Table Value) (id : NodeId)
    (node : Node σ) : List Value :=
  match node.role with
  | .transform source _ =>
    if driver.spares tables id source then []
    else if (driver.baseline id).isEmpty then (tables source).values
    else (tables source).freshValues
  | .batch source function =>
    if driver.spares tables id source then []
    else function.arguments (tables source).values
  | _ => []

variable {driver : Driver σ} {tables tables' : NodeId → Table Value} {id : NodeId}
  {node : Node σ}

/-- Only the tables of the sources matter. -/
theorem arguments_congr (hsame : ∀ source ∈ node.sources, tables source = tables' source) :
    driver.arguments tables id node = driver.arguments tables' id node := by
  unfold arguments spares
  cases hrole : node.role with
  | input => rfl
  | transform source function =>
    simp only [hsame source (Node.mem_sources_of_transform hrole)]
  | batch source function =>
    simp only [hsame source (Node.mem_sources_of_batch hrole)]
  | combine left right => rfl
  | custom name turns program => rfl

/-- A function that is left alone has nothing to be called with. -/
theorem arguments_of_spares
    (hspares : ∀ source, node.sources = [source] → driver.spares tables id source = true) :
    driver.arguments tables id node = [] := by
  unfold arguments
  cases hrole : node.role with
  | input => rfl
  | transform source function => simp [hspares source (Node.sources_of_role hrole)]
  | batch source function => simp [hspares source (Node.sources_of_role hrole)]
  | combine left right => rfl
  | custom name turns program => rfl

/-- A transform calls its function for the values that are due, if the groups of its
baseline are as many as the items that are not added. -/
theorem due_eq_arguments {source : NodeId} {function : Transform σ}
    (hrole : node.role = .transform source function)
    (hspares : driver.spares tables id source = false)
    (hcount : (driver.baseline id).isEmpty = false →
      ((tables source).items.filter (!·.isAdded)).length ≤ (driver.baseline id).groups.length) :
    Transform.due (driver.baseline id).groups.length (tables source).items
      = driver.arguments tables id node := by
  unfold arguments
  simp only [hrole, hspares, Bool.false_eq_true, if_false]
  by_cases hempty : (driver.baseline id).isEmpty = true
  · rw [if_pos hempty, Table.groups_of_isEmpty hempty, Table.values_eq]
    exact Transform.due_zero _
  · rw [if_neg hempty]
    exact Transform.due_of_length_le (hcount (by simpa using hempty))

end Driver

/-! ### Steps that end an update -/

/-- The run is not cancelled, unless by comparisons that nothing followed. -/
def Concludes (id : NodeId) (role : Role σ NodeId) (comparer : Comparer σ) (a : Ambient σ)
    (acts : List (Act σ)) (b : Ambient σ) : Prop :=
  ∃ early late between, acts = early ++ late ∧ Traces id role comparer a early between ∧
    between.env.cancelled = false ∧ Traces id role comparer between late b ∧
    Act.AreComparisons late ∧ (role.endsComparing = false → late = [])

section

variable {id : NodeId} {role : Role σ NodeId} {comparer : Comparer σ} {a b c : Ambient σ}
  {acts acts' : List (Act σ)}

/-- What concludes may follow on other acts. -/
theorem Concludes.of_traces (h : Concludes id role comparer b acts' c)
    (htraces : Traces id role comparer a acts b) :
    Concludes id role comparer a (acts ++ acts') c := by
  obtain ⟨early, late, between, rfl, hearly, hlive, hlate, hcompared, hquiet⟩ := h
  exact ⟨acts ++ early, late, between, (List.append_assoc ..).symm, htraces.trans hearly, hlive,
    hlate, hcompared, hquiet⟩

/-- The acts of what concludes are a trace. -/
theorem Concludes.traces (h : Concludes id role comparer a acts b) :
    Traces id role comparer a acts b := by
  obtain ⟨early, late, between, rfl, hearly, -, hlate, -, -⟩ := h
  exact hearly.trans hlate

end

namespace Driver

variable {driver : Driver σ} {tables : NodeId → Table Value} {id : NodeId} {node : Node σ}
  {a : Ambient σ} {α β : Type}

/-- The steps run user code as described, if they answer, and then they end the update. -/
def Ends (driver : Driver σ) (id : NodeId) (node : Node σ) (m : StepM σ α) (a : Ambient σ)
    (answered : α → List (Act σ) → Ambient σ → Prop) : Prop :=
  driver.Enacts id node m a fun answer acts b =>
    answered answer acts b ∧ Concludes id node.role (driver.comparer id node) a acts b

namespace Ends

variable {answered answered' : α → List (Act σ) → Ambient σ → Prop}

/-- An answer given at once ends, while the token is not cancelled. -/
theorem of_pure {answer : α} (hlive : a.env.cancelled = false) (h : answered answer [] a) :
    driver.Ends id node (pure answer : StepM σ α) a answered :=
  Enacts.of_pure ⟨h, [], [], a, rfl, .nil, hlive, .nil, .nil, fun _ => rfl⟩

/-- What is answered may be told more weakly. -/
theorem mono {m : StepM σ α} (h : driver.Ends id node m a answered)
    (himp : ∀ answer acts b, answered answer acts b → answered' answer acts b) :
    driver.Ends id node m a answered' :=
  Enacts.mono h fun answer acts b _ hends => ⟨himp answer acts b hends.1, hends.2⟩

/-- Steps that end the update may follow others. -/
theorem bind {m : StepM σ α} {f : α → StepM σ β} {answered' : β → List (Act σ) → Ambient σ → Prop}
    (hm : driver.Enacts id node m a answered)
    (hquiet : node.role.endsComparing = true → ∀ answer acts b, answered answer acts b →
      .compared ∉ acts)
    (hf : ∀ answer acts b, answered answer acts b →
      driver.Ends id node (f answer) b
        (fun answer' acts' c => answered' answer' (acts ++ acts') c)) :
    driver.Ends id node (m >>= f) a answered' := by
  refine Enacts.bind hm hquiet fun answer acts b htraces hanswered => ?_
  refine Enacts.mono (hf answer acts b hanswered) ?_
  rintro answer' acts' c - ⟨hanswered', hconcludes⟩
  exact ⟨hanswered', hconcludes.of_traces htraces⟩

/-- A check is passed where the token is not cancelled, and stops where it is. -/
theorem check_bind {rest : StepM σ α}
    (h : a.env.cancelled = false → driver.Ends id node rest a answered) :
    driver.Ends id node (StepM.check >>= fun _ => rest) a answered :=
  Enacts.check_bind h

/-- A note enacts nothing. -/
theorem record_bind {event : Event} {rest : StepM σ α} (hnote : event.isNote = true)
    (h : driver.Ends id node rest (a.note event) answered) :
    driver.Ends id node (StepM.record event >>= fun _ => rest) a answered := by
  refine Enacts.record_bind hnote (Enacts.mono h ?_)
  rintro answer acts b - ⟨hanswered, hconcludes⟩
  exact ⟨hanswered, hconcludes.of_traces (.noted event .nil hnote)⟩

/-- The comparisons of an input or of a batch end the update. -/
theorem of_compares {m : StepM σ α} {holds : α → Prop} (h : driver.Compares id node m a holds)
    (hends : node.role.endsComparing = true) (hlive : a.env.cancelled = false) :
    driver.Ends id node m a (fun answer acts _ => holds answer ∧ Act.calls acts = []) := by
  refine Enacts.mono h.enacts ?_
  rintro answer acts b htraces ⟨hanswer, hcompared⟩
  refine ⟨⟨hanswer, hcompared.calls_eq_nil⟩, [], acts, a, rfl, .nil, hlive, htraces, hcompared, ?_⟩
  rw [hends]
  exact fun h => by cases h

end Ends

/-- A table that is finished after a check ends the update. -/
theorem ends_publish (draft : Draft Value) :
    driver.Ends id node (do StepM.check; return .table (← StepM.publish draft) : StepM σ Product) a
      (fun product acts _ => product = .table draft.finish ∧ acts = []) := by
  refine .check_bind fun hlive => ?_
  refine .bind (enacts_publish draft a) ?_ ?_
  · rintro - table acts b ⟨-, rfl, -⟩
    exact List.not_mem_nil
  · rintro table acts b ⟨rfl, rfl, henv⟩
    exact .of_pure (by rw [henv]; exact hlive) ⟨rfl, rfl⟩

/-- A fault ends the update after a check. -/
theorem ends_failWith (fault : Fault) :
    driver.Ends id node (StepM.failWith id fault) a
      (fun product acts _ => product = .table (.faulted fault) ∧ acts = []) := by
  refine .check_bind fun hlive => ?_
  exact .record_bind rfl (.of_pure hlive ⟨rfl, rfl⟩)

/-! ### The updates -/

/-- What an update did that began in one state and ended with this product in another. Its
function was called for its arguments, up to the first fault; with this fault the update
ended, unless a source was faulted. Then nothing was done at all. -/
structure Performs (driver : Driver σ) (tables : NodeId → Table Value) (id : NodeId)
    (node : Node σ) (a : Ambient σ) (product : Product) (acts : List (Act σ))
    (b : Ambient σ) : Prop where
  called : ∃ fault?, UpToFault (driver.arguments tables id node) (Act.calls acts) fault? ∧
    ((∀ source ∈ node.sources, (tables source).isFaulted = false) →
      (∀ left right, node.role ≠ .combine left right) → product.fault? = fault?)
  carried : ∀ source ∈ node.sources, (tables source).isFaulted = true → b = a

/-- How an update from one source begins. -/
theorem ends_of_source {source : NodeId} {rest : StepM σ Product}
    (hsources : node.sources = [source]) (hlive : a.env.cancelled = false)
    (hrest : driver.spares tables id source = false → (tables source).isFaulted = false →
      driver.Ends id node rest a (driver.Performs tables id node a)) :
    driver.Ends id node (if (tables source).isCompacted && !(driver.baseline id).isEmpty then
        pure .unchanged
      else if (tables source).isFaulted then
        pure (.table ((tables source).carryFault (.engine (driver.site id 0))))
      else rest) a (driver.Performs tables id node a) := by
  have harguments : driver.spares tables id source = true →
      driver.arguments tables id node = [] := by
    intro hspares
    refine arguments_of_spares fun other hother => ?_
    rw [hsources, List.singleton_inj] at hother
    rwa [← hother]
  -- The two branches that spare the function come first, and what is left is due.
  by_cases hreuse : ((tables source).isCompacted && !(driver.baseline id).isEmpty) = true
  · rw [if_pos hreuse]
    refine .of_pure hlive ⟨⟨none, ?_, fun _ _ => rfl⟩, fun _ _ _ => rfl⟩
    rw [harguments (by rw [spares, hreuse, Bool.or_true])]
    exact .nil
  rw [if_neg hreuse]
  by_cases hfaulted : (tables source).isFaulted = true
  · rw [if_pos hfaulted]
    refine .of_pure hlive ⟨⟨none, ?_, fun hnone _ => ?_⟩, fun _ _ _ => rfl⟩
    · rw [harguments (by rw [spares, hfaulted, Bool.true_or])]
      exact .nil
    · rw [hnone source (by simp [hsources])] at hfaulted
      cases hfaulted
  rw [if_neg hfaulted]
  exact hrest (by simp [spares, hreuse, hfaulted]) (by simpa using hfaulted)

/-- A transform calls its function for the items that are due. -/
theorem ends_transform {source : NodeId} {function : Transform σ}
    (hrole : node.role = .transform source function) (hlive : a.env.cancelled = false)
    (hcount : (tables source).isFaulted = false → (driver.baseline id).isEmpty = false →
      ((tables source).items.filter (!·.isAdded)).length ≤ (driver.baseline id).groups.length) :
    driver.Ends id node (function.update (driver.site id 0) (driver.comparer id node)
      (driver.baseline id) (tables source)) a (driver.Performs tables id node a) := by
  have hsources : node.sources = [source] := Node.sources_of_role hrole
  have hends : node.role.endsComparing ≠ true := by simp [hrole, Role.endsComparing]
  refine ends_of_source hsources hlive fun hspares hfaulted => ?_
  have hcarried : ∀ b, ∀ s ∈ node.sources, (tables s).isFaulted = true → b = a := by
    simp [hsources, hfaulted]
  refine .bind (Transform.enacts_write hrole _ _) (fun h => absurd h hends) ?_
  rintro result acts b hcalls
  rw [Draft.pending_against, List.length_map,
    due_eq_arguments hrole hspares (hcount hfaulted)] at hcalls
  cases result with
  | error fault =>
    refine (ends_failWith fault).mono ?_
    rintro product acts' c ⟨rfl, rfl⟩
    rw [List.append_nil]
    exact ⟨⟨some fault, hcalls, fun _ _ => rfl⟩, hcarried c⟩
  | ok draft =>
    refine (ends_publish draft).mono ?_
    rintro product acts' c ⟨rfl, rfl⟩
    rw [List.append_nil]
    exact ⟨⟨none, hcalls, fun _ _ => rfl⟩, hcarried c⟩

/-- Applying the function of a batch is one call, unless the library collects. -/
theorem enacts_apply {source : NodeId} {function : Reduction σ}
    (hrole : node.role = .batch source function) (values : List Value)
    (hlive : a.env.cancelled = false) :
    driver.Enacts id node (Batch.apply function id values) a
      (fun answer acts _ => .compared ∉ acts ∧
        UpToFault (function.arguments values) (Act.calls acts) (Fault.of? answer)) := by
  have hinvoke : function ≠ .collect → driver.Enacts id node
      (StepM.invoke id (.list values) (function.call values)) a
      (fun answer acts _ => .compared ∉ acts ∧
        UpToFault [.list values] (Act.calls acts) (Fault.of? answer)) := by
    intro _
    refine (enacts_invoke (Node.calls_of_batch hrole values) ?_ hlive).mono ?_
    · intro env answer after hrun
      rw [hrole]
      exact ⟨values, rfl, hrun⟩
    · rintro answer acts b - ⟨call, rfl, hargument, hanswer⟩
      have hcall := UpToFault.singleton call
      rw [Call.fault?, hanswer, hargument] at hcall
      exact ⟨by simp, by simpa using hcall⟩
  cases function with
  | collect => exact .of_pure ⟨List.not_mem_nil, .nil⟩
  | one f =>
    unfold Enacts Ensures
    rw [Batch.run_apply_one]
    exact hinvoke (by simp)
  | many f => exact hinvoke (by simp)

/-- A batch node calls its function once where its source changed, and else not at all. -/
theorem ends_batch {source : NodeId} {function : Reduction σ}
    (hrole : node.role = .batch source function) (hlive : a.env.cancelled = false)
    (hsingle : (driver.baseline id).isEmpty = false → (driver.baseline id).groups.length = 1) :
    driver.Ends id node (Batch.update function (driver.site id 0) (driver.comparer id node)
      (driver.baseline id) (tables source)) a (driver.Performs tables id node a) := by
  have hsources : node.sources = [source] := Node.sources_of_role hrole
  have hends : node.role.endsComparing = true := by simp [hrole, Role.endsComparing]
  refine ends_of_source hsources hlive fun hspares hfaulted => ?_
  have hcarried : ∀ b, ∀ s ∈ node.sources, (tables s).isFaulted = true → b = a := by
    simp [hsources, hfaulted]
  have harguments : driver.arguments tables id node
      = function.arguments (tables source).values := by
    simp [arguments, hrole, hspares]
  refine .bind (enacts_apply hrole _ hlive) (fun _ _ _ _ h => h.1) ?_
  rintro result acts b ⟨-, hcalls⟩
  rw [← harguments] at hcalls
  cases result with
  | error fault =>
    refine (ends_failWith fault).mono ?_
    rintro product acts' c ⟨rfl, rfl⟩
    rw [List.append_nil]
    exact ⟨⟨some fault, hcalls, fun _ _ => rfl⟩, hcarried c⟩
  | ok outputs =>
    refine .check_bind fun hlive' => ?_
    -- Only comparisons are left, and none of them makes a fault.
    have hwrite : driver.Compares id node (Batch.write (driver.site id 0)
        (driver.comparer id node) (driver.baseline id) outputs) b
        (fun product => product.fault? = none) := by
      have hpublish : ∀ (draft : Draft Value) (c : Ambient σ), driver.Compares id node
          (do return .table (← StepM.publish draft) : StepM σ Product) c
          (fun product => product.fault? = none) := fun draft c =>
        (compares_publish draft c).bind fun table _ htable => .of_pure (by rw [htable]; rfl)
      unfold Batch.write
      by_cases hempty : (driver.baseline id).isEmpty = true
      · rw [if_pos hempty]
        exact hpublish _ b
      · rw [if_neg hempty, if_pos (hsingle (by simpa using hempty))]
        exact (compares_reviseOrAdd _ outputs b).bind fun draft c _ => hpublish draft c
    refine (Ends.of_compares hwrite hends hlive').mono ?_
    rintro product acts' c ⟨hproduct, hnone⟩
    refine ⟨⟨none, ?_, fun _ _ => hproduct⟩, hcarried c⟩
    rw [Act.calls_append, hnone, List.append_nil]
    exact hcalls

/-- A combining node calls no function. -/
theorem ends_combine {left right : NodeId} (hrole : node.role = .combine left right)
    (hlive : a.env.cancelled = false) :
    driver.Ends id node (Combine.update (driver.site id 0) (driver.comparer id node)
      (driver.baseline id) (tables left) (tables right)) a
      (driver.Performs tables id node a) := by
  have hsources : node.sources = [left, right] := Node.sources_of_role hrole
  have hends : node.role.endsComparing ≠ true := by simp [hrole, Role.endsComparing]
  -- A combine has no function, so it is enough that nothing is called.
  have hperforms : ∀ product acts b, Act.calls acts = [] →
      (∀ source ∈ node.sources, (tables source).isFaulted = true → b = a) →
      driver.Performs tables id node a product acts b := by
    intro product acts b hcalls hcarried
    refine ⟨⟨none, ?_, fun _ hcombine => absurd hrole (hcombine left right)⟩, hcarried⟩
    rw [hcalls]
    simpa [arguments, hrole] using UpToFault.nil
  unfold Combine.update
  by_cases hreuse : ((tables left).isCompacted && (tables right).isCompacted
      && !(driver.baseline id).isEmpty) = true
  · rw [if_pos hreuse]
    exact .of_pure hlive (hperforms _ _ _ rfl fun _ _ _ => rfl)
  rw [if_neg hreuse]
  by_cases hleft : (tables left).isFaulted = true
  · rw [if_pos hleft]
    exact .of_pure hlive (hperforms _ _ _ rfl fun _ _ _ => rfl)
  rw [if_neg hleft]
  by_cases hright : (tables right).isFaulted = true
  · rw [if_pos hright]
    exact .of_pure hlive (hperforms _ _ _ rfl fun _ _ _ => rfl)
  rw [if_neg hright]
  have hcarried : ∀ b, ∀ source ∈ node.sources, (tables source).isFaulted = true → b = a := by
    simp [hsources, hleft, hright]
  cases (tables right).single? with
  | none => exact .record_bind rfl (.of_pure hlive (hperforms _ _ _ rfl (hcarried _)))
  | some item =>
    refine .bind (Combine.enacts_write hrole _ _) (fun h => absurd h hends) ?_
    rintro draft acts b hcalls
    refine (ends_publish draft).mono ?_
    rintro product acts' c ⟨-, rfl⟩
    rw [List.append_nil]
    exact hperforms _ _ _ hcalls (hcarried c)

/-- An input calls no function. -/
theorem ends_input (hrole : node.role = .input) (hlive : a.env.cancelled = false) :
    driver.Ends id node (Input.update id (driver.comparer id node) (driver.baseline id)
      (driver.valuesOf id)) a (driver.Performs tables id node a) := by
  have hnone : node.sources = [] := Node.sources_of_role hrole
  have hends : node.role.endsComparing = true := by simp [hrole, Role.endsComparing]
  have hupdate : driver.Compares id node (Input.update id (driver.comparer id node)
      (driver.baseline id) (driver.valuesOf id)) a (fun product => product.fault? = none) := by
    refine (Input.compares_write _ _).bind fun table b htable => .of_pure ?_
    split
    · rfl
    · exact htable
  refine (Ends.of_compares hupdate hends hlive).mono ?_
  rintro product acts b ⟨hproduct, hcalls⟩
  refine ⟨⟨none, ?_, fun _ _ => hproduct⟩, by simp [hnone]⟩
  rw [hcalls]
  simpa [arguments, hrole] using UpToFault.nil

/-- The update of a node performs what it should, if the baseline of a transform has a
group for each item of the source that is not added and that of a batch is one group. -/
theorem ends_updateNode (hnode : driver.pipeline.node? id = some node)
    (hbuiltIn : node.role.isBuiltIn = true)
    (hcount : ∀ source function, node.role = .transform source function →
      (tables source).isFaulted = false → (driver.baseline id).isEmpty = false →
      ((tables source).items.filter (!·.isAdded)).length ≤ (driver.baseline id).groups.length)
    (hsingle : ∀ source function, node.role = .batch source function →
      (driver.baseline id).isEmpty = false → (driver.baseline id).groups.length = 1) :
    driver.Ends id node (driver.updateNode tables id node) a
      (driver.Performs tables id node (a.note (.entered id))) := by
  refine .check_bind fun _ => .record_bind rfl (.check_bind fun hlive => ?_)
  unfold updateFrom
  cases hrole : node.role with
  | input =>
    simp only [inputValues_of_node? hnode]
    exact ends_input hrole hlive
  | transform source function => exact ends_transform hrole hlive (hcount source function hrole)
  | batch source function => exact ends_batch hrole hlive (hsingle source function hrole)
  | combine left right => exact ends_combine hrole hlive
  | custom name turns program =>
    rw [hrole] at hbuiltIn
    cases hbuiltIn

end Driver

end DeltaPipeline
