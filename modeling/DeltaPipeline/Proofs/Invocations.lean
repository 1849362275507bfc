import DeltaPipeline.Proofs.Reuse

/-!
# `DeltaPipeline.Proofs.Invocations`: what the functions of nodes are called with

The calls of a run are told by its journal, and what they answered by the environment in
which they found it: each call finds what the one before it left, but for what the
comparers of nodes did in between. Where these do nothing but decide, the journal of a
run and the environment that it began in leave no choice for its calls
(`Driver.CallsOf`).

* `Driver.CallsOf`: the calls of a run, node by node.
* `Driver.Turns.callsOf`: the calls of the turns are those of the run.
* `Driver.invocations_after`: the arguments of every node in every run.
-/

set_option autoImplicit false

namespace DeltaPipeline

variable {σ : Type}

namespace Driver

variable {driver : Driver σ} {accepts : NodeId → Value → Value → Prop} {env : Env σ}

/-- These are the calls of the nodes' functions in a run with this journal that began in
this environment. They come node by node in order of declaration, and each finds the
environment that the one before it left, but for what comparers did in between. -/
structure CallsOf (driver : Driver σ) (env : Env σ) (journal : List Event)
    (calls : NodeId → List (Call σ)) : Prop where
  listed : Event.calls journal =
    driver.pipeline.ids.flatMap fun id => (calls id).map fun call => (id, call.argument)
  threaded : ∃ last, Threads driver.Leads env (driver.pipeline.ids.flatMap calls) last
  answered : ∀ id node, driver.pipeline.node? id = some node →
    ∀ call ∈ calls id, node.role.Answers call

/-- The calls of the turns of a run are the calls of the run. -/
theorem Turns.callsOf {computed : List Computed} {a : Ambient σ}
    {calls : NodeId → List (Call σ)} (h : driver.Turns env computed a calls)
    (hcompletes : driver.Completes accepts computed) (notice : Notice) :
    driver.CallsOf env (a.journal ++ [.noticed notice]) calls := by
  have hids : driver.pipeline.ids = NodeId.firsts computed.length := by
    rw [length_of_nodes hcompletes.nodes]
    rfl
  constructor
  · rw [Event.calls_append, h.listed, hids]
    exact List.append_nil _
  · exact ⟨a.env, hids ▸ h.threaded⟩
  · exact fun id node hnode => (h.turn id node hnode (hcompletes.lt_length hnode)).answered

/-- The function of a batch has the list of all values to be called with, unless the source
is faulted or the node is reused. -/
theorem Completes.arguments_of_batch {computed : List Computed} {id source : NodeId}
    {node : Node σ} {function : Reduction σ} (h : driver.Completes accepts computed)
    (hcoherent : driver.Coherent accepts) (hnode : driver.pipeline.node? id = some node)
    (hrole : node.role = .batch source function) (hfunction : function ≠ .collect) :
    driver.arguments (Computed.tableOf computed) id node =
      if (Computed.tableOf computed source).isFaulted = true ∨
          (Computed.tableOf computed id).isCompacted = true then []
      else [.list (Computed.tableOf computed source).values] := by
  have hsources : node.sources = [source] := Node.sources_of_role hrole
  have hreused : (Computed.tableOf computed id).isCompacted = true ↔
      (driver.baseline id).isEmpty = false ∧
        (Computed.tableOf computed source).isCompacted = true := by
    rw [h.isCompacted_iff hcoherent hnode (by simp [hsources])]
    simp [hsources]
  have hlist : function.arguments (Computed.tableOf computed source).values
      = [.list (Computed.tableOf computed source).values] := by
    cases function with
    | collect => exact absurd rfl hfunction
    | one f => rfl
    | many f => rfl
  unfold arguments spares
  simp only [hrole, hlist, hreused, Bool.or_eq_true, Bool.and_eq_true, Bool.not_eq_true', and_comm]

/-- After any history and in every run that completes, the calls of the run are those of
its nodes in order of declaration, and the function of a node is called for
`Driver.arguments`, up to the first fault: a transform for nothing if its source is faulted
or if it is compacted and the node's own baseline holds something, else for all values of
the source if the baseline holds nothing, and for those added or modified if it does. The
function of a batch is called once with the list of all values of its source, unless that
is faulted or the node is reused. A batch that collects calls nothing: its list is made by the
library, without any code of the host, and so are the tables of inputs and pairings. -/
theorem invocations_after {pipeline : Pipeline σ} (hbuiltIn : pipeline.IsBuiltIn)
    (tracksSteps : Bool) (ops : List (Operation σ)) (env : Env σ) :
    let driver := (fresh pipeline tracksSteps).after ops
    ∀ report, (driver.run env).result = .ok report →
      ∃ calls, driver.CallsOf env (driver.run env).journal calls ∧
        ∀ id node, pipeline.node? id = some node →
          UpToFault (driver.arguments report.tableOf id node) (calls id)
            ((calls id).findSome? Call.fault?) ∧
          ∀ source function, node.role = .batch source function → function ≠ .collect →
            if (report.tableOf source).isFaulted = true ∨ report.outcome? id = some .reused then
              calls id = []
            else
              ∃ call, calls id = [call] ∧ call.argument = .list (report.tableOf source).values := by
  intro driver report hrun
  have hpipeline : driver.pipeline = pipeline := pipeline_after ops
  have hcoherent : driver.Coherent fun _ _ _ => True :=
    coherent_of_history hbuiltIn tracksSteps ops
  obtain ⟨hcompletes, a, calls, notice, hturns, hjournal, -⟩ :=
    turns_of_run (hpipeline ▸ hbuiltIn) hcoherent (admits_true driver) hrun
  rw [hjournal]
  refine ⟨calls, hturns.callsOf hcompletes notice, fun id node hnode => ?_⟩
  rw [← hpipeline] at hnode
  have hturn := hturns.turn id node hnode (hcompletes.lt_length hnode)
  refine ⟨hturn.called, fun source function hrole hfunction => ?_⟩
  have hcalled : UpToFault _ (calls id) _ := hturn.called
  rw [hcompletes.arguments_of_batch hcoherent hnode hrole hfunction] at hcalled
  have hreused : report.outcome? id = some .reused ↔ _ :=
    hturn.reused_iff (hcoherent id node hnode)
  -- A batch is spared where its source is faulted or it is reused, and else called once.
  by_cases hspared : (report.tableOf source).isFaulted = true ∨
      (Computed.tableOf report.computed id).isCompacted = true
  · rw [if_pos (hspared.imp_right hreused.2)]
    exact (if_pos hspared ▸ hcalled).eq_nil.1
  · rw [if_neg fun h => hspared (h.imp_right hreused.1)]
    exact (if_neg hspared ▸ hcalled).exists_call

/-- On the first run of the small pipeline the negation is called for both values of the
input. -/
theorem invocations_after_sample :
    Sample.pipeline.IsBuiltIn ∧ ∃ report calls,
      (Sample.prepared.run ⟨(), false⟩).result = .ok report ∧
      UpToFault [.bool true, .bool false] (calls ⟨1⟩) ((calls ⟨1⟩).findSome? Call.fault?) ∧
      Sample.prepared.CallsOf ⟨(), false⟩ (Sample.prepared.run ⟨(), false⟩).journal calls := by
  have hcompletes : (Sample.prepared.run ⟨(), false⟩).completesWith (fun report =>
      Sample.prepared.arguments report.tableOf ⟨1⟩ Sample.negation
        = [.bool true, .bool false]) = true := by
    decide +kernel
  obtain ⟨report, hrun, harguments⟩ := Ran.exists_report hcompletes
  obtain ⟨calls, hcalls, hcalled⟩ :=
    invocations_after Sample.isBuiltIn false Sample.setting ⟨(), false⟩ report hrun
  refine ⟨Sample.isBuiltIn, report, calls, hrun, ?_, hcalls⟩
  rw [← of_decide_eq_true harguments]
  exact (hcalled ⟨1⟩ Sample.negation rfl).1

end Driver

end DeltaPipeline
