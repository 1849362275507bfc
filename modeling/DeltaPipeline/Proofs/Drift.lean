import DeltaPipeline.Proofs.Alignment

/-!
# `DeltaPipeline.Proofs.Drift`: kept values are one comparison away

A value that a comparer accepted is kept, and may be kept on through many runs. It
still stands for what the node's function gives for the live values of this run: each
time the function was called, the result was compared with the kept value itself, and
meanwhile the source did not change. So nothing is kept through a chain of comparisons,
also where the comparer is not transitive.

* `Pipeline.IsPure`: the functions depend on their arguments alone.
* `Driver.Accepted`: what comparers accepted in the completed runs of a history.
* `Driver.fits_after`: every node that did not fail fits the live values of its sources.
-/

set_option autoImplicit false

namespace DeltaPipeline

variable {σ : Type}

/-- In every environment the code gives these values. -/
def UserCode.AlwaysYields (code : UserCode σ (Except Fault (List Value)))
    (outputs : List Value) : Prop :=
  code.Gives (.ok outputs)

/-- The functions of all nodes give the same in every environment, values or a fault,
and neither cancel the run nor give up. -/
def Pipeline.IsPure (pipeline : Pipeline σ) : Prop :=
  ∀ node ∈ pipeline.nodes, ∀ code, node.role.Calls code → ∃ answer, code.Gives answer

/-- What a pure function may give it always gives. -/
theorem Pipeline.IsPure.alwaysYields {pipeline : Pipeline σ} (hpure : pipeline.IsPure)
    {id : NodeId} {node : Node σ} (hnode : pipeline.node? id = some node)
    {code : UserCode σ (Except Fault (List Value))} (hcalls : node.role.Calls code)
    {outputs : List Value} (h : code.MayYield outputs) : code.AlwaysYields outputs := by
  obtain ⟨answer, hanswer⟩ := hpure node (List.mem_of_getElem? hnode) code hcalls
  exact hanswer.of_mayGive_ok h

namespace Driver

/-- In a run of the history that completed, the node held the value `kept`, and the
comparer then in effect for it accepted it in place of `current`. -/
def Accepted (start : Driver σ) (ops : List (Operation σ)) (id : NodeId)
    (kept current : Value) : Prop :=
  ∃ before env rest report node, ops = before ++ .run env :: rest ∧
    ((start.after before).run env).result = .ok report ∧
    start.pipeline.node? id = some node ∧ kept ∈ ((start.after before).baseline id).values ∧
    ((start.after before).comparer id node).equals kept current = true

/-- A run of a history that completes admits what is accepted in the history. -/
theorem admits_accepted {start : Driver σ} {before rest : List (Operation σ)} {env : Env σ}
    {report : Report} (hrun : ((start.after before).run env).result = .ok report) :
    (start.after before).Admits (start.Accepted (before ++ .run env :: rest)) := by
  intro id node hnode kept hkept current hequals
  rw [pipeline_after] at hnode
  exact ⟨before, env, rest, report, node, rfl, hrun, hnode, hkept, hequals⟩

/-- The baselines after a history fit together by what is accepted in the history, or in
one that goes on from it. -/
theorem coherent_accepted {pipeline : Pipeline σ} (hbuiltIn : pipeline.IsBuiltIn)
    (tracksSteps : Bool) (ops rest : List (Operation σ)) :
    ((fresh pipeline tracksSteps).after ops).Coherent
      ((fresh pipeline tracksSteps).Accepted (ops ++ rest)) := by
  refine coherent_after hbuiltIn (coherent_fresh pipeline tracksSteps) ops ?_
  intro before env later report hops hrun
  -- A run of the shorter history is a run of the longer one.
  have hsplit : ops ++ rest = before ++ .run env :: (later ++ rest) := by
    rw [hops, List.append_assoc, List.cons_append]
  rw [hsplit]
  exact admits_accepted hrun

/-- Whatever was done to a driver before: in a run that completes, a node that did not
fail has the values that its function gives for the live values of its sources in this
run, group by group, or values that a comparer accepted in place of exactly these in
this run or one before. -/
theorem fits_after {pipeline : Pipeline σ} (hbuiltIn : pipeline.IsBuiltIn)
    (hpure : pipeline.IsPure) (tracksSteps : Bool) (ops : List (Operation σ)) (env : Env σ)
    (report : Report)
    (hrun : (((fresh pipeline tracksSteps).after ops).run env).result = .ok report)
    (id : NodeId) (node : Node σ) (hnode : pipeline.node? id = some node) :
    ∃ table, report.find? id = some table ∧ (table.isFaulted = false →
      (∀ source ∈ node.sources, (report.tableOf source).isFaulted = false) ∧
      table.values = (Group.present table.groups).flatten ∧
      node.Fits ((fresh pipeline tracksSteps).Accepted (ops ++ [.run env]) id)
        UserCode.AlwaysYields (((fresh pipeline tracksSteps).after ops).valuesOf id)
        report.tableOf (Group.present table.groups)) := by
  have hpipeline : ((fresh pipeline tracksSteps).after ops).pipeline = pipeline :=
    pipeline_after ops
  have hcoherent := coherent_accepted hbuiltIn tracksSteps ops [.run env]
  obtain ⟨hcompletes, -, -⟩ := completes_of_run (by rw [hpipeline]; exact hbuiltIn) hcoherent
    (admits_accepted hrun) hrun
  have hnode' := hnode
  rw [← hpipeline] at hnode'
  have hadvances := (hcompletes.computes id node hnode').advances
  refine ⟨_, hcompletes.find?_eq_some hnode', fun hfault => ⟨?_, ?_, ?_⟩⟩
  · exact hadvances.closed hfault
  · exact ((hcompletes.follows hcoherent hnode').asCached hfault).2
  · -- What a pure function gave when it was called it gives in this run.
    exact (hadvances.fits hfault).mono (fun _ _ h => h) fun code hcalls outputs houtputs =>
      hpure.alwaysYields hnode hcalls houtputs

end Driver

/-- Negating and collecting are pure. -/
theorem Sample.isPure : Sample.pipeline.IsPure := by
  intro node hnode code hcalls
  have hnegate : ∀ value, ∃ answer,
      UserCode.Gives ((Transform.select Sample.negate).call value) answer := by
    intro value
    -- What is no truth value is refused by the same fault each time.
    cases value with
    | bool b => exact ⟨.ok [.bool !b], fun env => ⟨_, env, rfl, rfl, rfl⟩⟩
    | null => exact ⟨.error (.plain "no truth value"), fun env => ⟨_, env, rfl, rfl, rfl⟩⟩
    | int i => exact ⟨.error (.plain "no truth value"), fun env => ⟨_, env, rfl, rfl, rfl⟩⟩
    | text s => exact ⟨.error (.plain "no truth value"), fun env => ⟨_, env, rfl, rfl, rfl⟩⟩
    | list vs => exact ⟨.error (.plain "no truth value"), fun env => ⟨_, env, rfl, rfl, rfl⟩⟩
  simp only [Sample.pipeline, List.mem_cons, List.not_mem_nil, or_false] at hnode
  rcases hnode with rfl | rfl | rfl | rfl
  · cases hcalls
  · obtain ⟨value, rfl⟩ := hcalls
    exact hnegate value
  · obtain ⟨values, rfl⟩ := hcalls
    exact ⟨.ok [.list values], fun env => ⟨_, env, rfl, rfl, rfl⟩⟩
  · cases hcalls

namespace Driver

/-- In the small pipeline what is kept of the negations is what was computed, or was
accepted in its place. -/
theorem fits_after_sample :
    Sample.pipeline.IsBuiltIn ∧ Sample.pipeline.IsPure ∧
      ∃ report, (Sample.driver.run ⟨(), false⟩).result = .ok report ∧
        Sample.negation.Fits
          ((fresh Sample.pipeline false).Accepted (Sample.history ++ [.run ⟨(), false⟩]) ⟨1⟩)
          UserCode.AlwaysYields (Sample.driver.valuesOf ⟨1⟩) report.tableOf [[.bool false]] := by
  obtain ⟨report, hrun, hfind⟩ := Sample.exists_report
  obtain ⟨table, htable, hfits⟩ := fits_after Sample.isBuiltIn Sample.isPure false Sample.history
    ⟨(), false⟩ report hrun ⟨1⟩ Sample.negation rfl
  rw [hfind, Option.some.injEq] at htable
  subst htable
  exact ⟨Sample.isBuiltIn, Sample.isPure, report, hrun, (hfits rfl).2.2⟩

end Driver

end DeltaPipeline
