import DeltaPipeline.Proofs.Recompute

/-!
# `DeltaPipeline.Proofs.Equivalence`: a run gives what a fresh driver gives

With pure functions and comparers that accept equal values only, what was done to a
driver before does not show in what a run gives: its tables obey the equations that the
tables of a first run obey, and these have one solution. The tags may differ.

* `Driver.ComparesSoundly`: all comparers along a history are sound.
* `Driver.exists_report_remade`: the first run of a fresh driver completes.
* `Driver.sameOutcomes_of_recompute`: runs that obey the equations give the same.
* `Driver.recompute_after`: after any history a run gives what a fresh driver gives.
-/

set_option autoImplicit false

namespace DeltaPipeline

variable {σ : Type}

namespace Driver

variable {driver : Driver σ} {id : NodeId} {node : Node σ}
  {answer : UserCode σ (Except Fault (List Value)) → Except Cause (List Value)}

/-! ### Sound comparers along a history -/

/-- All comparers in play accept equal values only: those that the nodes declare and
those set in the history. -/
structure ComparesSoundly (pipeline : Pipeline σ) (ops : List (Operation σ)) : Prop where
  declared : ∀ node ∈ pipeline.nodes, node.comparer.Sound
  set : ∀ handle comparer, .change (.setComparer handle comparer) ∈ ops → comparer.Sound

namespace ComparesSoundly

variable {pipeline : Pipeline σ} {ops : List (Operation σ)}

/-- The comparer in effect for a node is sound. -/
theorem comparer_sound (h : ComparesSoundly pipeline ops) (tracksSteps : Bool)
    (hnode : pipeline.node? id = some node) :
    (((fresh pipeline tracksSteps).after ops).comparer id node).Sound := by
  unfold comparer
  cases hset : ((fresh pipeline tracksSteps).after ops).overrides id with
  | none => exact h.declared node (List.mem_of_getElem? hnode)
  | some other =>
    rcases overrides_after hset with hfresh | ⟨handle, hmem⟩
    · cases hfresh
    · exact h.set handle other hmem

/-- A driver with sound comparers accepts nothing but equal values. -/
theorem admits (h : ComparesSoundly pipeline ops) (tracksSteps : Bool) :
    ((fresh pipeline tracksSteps).after ops).Admits fun _ => Eq := by
  intro id node hnode kept _ current hequals
  rw [pipeline_after] at hnode
  exact h.comparer_sound tracksSteps hnode kept current hequals

/-- With sound comparers the baselines fit together exactly. -/
theorem coherent (h : ComparesSoundly pipeline ops) (hbuiltIn : pipeline.IsBuiltIn)
    (tracksSteps : Bool) : ((fresh pipeline tracksSteps).after ops).Coherent fun _ => Eq := by
  refine coherent_after hbuiltIn (coherent_fresh pipeline tracksSteps) ops ?_
  intro before env rest report hops _
  have hbefore : ComparesSoundly pipeline before :=
    ⟨h.declared, fun handle comparer hmem => h.set handle comparer (by
      rw [hops]
      exact List.mem_append_left _ hmem)⟩
  exact hbefore.admits tracksSteps

end ComparesSoundly

/-! ### A fresh driver completes its first run -/

/-- Steps that call pure functions and compare nothing go on as long as the run is not
cancelled. -/
theorem steady_live {role : Role σ NodeId} {comparer : Comparer σ}
    (hpure : ∀ code, role.Calls code → ∃ answer, code.Gives answer) :
    Steady (fun a : Ambient σ => a.env.cancelled = false) (fun _ _ => False) id comparer []
      role.Calls where
  check := fun a ha hcancelled => by
    rw [ha] at hcancelled
    cases hcancelled
  note := fun _ _ _ ha => ha
  perform := by
    intro code hcalls a ha
    obtain ⟨answer, hanswer⟩ := hpure code hcalls
    obtain ⟨given, after, hcode, hcancelled, -⟩ := hanswer a.env
    have hrun : (StepM.perform id code).run.run a
        = (.ok given, StepM.watched id .function a.env { a with env := after }) := by
      rw [StepM.run_perform, hcode]
      rfl
    refine Ensures.intro (fun result b hresult => ?_) fun stop b hresult => ?_
    · rw [hrun] at hresult
      rw [← (Prod.mk.inj hresult).2, StepM.watched, hcancelled, ha]
      exact hcancelled.trans ha
    · rw [hrun] at hresult
      cases hresult
  compare := fun _ hprevious => absurd hprevious List.not_mem_nil

/-- A driver that was just made, with the values of another one set on its inputs. -/
def remade (driver : Driver σ) : Driver σ where
  pipeline := driver.pipeline
  tracksSteps := driver.tracksSteps
  inputs := driver.inputs

/-- A driver that is made anew holds no baselines, so they agree. -/
theorem coherent_remade {accepts : NodeId → Value → Value → Prop} (driver : Driver σ) :
    driver.remade.Coherent accepts :=
  coherent_of_baselines_nil rfl

/-- It holds no values yet, so it has nothing to compare. -/
theorem admits_remade {accepts : NodeId → Value → Value → Prop} (driver : Driver σ) :
    driver.remade.Admits accepts := by
  intro id node _ kept hkept
  cases hkept

/-- A pure pipeline that is made anew completes its run. -/
theorem exists_report_remade (hbuiltIn : driver.pipeline.IsBuiltIn)
    (hpure : driver.pipeline.IsPure) {env : Env σ} (henv : env.cancelled = false) :
    ∃ report, (driver.remade.run env).result = .ok report := by
  -- Nothing cancels the run, no function gives up, and there is nothing to compare.
  have hsweep := @ensures_sweep σ driver.remade (fun _ => Eq)
    (fun a => a.env.cancelled = false) (fun _ _ => False) env hbuiltIn (coherent_remade driver)
    (admits_remade driver) henv fun _ node hnode =>
      steady_live (hpure node (List.mem_of_getElem? hnode))
  rcases run_cases hsweep with ⟨s, -, hs⟩ | ⟨stop, s, hfalse, -⟩
  · exact ⟨_, congrArg Ran.result hs⟩
  · exact hfalse.elim

/-! ### A run gives what computing anew gives -/

/-- The tables of a run that completes obey the equations. -/
theorem outcome_of_run (hbuiltIn : driver.pipeline.IsBuiltIn)
    (hcoherent : driver.Coherent fun _ => Eq) (hadmits : driver.Admits fun _ => Eq)
    (hanswer : ∀ node ∈ driver.pipeline.nodes, ∀ code, node.role.Calls code →
      code.Gives (answer code)) {env : Env σ} {report : Report}
    (hrun : (driver.run env).result = .ok report) :
    ∀ id node, driver.pipeline.node? id = some node →
      report.find? id = some (report.tableOf id) ∧
      (report.tableOf id).outcome = node.recompute answer (driver.valuesOf id)
        (fun source => (report.tableOf source).outcome) id := by
  obtain ⟨hcompletes, -, -⟩ := completes_of_run hbuiltIn hcoherent hadmits hrun
  intro id node hnode
  have hmem : node ∈ driver.pipeline.nodes := List.mem_of_getElem? hnode
  refine ⟨hcompletes.find?_eq_some hnode, ?_⟩
  refine outcome_of_computes (hanswer node hmem) (hcoherent id node hnode) ?_
    (hadmits id node hnode) (hbuiltIn node hmem) (hcompletes.computes id node hnode)
  intro source hsource
  obtain ⟨node', hnode'⟩ := (Pipeline.exists_source hnode hsource).2
  exact hcompletes.follows hcoherent hnode'

end Driver

/-- Each of these nodes has a table in both reports, and gave the same in both: the same
values, or a failure with the same cause. -/
def Report.SameOutcomes (ids : List NodeId) (report report' : Report) : Prop :=
  ∀ id ∈ ids, ∃ table table', report.find? id = some table ∧ report'.find? id = some table' ∧
    table.outcome = table'.outcome

namespace Driver

/-- Two runs over nodes with the same roles, with the same values set, give the same if
both obey the equations. -/
theorem sameOutcomes_of_recompute {driver driver' : Driver σ}
    {answer : UserCode σ (Except Fault (List Value)) → Except Cause (List Value)}
    {report report' : Report}
    (hroles : driver'.pipeline.nodes.map Node.role = driver.pipeline.nodes.map Node.role)
    (hset : ∀ id ∈ driver.pipeline.ids, driver.valuesOf id = driver'.valuesOf id)
    (h : ∀ id node, driver.pipeline.node? id = some node →
      report.find? id = some (report.tableOf id) ∧
      (report.tableOf id).outcome = node.recompute answer (driver.valuesOf id)
        (fun source => (report.tableOf source).outcome) id)
    (h' : ∀ id node, driver'.pipeline.node? id = some node →
      report'.find? id = some (report'.tableOf id) ∧
      (report'.tableOf id).outcome = node.recompute answer (driver'.valuesOf id)
        (fun source => (report'.tableOf source).outcome) id) :
    report.SameOutcomes driver.pipeline.ids report' := by
  intro id hid
  obtain ⟨node, hnode⟩ :=
    (Pipeline.contains_iff _ id).mp ((Pipeline.mem_ids _ id).mp hid)
  -- The same roles make as many nodes, so the other driver has this node too.
  have hsize : driver'.pipeline.nodes.length = driver.pipeline.nodes.length := by
    have hlengths := congrArg List.length hroles
    rwa [List.length_map, List.length_map] at hlengths
  have hlt : id.raw < driver'.pipeline.nodes.length := by
    rw [hsize]
    exact (List.getElem?_eq_some_iff.mp hnode).1
  have hnode' : driver'.pipeline.node? id = some driver'.pipeline.nodes[id.raw] :=
    List.getElem?_eq_getElem hlt
  refine ⟨_, _, (h id node hnode).1, (h' id _ hnode').1, ?_⟩
  exact given_unique hroles hset (fun id node hnode => (h id node hnode).2)
    (fun id node hnode => (h' id node hnode).2) id node hnode

/-- With pure functions and sound comparers, whatever was done to a driver before: a run
that completes gives for every node what the first run of a fresh driver with the same
values set gives, and that run completes unless it was cancelled from the start. And it
gives what a run gives after any other history that leaves the same values set, over
nodes with the same roles and other sound comparers. -/
theorem recompute_after {pipeline : Pipeline σ} (hbuiltIn : pipeline.IsBuiltIn)
    (hpure : pipeline.IsPure) (tracksSteps : Bool) (ops : List (Operation σ))
    (hsound : ComparesSoundly pipeline ops) (env : Env σ) (report : Report)
    (hrun : (((fresh pipeline tracksSteps).after ops).run env).result = .ok report) :
    let driver := (fresh pipeline tracksSteps).after ops
    (∀ env' : Env σ, env'.cancelled = false →
      ∃ report', (driver.remade.run env').result = .ok report' ∧
        report.SameOutcomes pipeline.ids report') ∧
    ∀ (other : Pipeline σ) (tracksSteps' : Bool) (ops' : List (Operation σ)) (env' : Env σ)
      (report' : Report), other.nodes.map Node.role = pipeline.nodes.map Node.role →
      ComparesSoundly other ops' →
      (∀ id ∈ pipeline.ids,
        driver.valuesOf id = ((fresh other tracksSteps').after ops').valuesOf id) →
      (((fresh other tracksSteps').after ops').run env').result = .ok report' →
      report.SameOutcomes pipeline.ids report' := by
  intro driver
  have hpipeline : driver.pipeline = pipeline := pipeline_after ops
  have hbuiltIn' : driver.pipeline.IsBuiltIn := hpipeline ▸ hbuiltIn
  obtain ⟨answer, hanswer⟩ := hpure.exists_answer
  have hthis := outcome_of_run hbuiltIn' (hsound.coherent hbuiltIn tracksSteps)
    (hsound.admits tracksSteps) (fun node hnode => hanswer node (hpipeline ▸ hnode)) hrun
  constructor
  · intro env' henv'
    obtain ⟨report', hrun'⟩ := exists_report_remade hbuiltIn' (hpipeline ▸ hpure) henv'
    have hfresh := @outcome_of_run σ driver.remade answer hbuiltIn' (coherent_remade driver)
      (admits_remade driver) (fun node hnode => hanswer node (hpipeline ▸ hnode)) env' report' hrun'
    refine ⟨report', hrun', ?_⟩
    rw [← hpipeline]
    exact sameOutcomes_of_recompute rfl (fun _ _ => rfl) hthis hfresh
  · intro other tracksSteps' ops' env' report' hroles hsound' hset hrun'
    -- Its nodes have the roles of these, so they run the same code.
    have hsame : ∀ node' ∈ other.nodes, ∃ node ∈ pipeline.nodes, node.role = node'.role := by
      intro node' hnode'
      have hmem : node'.role ∈ pipeline.nodes.map Node.role := by
        rw [← hroles]
        exact List.mem_map_of_mem hnode'
      exact List.mem_map.mp hmem
    have hbuiltInOther : other.IsBuiltIn := by
      intro node' hnode'
      obtain ⟨node, hnode, hrole⟩ := hsame node' hnode'
      rw [← hrole]
      exact hbuiltIn node hnode
    have hanswerOther : ∀ node ∈ other.nodes, ∀ code, node.role.Calls code →
        code.Gives (answer code) := by
      intro node' hnode' code hcalls
      obtain ⟨node, hnode, hrole⟩ := hsame node' hnode'
      rw [← hrole] at hcalls
      exact hanswer node hnode code hcalls
    have hother : ((fresh other tracksSteps').after ops').pipeline = other := pipeline_after ops'
    have hthat := outcome_of_run (by rw [hother]; exact hbuiltInOther)
      (hsound'.coherent hbuiltInOther tracksSteps') (hsound'.admits tracksSteps')
      (by rw [hother]; exact hanswerOther) hrun'
    rw [← hpipeline] at hroles hset ⊢
    exact sameOutcomes_of_recompute (by rw [hother]; exact hroles) hset hthis hthat

end Driver

/-- The value that is left in the end is set, and nothing else is done. -/
def Sample.shortcut : List (Driver.Operation Unit) :=
  [.change (.setInput ⟨0, ⟨0⟩, .value⟩ [.bool true])]

namespace Driver

/-- The comparers of the small pipeline accept equal values only, the one set for the
negations not even those. -/
theorem comparesSoundly_sample : ComparesSoundly Sample.pipeline Sample.history where
  declared := by
    intro node hnode
    simp only [Sample.pipeline, List.mem_cons, List.not_mem_nil, or_false] at hnode
    rcases hnode with rfl | rfl | rfl | rfl <;> exact Comparer.structural_sound
  set := by
    intro handle comparer hmem
    simp only [Sample.history, List.mem_cons, List.not_mem_nil, or_false, Operation.change.injEq,
      Change.setComparer.injEq, reduceCtorEq, false_or] at hmem
    obtain ⟨-, rfl⟩ := hmem
    intro previous current hequals
    cases hequals

/-- The small pipeline, run again after a value was taken away, gives what a fresh driver
gives for the value that is left, also where no comparer was set. -/
theorem recompute_after_sample :
    Sample.pipeline.IsBuiltIn ∧ Sample.pipeline.IsPure ∧
      ComparesSoundly Sample.pipeline Sample.history ∧
      ComparesSoundly Sample.pipeline Sample.shortcut ∧
      ∃ report report' report'', (Sample.driver.run ⟨(), false⟩).result = .ok report ∧
        (Sample.driver.remade.run ⟨(), false⟩).result = .ok report' ∧
        report.SameOutcomes Sample.pipeline.ids report' ∧
        (((fresh Sample.pipeline false).after Sample.shortcut).run ⟨(), false⟩).result
          = .ok report'' ∧
        report.SameOutcomes Sample.pipeline.ids report'' := by
  obtain ⟨report, hrun, -⟩ := Sample.exists_report
  have h := recompute_after Sample.isBuiltIn Sample.isPure false Sample.history
    comparesSoundly_sample ⟨(), false⟩ report hrun
  obtain ⟨report', hrun', hsame⟩ := h.1 ⟨(), false⟩ rfl
  have hshort : ComparesSoundly Sample.pipeline Sample.shortcut := by
    refine ⟨comparesSoundly_sample.declared, fun handle comparer hmem => ?_⟩
    simp [Sample.shortcut] at hmem
  have hset : ∀ id ∈ Sample.pipeline.ids, Sample.driver.valuesOf id
      = ((fresh Sample.pipeline false).after Sample.shortcut).valuesOf id := by
    decide +kernel
  have hcompletes : (((fresh Sample.pipeline false).after Sample.shortcut).run
      ⟨(), false⟩).result.toOption.isSome = true := by
    decide +kernel
  cases hrun'' : (((fresh Sample.pipeline false).after Sample.shortcut).run
      ⟨(), false⟩).result with
  | error stop =>
    rw [hrun''] at hcompletes
    cases hcompletes
  | ok report'' =>
    have hsame' := h.2 Sample.pipeline false Sample.shortcut ⟨(), false⟩ report'' rfl hshort
      hset hrun''
    exact ⟨Sample.isBuiltIn, Sample.isPure, comparesSoundly_sample, hshort, report, report',
      report'', hrun, hrun', hsame, rfl, hsame'⟩

end Driver

end DeltaPipeline
