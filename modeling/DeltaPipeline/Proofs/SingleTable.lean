import DeltaPipeline.Proofs.Provenance
import DeltaPipeline.Proofs.Pulls

/-!
# `DeltaPipeline.Proofs.SingleTable`: one table for each node of a run

The nodes of a run pull one another in many orders, and a custom node pulls what it likes.
As long as none waits for itself, each node has one table in the end: it is computed once,
all pulls of it give that table, and the report, the statistics, the steps and the baselines
each have it once.

* `Driver.untracked`: the same driver without the record of steps, and its runs.
* `Driver.GivesOneTableEach`: the tables of a run and what is made of them.
* `Driver.RecordsStepsOf`: its steps, if they are recorded.
* `Driver.one_table_each_after`: so it is in every run after every history.
-/

set_option autoImplicit false

namespace DeltaPipeline

variable {σ : Type}

/-! ### Runs with and without steps -/

/-- The report without the record of steps. -/
def Report.untracked (report : Report) : Report :=
  { report with steps := [] }

/-- The driver, its runs without the record of steps. -/
def Driver.untracked (driver : Driver σ) : Driver σ :=
  { driver with tracksSteps := false }

/-- What came of a run, without the record of steps. -/
def Ran.untracked (ran : Ran σ) : Ran σ :=
  { ran with
    result := ran.result.map Report.untracked
    driver := ran.driver.untracked }

/-- Tracking changes nothing of how a program is carried out. -/
theorem Program.exec_untracked {α : Type} (driver : Driver σ) (self : NodeId)
    (pull : Handle → RunM σ Computed) (program : Program σ α) :
    program.exec driver.untracked self pull = program.exec driver self pull := by
  induction program with
  | done answer => rfl
  | stop reason => rfl
  | pull source next ih => simp only [exec, ih]
  | input node type next ih => exact ih (driver.inputValues node type)
  | override node type next ih => exact ih (driver.override? node type)
  | env change next ih => simp only [exec, ih]
  | observe comparer pairs next ih => simp only [exec, ih]
  | call argument next ih => simp only [exec, ih]
  | publish draft next ih => simp only [exec, ih]

namespace Driver

/-- Tracking changes nothing of how a node is pulled. -/
theorem pull_untracked (driver : Driver σ) (depth : Nat) :
    driver.untracked.pull depth = driver.pull depth := by
  -- Steps are read off the computations afterwards: no update asks whether they will be.
  have hupdate : ∀ (pull : NodeId → RunM σ Computed) (id : NodeId) (node : Node σ),
      driver.untracked.update pull id node = driver.update pull id node := by
    intro pull id node
    unfold update
    cases node.role with
    | custom name turns program => exact Program.exec_untracked driver id _ _
    | _ => rfl
  have hcompute : ∀ (pull : NodeId → RunM σ Computed) (id : NodeId),
      driver.untracked.compute pull id = driver.compute pull id := by
    intro pull id
    unfold compute
    simp only [hupdate]
    rfl
  induction depth with
  | zero => rfl
  | succ depth ih =>
    funext id
    rw [pull, pull, ih, hcompute]

/-- Tracking changes nothing of how nodes are visited. -/
theorem visitAll_untracked (driver : Driver σ) (ids : List NodeId) :
    driver.untracked.visitAll ids = driver.visitAll ids := by
  have hvisit : ∀ id, driver.untracked.visit id = driver.visit id := by
    intro id
    unfold visit
    rw [pull_untracked]
    rfl
  induction ids with
  | nil => rfl
  | cons id ids ih => rw [visitAll, visitAll, hvisit, ih]

/-- A run does not depend on whether its steps are recorded. -/
theorem run_untracked (driver : Driver σ) (env : Env σ) :
    driver.untracked.run env = (driver.run env).untracked := by
  have hvisit : (driver.untracked.visitAll driver.untracked.pipeline.ids).run.run
      (driver.untracked.start env)
      = (driver.visitAll driver.pipeline.ids).run.run (driver.start env) := by
    rw [visitAll_untracked]
    rfl
  unfold run
  rw [hvisit]
  cases (driver.visitAll driver.pipeline.ids).run.run (driver.start env) with
  | mk answer s => cases answer <;> rfl

/-- A change is the same with tracking and without. -/
theorem change_untracked (driver : Driver σ) (change : Change σ) :
    driver.untracked.change change = (driver.change change).map untracked := by
  cases change with
  | setInput handle values =>
    cases howns : driver.pipeline.owns handle with
    | false => simp [Driver.change, setInput, untracked, howns, Except.map]
    | true =>
      cases hkind : driver.pipeline.kind? handle.node with
      | none => simp [Driver.change, setInput, untracked, howns, hkind, Except.map]
      | some kind =>
        by_cases hname : kind.name = "input" <;>
          simp [Driver.change, setInput, untracked, howns, hkind, hname, Except.map]
  | clearInput handle =>
    cases howns : driver.pipeline.owns handle <;>
      simp [Driver.change, clearInput, untracked, howns, Except.map]
  | setComparer handle comparer =>
    cases howns : driver.pipeline.owns handle <;>
      simp [Driver.change, setComparer, untracked, howns, Except.map]
  | clearComparer handle =>
    cases howns : driver.pipeline.owns handle <;>
      simp [Driver.change, clearComparer, untracked, howns, Except.map]
  | reset => rfl

/-- An operation is the same with tracking and without. -/
theorem act_untracked (driver : Driver σ) (op : Operation σ) :
    driver.untracked.act op = (driver.act op).untracked := by
  cases op with
  | run env =>
    show (driver.untracked.run env).driver = _
    rw [run_untracked]
    rfl
  | change change =>
    have hsame := driver.change_untracked change
    cases hchange : driver.change change with
    | ok next =>
      rw [hchange] at hsame
      rw [act_of_ok hchange, act_of_ok hsame]
    | error e =>
      rw [hchange] at hsame
      rw [act_of_error hchange, act_of_error hsame]

/-- A history is the same with tracking and without. -/
theorem after_untracked (driver : Driver σ) (ops : List (Operation σ)) :
    driver.untracked.after ops = (driver.after ops).untracked := by
  induction ops generalizing driver with
  | nil => rfl
  | cons op ops ih => rw [after_cons, after_cons, act_untracked, ih]

/-- Whether steps are recorded stays as it was decided. -/
theorem tracksSteps_after (driver : Driver σ) (ops : List (Operation σ)) :
    (driver.after ops).tracksSteps = driver.tracksSteps := by
  have hact : ∀ (driver : Driver σ) (op : Operation σ),
      (driver.act op).tracksSteps = driver.tracksSteps := by
    intro driver op
    cases op with
    | run env =>
      show (driver.run env).driver.tracksSteps = _
      rcases driver_run driver env with hsame | ⟨report, -, hnext⟩
      · rw [hsame]
      · rw [hnext]
        rfl
    | change change =>
      cases hchange : driver.change change with
      | ok next =>
        rw [act_of_ok hchange]
        cases changesTo_of_change hchange <;> rfl
      | error e => rw [act_of_error hchange]
  induction ops generalizing driver with
  | nil => rfl
  | cons op ops ih => rw [after_cons, ih, hact]

end Driver

/-! ### What is made of the tables -/

/-- Each computation has one outcome, so it is counted once. -/
theorem Report.Stats.total_ofComputed (computed : List Computed) :
    (Report.Stats.ofComputed computed).total = computed.length := by
  induction computed with
  | nil => rfl
  | cons first rest ih =>
    simp only [ofComputed, total, List.countP_cons, List.length_cons] at ih ⊢
    cases first.outcome <;> simp <;> omega

/-- There is one fault for each faulted table. -/
theorem Report.length_faults (report : Report) :
    report.faults.length = report.latest.countP (·.table.isFaulted) := by
  rw [faults, List.length_mergeSort, List.length_filterMap_eq_countP]
  refine List.countP_congr fun c _ => ?_
  cases c.table <;> simp [Table.isFaulted, Table.fault?]

namespace Driver

variable {driver : Driver σ} {env : Env σ} {report : Report}

/-- The run computes each node once, and every pull gives the computation that the report,
the statistics and the baselines are made of. -/
structure GivesOneTableEach (driver : Driver σ) (env : Env σ) (report : Report) : Prop where
  /-- The update of each node begins once. -/
  entered : (Event.entries (driver.run env).journal).Perm driver.pipeline.ids
  /-- Each node is computed once. -/
  computed : (report.computed.map Computed.node).Perm driver.pipeline.ids
  /-- Whoever pulls a node and whenever, the pull gives the one computation of it. -/
  pulled : ∀ puller depth id s, driver.Pulls env puller depth id s → ∃ c t,
    (driver.pull depth id).run.run s = (.ok c, t) ∧ Computed.find? report.computed id = some c
  /-- The report gives the table of this computation. -/
  table : ∀ id c element, Computed.find? report.computed id = some c →
    report.table ⟨driver.pipeline.id, id, element⟩ = .ok c.table
  /-- The report has a table for each node and for nothing else. -/
  tables : (report.latest.map Computed.node).Perm driver.pipeline.ids
  total : report.stats.total = driver.pipeline.size
  faulted : report.stats.faulted = report.faults.length
  /-- The driver has a baseline for each node then, and for nothing else. -/
  baselines : ((driver.run env).driver.baselines.map Prod.fst).Perm driver.pipeline.ids
  /-- A baseline has nothing new in it and holds what is live in the table. -/
  kept : ∀ id c, Computed.find? report.computed id = some c → ∃ kept,
    (driver.run env).driver.baseline? id = some kept ∧
    (kept.condition = .empty ∨ kept.condition = .compacted) ∧
    kept.items = c.table.values.map (⟨·, .cached⟩)

/-- The report has a step for each node, after those of the nodes that it pulls, and the
step tells of the node's table. -/
structure RecordsStepsOf (driver : Driver σ) (env : Env σ) (report : Report) : Prop where
  nodes : (report.steps.map Report.Step.node).Perm driver.pipeline.ids
  ordered : ∀ id source, driver.Draws env id source →
    [source, id].Sublist (report.steps.map Report.Step.node)
  told : ∀ step ∈ report.steps, ∃ c, Computed.find? report.computed step.node = some c ∧
    driver.pipeline.kind? step.node = some step.kind ∧
    driver.pipeline.names step.node = step.name ∧ step.outcome = c.outcome ∧
    step.condition = c.table.condition ∧ step.counts = c.table.counts
  outcomes : report.stats = {
    executed := report.steps.countP (·.outcome = .executed)
    reused := report.steps.countP (·.outcome = .reused)
    faulted := report.steps.countP (·.outcome = .faulted) }

/-- A run that completes gives one table for each node. -/
theorem givesOneTableEach (hproper : driver.pipeline.IsProper)
    (hpasses : driver.pipeline.PassesOn) (hstocked : driver.IsStocked)
    (hacyclic : driver.Acyclic env) (hrun : (driver.run env).result = .ok report) :
    driver.GivesOneTableEach env report := by
  have hsound := sound_of_run hproper hstocked hrun
  obtain ⟨s, hvisit, hcompleted, rfl⟩ := exists_visitAll hrun
  obtain ⟨hcomputed, hentries⟩ := perm_of_visitAll hpasses hacyclic hvisit
  have hids : driver.pipeline.ids.Nodup := NodeId.nodup_firsts _
  have hnodup : (s.computed.map Computed.node).Nodup := hcomputed.nodup_iff.mpr hids
  -- As no node was computed twice, each computation is the latest of its node.
  have hlatest : (driver.report s.computed).latest = s.computed := Computed.latest_eq_self hnodup
  constructor
  case entered =>
    rw [hcompleted]
    simpa [completed, Event.entries] using hentries
  case computed => exact hcomputed
  case pulled =>
    intro puller depth id t hpulls
    obtain ⟨c, u, hpull, hc, hextends, -⟩ := hpulls.served hpasses hacyclic hvisit
    obtain ⟨hmem, rfl⟩ := Scratch.mem_of_find? hc
    exact ⟨c, u, hpull, Computed.find?_of_mem hnodup (hextends.subset hmem)⟩
  case table =>
    intro id c element hc
    have hfind : (driver.report s.computed).find? id = some c.table := by
      rw [Report.find?, hc]
      rfl
    unfold Report.table
    rw [hfind]
    exact if_pos rfl
  case tables =>
    rw [hlatest]
    exact hcomputed
  case total =>
    show (Report.Stats.ofComputed s.computed).total = _
    rw [Report.Stats.total_ofComputed, ← List.length_map Computed.node, hcomputed.length_eq]
    simp [Pipeline.ids]
  case faulted =>
    rw [Report.length_faults, hlatest]
    refine List.countP_congr fun c hc => ?_
    rw [decide_eq_true_iff]
    exact (hsound c hc).faulted_iff
  case baselines =>
    rw [hcompleted]
    show (((Computed.latest s.computed).map fun c => (c.node, c.table.asCached)).map _).Perm _
    rw [List.map_map, Computed.latest_eq_self hnodup]
    exact hcomputed
  case kept =>
    intro id c hc
    rw [hcompleted]
    obtain rfl := Computed.node_of_find? hc
    have hmem : c ∈ s.computed := Computed.mem_of_find? hc
    have htable : Computed.tableOf s.computed c.node = c.table := by
      rw [Computed.tableOf, show Computed.find? s.computed c.node = some c from hc]
      rfl
    have hlookup := Computed.lookup_asCached hnodup (List.mem_map_of_mem hmem)
    rw [htable] at hlookup
    exact ⟨c.table.asCached, hlookup, Table.condition_asCached c.table,
      (hsound c hmem).obtainable.items_asCached⟩

/-- A tracked run that completes records a step for each node. -/
theorem recordsStepsOf (hpasses : driver.pipeline.PassesOn) (hacyclic : driver.Acyclic env)
    (htracks : driver.tracksSteps = true) (hrun : (driver.run env).result = .ok report) :
    driver.RecordsStepsOf env report := by
  obtain ⟨s, hvisit, -, rfl⟩ := exists_visitAll hrun
  have hcomputed := (perm_of_visitAll hpasses hacyclic hvisit).1
  have hids : driver.pipeline.ids.Nodup := NodeId.nodup_firsts _
  have hnodup : (s.computed.map Computed.node).Nodup := hcomputed.nodup_iff.mpr hids
  have hsteps : (driver.report s.computed).steps = s.computed.filterMap driver.stepOf? := by
    simp [report, htracks]
  -- Each computation is that of a node, so each has a step.
  have hstep : ∀ c ∈ s.computed, ∃ kind, driver.pipeline.kind? c.node = some kind ∧
      driver.stepOf? c = some ⟨c.node, driver.pipeline.names c.node, kind, c.outcome,
        c.table.condition, c.table.counts⟩ := by
    intro c hc
    have hlisted : c.node ∈ driver.pipeline.ids := hcomputed.subset (List.mem_map_of_mem hc)
    obtain ⟨node, hnode⟩ :=
      (Pipeline.contains_iff _ _).mp ((Pipeline.mem_ids driver.pipeline _).mp hlisted)
    exact ⟨node.kind, by simp [Pipeline.kind?, hnode], by simp [stepOf?, Pipeline.kind?, hnode]⟩
  have hnodes : (driver.report s.computed).steps.map Report.Step.node
      = s.computed.map Computed.node := by
    rw [hsteps, List.map_filterMap, ← List.filterMap_eq_map]
    refine List.filterMap_congr fun c hc => ?_
    obtain ⟨kind, -, hc⟩ := hstep c hc
    simp [hc]
  have hcount : ∀ outcome, s.computed.countP (·.outcome = outcome)
      = (driver.report s.computed).steps.countP (·.outcome = outcome) := by
    intro outcome
    rw [hsteps, List.countP_filterMap]
    refine List.countP_congr fun c hc => ?_
    obtain ⟨kind, -, hc⟩ := hstep c hc
    simp [hc]
  constructor
  case nodes =>
    rw [hnodes]
    exact hcomputed
  case ordered =>
    intro id source hdraws
    obtain ⟨depth, t, hpulls⟩ := hdraws
    obtain ⟨c, u, -, -, -, hordered⟩ := hpulls.served hpasses hacyclic hvisit
    rw [hnodes]
    exact hordered id rfl
  case told =>
    intro step hmem
    rw [hsteps] at hmem
    obtain ⟨c, hc, hsome⟩ := List.mem_filterMap.mp hmem
    obtain ⟨kind, hkind, hstep⟩ := hstep c hc
    rw [hstep, Option.some.injEq] at hsome
    subst hsome
    exact ⟨c, Computed.find?_of_mem hnodup hc, hkind, rfl, rfl, rfl, rfl⟩
  case outcomes =>
    show Report.Stats.ofComputed s.computed = _
    simp only [Report.Stats.ofComputed, hcount]

/-- In every run that completes, after every history, each node has one table: of custom
nodes it is only asked that they give tables that can be made, that they pass on the errors of
their pulls, and that in this run none waits for itself. If steps are recorded there is one for
each node. If they are not, there is none, and all else is the same. -/
theorem one_table_each_after {pipeline : Pipeline σ} (hproper : pipeline.IsProper)
    (hpasses : pipeline.PassesOn) (ops : List (Operation σ)) (env : Env σ) :
    (∀ tracksSteps report,
      (((fresh pipeline tracksSteps).after ops).run env).result = .ok report →
      ((fresh pipeline tracksSteps).after ops).Acyclic env →
      ((fresh pipeline tracksSteps).after ops).GivesOneTableEach env report ∧
      (tracksSteps = true → ((fresh pipeline tracksSteps).after ops).RecordsStepsOf env report) ∧
      (tracksSteps = false → report.steps = [])) ∧
    ((fresh pipeline false).after ops).run env
      = (((fresh pipeline true).after ops).run env).untracked := by
  constructor
  · intro tracksSteps report hrun hacyclic
    have htracks : ((fresh pipeline tracksSteps).after ops).tracksSteps = tracksSteps :=
      tracksSteps_after _ ops
    have hproper' : ((fresh pipeline tracksSteps).after ops).pipeline.IsProper := by
      rw [pipeline_after]
      exact hproper
    have hpasses' : ((fresh pipeline tracksSteps).after ops).pipeline.PassesOn := by
      rw [pipeline_after]
      exact hpasses
    -- The history keeps the pipeline, so its nodes are as proper as they were declared.
    have hgives := givesOneTableEach hproper' hpasses' (isStocked_after hproper tracksSteps ops)
      hacyclic hrun
    refine ⟨hgives, fun htrue => recordsStepsOf hpasses' hacyclic (htracks.trans htrue) hrun,
      fun hfalse => ?_⟩
    obtain ⟨s, -, -, rfl⟩ := exists_visitAll hrun
    have huntracked := htracks.trans hfalse
    simp only [Driver.report, huntracked]
    rfl
  · rw [← run_untracked, ← after_untracked]
    rfl

end Driver

namespace Sample

/-- Lists the values of two nodes, the first of which is declared later and pulled again. -/
def gather (_ : NodeId) (baseline : Table Value) : Program Unit Product := do
  let later ← .ask ⟨0, ⟨3⟩, .value⟩
  let first ← .ask ⟨0, ⟨0⟩, .value⟩
  let again ← .ask ⟨0, ⟨3⟩, .value⟩
  .publish ((Draft.against baseline).reviseOrAdd (· == ·)
    (later.table.values ++ first.table.values ++ again.table.values)) fun table =>
  .done (.table table)

/-- An input, a custom node that lists its values with their negations, the list of that, and
the negations, which are declared last. -/
def weave : Pipeline Unit where
  id := 0
  nodes := [⟨.input, .structural, .value⟩, ⟨.custom "gather" 0 gather, .structural, .value⟩,
    ⟨.batch ⟨1⟩ .collect, .structural, .collected⟩, negation]
  sources_lt := by
    intro i node hnode source hsource
    match i, hnode with
    | 0, rfl => cases hsource
    | 1, rfl => cases hsource
    | 2, rfl =>
      rw [List.mem_singleton.mp hsource]
      decide
    | 3, rfl =>
      rw [List.mem_singleton.mp hsource]
      decide

/-- The custom node gives a table that is written by operations. -/
theorem weave_isProper : weave.IsProper := by
  intro node hnode name turns program hrole id baseline hbaseline
  simp only [weave, List.mem_cons, List.not_mem_nil, or_false] at hnode
  rcases hnode with rfl | rfl | rfl | rfl
  · cases hrole
  · cases hrole
    refine .ask fun later _ => .ask fun first _ => .ask fun again _ => ?_
    exact Product.obtainable_table
      (.written hbaseline ((Draft.WrittenFrom.start baseline).reviseOrAdd _ _))
  · cases hrole
  · cases hrole

/-- The custom node passes on the errors of its pulls. -/
theorem weave_passesOn : weave.PassesOn := by
  intro node hnode name turns program hrole id baseline
  simp only [weave, List.mem_cons, List.not_mem_nil, or_false] at hnode
  rcases hnode with rfl | rfl | rfl | rfl
  · cases hrole
  · cases hrole
    exact .ask fun later => .ask fun first => .ask fun again => fun _ => trivial
  · cases hrole
  · cases hrole

/-- The negations draw on the input, the custom node on both, and the list on that one. -/
theorem weave_acyclic (driver : Driver Unit) (hdriver : driver.pipeline = weave)
    (env : Env Unit) : driver.Acyclic env := by
  have hrank : ∀ id node, weave.node? id = some node → node.role.PullsOnly fun source =>
      [0, 2, 3, 1].getD source.raw 0 < [0, 2, 3, 1].getD id.raw 0 := by
    intro id node hnode
    match id, hnode with
    | ⟨0⟩, rfl => exact ⟨fun source hsource => (nomatch hsource), fun _ _ _ hrole => nomatch hrole⟩
    | ⟨1⟩, rfl =>
      refine ⟨fun source hsource => (nomatch hsource), ?_⟩
      intro name turns program hrole id baseline
      cases hrole
      exact .ask (by decide) fun _ => .ask (by decide) fun _ => .ask (by decide) fun _ _ => trivial
    | ⟨2⟩, rfl =>
      refine ⟨fun source hsource => ?_, fun _ _ _ hrole => nomatch hrole⟩
      rw [List.mem_singleton.mp hsource]
      decide
    | ⟨3⟩, rfl =>
      refine ⟨fun source hsource => ?_, fun _ _ _ hrole => nomatch hrole⟩
      rw [List.mem_singleton.mp hsource]
      decide
  exact Driver.acyclic_of_rank _ (by rw [hdriver]; exact hrank)

end Sample

namespace Driver

/-- The custom node pulls a node that is declared after it. So that one ends before it, and it
has one table and one step nonetheless. -/
theorem one_table_each_after_sample :
    Sample.weave.IsProper ∧ Sample.weave.PassesOn ∧ ∃ report,
      (((fresh Sample.weave true).after Sample.setting).run ⟨(), false⟩).result = .ok report ∧
      ((fresh Sample.weave true).after Sample.setting).Acyclic ⟨(), false⟩ ∧
      ((fresh Sample.weave true).after Sample.setting).GivesOneTableEach ⟨(), false⟩ report ∧
      ((fresh Sample.weave true).after Sample.setting).RecordsStepsOf ⟨(), false⟩ report ∧
      report.steps.map Report.Step.node = [⟨0⟩, ⟨3⟩, ⟨1⟩, ⟨2⟩] := by
  have hcompletes : (((fresh Sample.weave true).after Sample.setting).run
      ⟨(), false⟩).completesWith (fun report =>
        report.steps.map Report.Step.node = [⟨0⟩, ⟨3⟩, ⟨1⟩, ⟨2⟩]) = true := by
    decide +kernel
  obtain ⟨report, hrun, hsteps⟩ := Ran.exists_report hcompletes
  have hacyclic := Sample.weave_acyclic ((fresh Sample.weave true).after Sample.setting)
    (pipeline_after _) ⟨(), false⟩
  obtain ⟨hgives, hrecords, -⟩ := (one_table_each_after Sample.weave_isProper
    Sample.weave_passesOn Sample.setting ⟨(), false⟩).1 true report hrun hacyclic
  exact ⟨Sample.weave_isProper, Sample.weave_passesOn, report, hrun, hacyclic, hgives, hrecords rfl,
    of_decide_eq_true hsteps⟩

end Driver

end DeltaPipeline
