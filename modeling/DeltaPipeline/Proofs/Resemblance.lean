import DeltaPipeline.Proofs.Histories
import DeltaPipeline.Proofs.Likeness

/-!
# `DeltaPipeline.Proofs.Resemblance`: runs from states of the host that are alike

Where all code of a driver respects a likeness, two of its runs from environments that are
alike end alike: with the same report but for what is not told of faults, with the same
driver, and in environments that are alike again. Custom nodes may pull each other in any
order, and a run may stop anywhere.

* `Scratch.Resembles`: runs in progress that are alike.
* `Driver.resembles_update`, `Driver.resembles_pull`: an update and a pull keep them alike.
* `Report.relabel`, `Ran.Resembles`: what comes of runs that are alike.
* `Driver.resembles_run`: the runs as a whole.
* `Driver.Respects.act`: what is done to a driver keeps its code respecting a likeness.
-/

set_option autoImplicit false

namespace DeltaPipeline

variable {σ : Type} {likeness : Likeness σ}

/-! ### Runs in progress -/

/-- The same tables were made so far, in the same order, but for what is not told of faults. -/
structure Scratch.Resembles (likeness : Likeness σ) (s s' : Scratch σ) : Prop where
  ambient : s.ambient.Resembles likeness s'.ambient
  ended : s.ended.map (Computed.relabel likeness.told)
    = s'.ended.map (Computed.relabel likeness.told)

/-- The two parts of a run go alike, whatever stops them. -/
abbrev RunM.Resembles (likeness : Likeness σ) {α : Type} (same : α → α → Prop) (m m' : RunM σ α) :
    Prop :=
  Alike (Scratch.Resembles likeness) (fun _ => True) same m m'

/-- Both are the same computation, but for what is not told of its fault. -/
abbrev Computed.Same (likeness : Likeness σ) (computed computed' : Computed) : Prop :=
  computed.relabel likeness.told = computed'.relabel likeness.told

/-- Both are the same product, but for what is not told of its fault. -/
abbrev Product.Same (likeness : Likeness σ) (product product' : Product) : Prop :=
  product.relabel likeness.told = product'.relabel likeness.told

/-- What a node has in one of two runs that are alike it has in the other. -/
theorem Scratch.Resembles.find? {s s' : Scratch σ} (h : s.Resembles likeness s') (id : NodeId) :
    (s.find? id).map (Computed.relabel likeness.told)
      = (s'.find? id).map (Computed.relabel likeness.told) := by
  have hfind : ∀ s : Scratch σ, (s.find? id).map (Computed.relabel likeness.told)
      = (s.ended.map (Computed.relabel likeness.told)).find? (·.node = id) := by
    intro s
    rw [List.find?_map]
    rfl
  rw [hfind, hfind, h.ended]

namespace RunM

variable {α : Type} {same : α → α → Prop}

/-- A step that keeps updates alike keeps runs alike. -/
theorem resembles_step {m m' : StepM σ α}
    (h : Alike (Ambient.Resembles likeness) (fun _ => True) same m m') :
    RunM.Resembles likeness same (RunM.step m) (RunM.step m') := by
  intro s s' hR
  rw [RunM.run_step, RunM.run_step]
  rcases h.cases hR.ambient with ⟨answer, answer', a, a', hrun, hrun', hsame, ha⟩ |
    ⟨stop, a, a', hrun, hrun', -, ha⟩
  · rw [hrun, hrun']
    exact .answered hsame ⟨ha, hR.ended⟩
  · rw [hrun, hrun']
    exact .stopped trivial ⟨ha, hR.ended⟩

/-- A check stops both runs or neither. -/
theorem resembles_check :
    RunM.Resembles likeness (fun _ _ => True) (RunM.step (StepM.check : StepM σ Unit))
      (RunM.step StepM.check) := by
  refine resembles_step fun a a' hR => ?_
  rw [StepM.run_check, StepM.run_check, ← hR.env.cancelled]
  split
  · exact .stopped trivial hR
  · exact .answered trivial hR

/-- Entries that are told alike may be made in both runs. -/
theorem resembles_record {event event' : Event}
    (h : event.relabel likeness.told = event'.relabel likeness.told) :
    RunM.Resembles likeness (fun _ _ => True) (RunM.step (StepM.record event : StepM σ Unit))
      (RunM.step (StepM.record event')) :=
  resembles_step fun _ _ hR => .answered trivial (hR.note h)

/-- What stops both runs with an error is handed over in both. -/
theorem Resembles.attempt {m m' : RunM σ Computed}
    (h : RunM.Resembles likeness (Computed.Same likeness) m m') :
    RunM.Resembles likeness
      (fun result result' => result.map (Computed.relabel likeness.told)
        = result'.map (Computed.relabel likeness.told)) m.attempt m'.attempt := by
  refine Alike.tryCatch (h.bind fun c c' hc => .of_pure (congrArg Except.ok hc)) ?_
  rintro (e | panic | _) -
  · exact .of_pure rfl
  · exact .of_throw trivial
  · exact .of_throw trivial

end RunM

/-! ### Programs -/

section Updates

variable {driver : Driver σ}

/-- The single steps of a program keep runs alike, whoever its node is. -/
theorem resembles_observe {comparer : Comparer σ} (h : comparer.Respects likeness) (self : NodeId)
    (pairs : List (Value × Value)) :
    RunM.Resembles likeness (fun _ _ => True) (RunM.step (StepM.observe self comparer pairs))
      (RunM.step (StepM.observe self comparer pairs)) := by
  -- Comparing is not a matter of the role, so that of an input will do.
  have hrole : (Role.input : Role σ NodeId).Respects likeness := Role.respects_input
  exact RunM.resembles_step ((hrole.parallel h self).observe pairs)

/-- A table that is published is the same on both sides. -/
theorem resembles_publish (draft : Draft Value) :
    RunM.Resembles likeness Eq (RunM.step (StepM.publish draft : StepM σ (Table Value)))
      (RunM.step (StepM.publish draft)) := by
  have hrole : (Role.input : Role σ NodeId).Respects likeness := Role.respects_input
  exact RunM.resembles_step
    ((hrole.parallel Comparer.structural_respects ⟨0⟩).publish draft)

/-- Programs that are alike keep runs alike, if what they pull does. -/
theorem Program.Alike.resembles_exec {α : Type} {same : α → α → Prop}
    {program program' : Program σ α} (h : Program.Alike likeness same program program')
    (hdriver : driver.Respects likeness) (self : NodeId) {pull : Handle → RunM σ Computed}
    (hpull : ∀ handle,
      RunM.Resembles likeness (Computed.Same likeness) (pull handle) (pull handle)) :
    RunM.Resembles likeness same (program.exec driver self pull)
      (program'.exec driver self pull) := by
  -- By induction on the evidence, one case for each request of a program.
  induction h with
  | done hsame => exact .of_pure hsame
  | stop reason => exact .of_throw trivial
  | pull source hnext ih => exact (RunM.Resembles.attempt (hpull source)).bind ih
  | input node type hnext ih => exact ih (driver.inputValues node type)
  | override node type hnext ih =>
    exact ih (driver.override? node type) fun comparer hcomparer => hdriver.override hcomparer
  | env hchange hnext ih =>
    exact (RunM.resembles_step (resembles_changeEnv self hchange)).bind ih
  | observe comparer pairs hcomparer hnext ih =>
    exact (resembles_observe hcomparer self pairs).bind fun _ _ _ => ih
  | call argument hnext ih => exact (RunM.resembles_record rfl).bind fun _ _ _ => ih
  | publish draft hnext ih =>
    refine (resembles_publish draft).bind ?_
    rintro table _ rfl
    exact ih table

/-! ### Updates and pulls -/

namespace Driver

/-- Pulling keeps runs alike, and gives computations that are alike. -/
def PullsAlike (likeness : Likeness σ) (pull : NodeId → RunM σ Computed) : Prop :=
  ∀ id, RunM.Resembles likeness (Computed.Same likeness) (pull id) (pull id)

/-- So does pulling by handle, as handles of other pipelines are refused in both runs. -/
theorem PullsAlike.pullHandle {pull : NodeId → RunM σ Computed}
    (h : PullsAlike likeness pull) (handle : Handle) :
    RunM.Resembles likeness (Computed.Same likeness) (driver.pullHandle pull handle)
      (driver.pullHandle pull handle) := by
  unfold Driver.pullHandle
  split
  · exact h handle.node
  · exact .of_throw trivial

/-- The number of updates that ended is the same in runs that are alike. -/
theorem resembles_currentSite (id : NodeId) :
    RunM.Resembles likeness (fun site site' => site' = site ∧ site.node = id)
      (driver.currentSite id) (driver.currentSite id) := by
  intro s s' hR
  have hcount : ∀ s : Scratch σ, s.ended.countP (·.node = id)
      = (s.ended.map (Computed.relabel likeness.told)).countP (·.node = id) := by
    intro s
    rw [List.countP_map]
    rfl
  have hsame : s'.ended.countP (·.node = id) = s.ended.countP (·.node = id) := by
    rw [hcount, hcount, hR.ended]
  exact .answered ⟨congrArg (driver.site id) hsame, rfl⟩ hR

/-- The update of a node keeps runs alike, if what it pulls does. -/
theorem resembles_update {pull : NodeId → RunM σ Computed} {id : NodeId} {node : Node σ}
    (hpull : PullsAlike likeness pull) (hnode : driver.pipeline.node? id = some node)
    (hdriver : driver.Respects likeness) :
    RunM.Resembles likeness (Product.Same likeness) (driver.update pull id node)
      (driver.update pull id node) := by
  have hrespects := (hdriver.pipeline node (List.mem_of_getElem? hnode)).role
  have hparallel := hrespects.parallel (hdriver.comparer hnode) id
  -- The sources are pulled alike, and then the own steps of the form go alike.
  unfold update
  dsimp only
  cases hrole : node.role with
  | input =>
    refine RunM.resembles_check.bind fun _ _ _ => ?_
    rw [inputValues_of_node? hnode]
    exact RunM.resembles_step ((Input.alike_update hparallel _ _).mono
      fun _ _ heq => congrArg (Product.relabel likeness.told) heq)
  | transform source function =>
    refine RunM.resembles_check.bind fun _ _ _ => (hpull source).bind ?_
    intro c c' hc
    refine (resembles_currentSite id).bind ?_
    rintro site _ ⟨rfl, rfl⟩
    exact RunM.resembles_step (Transform.alike_update hparallel (Node.calls_of_transform hrole) _
      (congrArg Computed.table hc))
  | batch source function =>
    refine RunM.resembles_check.bind fun _ _ _ => (hpull source).bind ?_
    intro c c' hc
    refine (resembles_currentSite id).bind ?_
    rintro site _ ⟨rfl, rfl⟩
    exact RunM.resembles_step (Batch.alike_update hparallel (Node.calls_of_batch hrole) _
      (congrArg Computed.table hc))
  | combine left right =>
    refine RunM.resembles_check.bind fun _ _ _ => (hpull left).bind ?_
    intro l l' hl
    refine (hpull right).bind ?_
    intro r r' hr
    refine (resembles_currentSite id).bind ?_
    rintro site _ ⟨rfl, rfl⟩
    exact RunM.resembles_step (Combine.alike_update hparallel _ (congrArg Computed.table hl)
      (congrArg Computed.table hr))
  | custom name turns program =>
    exact (hrespects.program name turns program hrole id (driver.baseline id)).resembles_exec
      hdriver id hpull.pullHandle

/-- Keeping what an update gave keeps runs alike. -/
theorem resembles_settle (id : NodeId) (node : Node σ) {product product' : Product}
    (hproduct : Product.Same likeness product product') :
    RunM.Resembles likeness (Computed.Same likeness) (driver.settle id node product)
      (driver.settle id node product') := by
  have houtcome := Product.outcome_eq_of_relabel hproduct
  refine (RunM.resembles_record (by rw [houtcome])).bind fun _ _ _ => ?_
  intro s s' hR
  -- The new computations are alike, and so are all of them then.
  have hlast : Computed.Same likeness
      ⟨id, product.resolve (driver.baseline id), product.outcome, s.ended.length⟩
      ⟨id, product'.resolve (driver.baseline id), product'.outcome, s'.ended.length⟩ := by
    have hlength : s.ended.length = s'.ended.length := by
      simpa using congrArg List.length hR.ended
    simp only [Computed.Same, Computed.relabel, hlength, houtcome,
      Product.relabel_resolve_eq hproduct]
  exact .answered hlast ⟨hR.ambient, congrArg₂ List.cons hlast hR.ended⟩

/-- Computing a node keeps runs alike, if what it pulls does. -/
theorem resembles_compute {pull : NodeId → RunM σ Computed} (hpull : PullsAlike likeness pull)
    (hdriver : driver.Respects likeness) (id : NodeId) :
    RunM.Resembles likeness (Computed.Same likeness) (driver.compute pull id)
      (driver.compute pull id) := by
  refine RunM.resembles_check.bind fun _ _ _ => ?_
  cases hnode : driver.pipeline.node? id with
  | none => exact .of_throw trivial
  | some node =>
    refine (RunM.resembles_record rfl).bind fun _ _ _ => ?_
    exact (resembles_update hpull hnode hdriver).bind fun _ _ hproduct =>
      resembles_settle id node hproduct

/-- A node has a table in both runs or in neither. -/
theorem resembles_memoized {id : NodeId} {compute : RunM σ Computed}
    (h : RunM.Resembles likeness (Computed.Same likeness) compute compute) :
    RunM.Resembles likeness (Computed.Same likeness) (memoized id compute)
      (memoized id compute) := by
  intro s s' hR
  have hfind := hR.find? id
  rw [run_memoized, run_memoized]
  cases hs : s.find? id with
  | none =>
    rw [hs, Option.map_none] at hfind
    rw [Option.map_eq_none_iff.mp hfind.symm]
    exact h s s' hR
  | some c =>
    rw [hs, Option.map_some] at hfind
    obtain ⟨c', hs', hc⟩ := Option.map_eq_some_iff.mp hfind.symm
    rw [hs']
    exact .answered hc.symm hR

/-- Pulling a node ends alike in runs that are alike, whatever was computed before. -/
theorem resembles_pull (hdriver : driver.Respects likeness) (depth : Nat) :
    PullsAlike likeness (driver.pull depth) := by
  induction depth with
  | zero => exact fun id => resembles_memoized (.of_throw trivial)
  | succ depth ih => exact fun id => resembles_memoized (resembles_compute ih hdriver id)

/-- A run pulls a node alike, and is abandoned there alike. -/
theorem resembles_visit (hdriver : driver.Respects likeness) (id : NodeId) :
    RunM.Resembles likeness (fun _ _ => True) (driver.visit id) (driver.visit id) := by
  refine (resembles_pull hdriver driver.depth id).discard.tryCatch fun stop _ => ?_
  unfold abandon
  split
  · exact (RunM.resembles_record rfl).bind fun _ _ _ => .of_throw trivial
  · exact .of_throw trivial

/-- The visits resemble each other, by induction on the nodes to visit. -/
theorem resembles_visitAll (hdriver : driver.Respects likeness) (ids : List NodeId) :
    RunM.Resembles likeness (fun _ _ => True) (driver.visitAll ids) (driver.visitAll ids) := by
  induction ids with
  | nil => exact .of_pure trivial
  | cons id ids ih => exact (resembles_visit hdriver id).bind fun _ _ _ => ih

end Driver

end Updates

/-! ### What comes of a run -/

/-- The report, faults in it with what is told of where they were raised. -/
def Report.relabel (told : Origin → Origin) (report : Report) : Report :=
  { report with computed := report.computed.map (Computed.relabel told) }

/-- What came of two runs is the same but for what is not told of faults, and the environments
that they left are alike. -/
structure Ran.Resembles (likeness : Likeness σ) (ran ran' : Ran σ) : Prop where
  result : ran.result.map (Report.relabel likeness.told)
    = ran'.result.map (Report.relabel likeness.told)
  driver : ran.driver = ran'.driver
  env : ran.env.Alike likeness ran'.env
  journal : ran.journal.map (Event.relabel likeness.told)
    = ran'.journal.map (Event.relabel likeness.told)

variable {told : Origin → Origin}

/-- The computations that count are told by their nodes. -/
theorem Computed.latest_map_relabel (computed : List Computed) :
    latest (computed.map (relabel told)) = (latest computed).map (relabel told) := by
  induction computed with
  | nil => rfl
  | cons first rest ih =>
    have hany : (rest.map (relabel told)).any (·.node = (first.relabel told).node)
        = rest.any (·.node = first.node) := by
      rw [List.any_map]
      rfl
    rw [List.map_cons, latest, latest, hany, ih]
    split
    · rfl
    · rfl

/-- Relabelling changes no node, so the same computation is found. -/
theorem Computed.find?_map_relabel (computed : List Computed) (id : NodeId) :
    find? (computed.map (relabel told)) id = (find? computed id).map (relabel told) := by
  rw [find?, find?, ← List.map_reverse, List.find?_map]
  rfl

namespace Report

/-- Relabelling changes no count. -/
@[simp] theorem stats_relabel (report : Report) : (report.relabel told).stats = report.stats := by
  simp only [stats, Stats.ofComputed, relabel, List.countP_map]
  rfl

/-- The table of a node is relabelled with its report. -/
theorem table_relabel (report : Report) (handle : Handle) :
    (report.relabel told).table handle = (report.table handle).map (Table.relabel told) := by
  have hfind : (report.relabel told).find? handle.node
      = (report.find? handle.node).map (Table.relabel told) := by
    rw [find?, find?, relabel, Computed.find?_map_relabel, Option.map_map, Option.map_map]
    rfl
  rw [table, table, hfind]
  show (if handle.pipeline = report.pipeline then _ else _) = _
  split
  · cases report.find? handle.node <;> rfl
  · rfl

/-- The faults are those of the same nodes, relabelled. -/
theorem faults_relabel (report : Report) :
    (report.relabel told).faults
      = report.faults.map fun fault => (fault.1, fault.2.relabel told) := by
  have hlist : (report.relabel told).latest.filterMap (fun c => c.table.fault?.map (c.node, ·))
      = (report.latest.filterMap fun c => c.table.fault?.map (c.node, ·)).map
          fun fault => (fault.1, fault.2.relabel told) := by
    rw [latest, relabel, Computed.latest_map_relabel, List.filterMap_map, List.map_filterMap]
    refine List.filterMap_congr fun c _ => ?_
    cases htable : c.table <;> simp [Computed.relabel, Table.relabel, Table.fault?, htable]
  -- The order is by numbers, which stay.
  rw [faults, faults, hlist, List.map_mergeSort]
  intro a _ b _
  rfl

/-- Reports that are the same but for what is not told of faults give the same answers but for
that: the number of the run, the statistics, the steps, the tables and the faults. -/
theorem answers_eq_of_relabel {report report' : Report}
    (h : report.relabel told = report'.relabel told) :
    report.run = report'.run ∧ report.stats = report'.stats ∧ report.steps = report'.steps ∧
      (∀ handle, (report.table handle).map (Table.relabel told)
        = (report'.table handle).map (Table.relabel told)) ∧
      report.faults.map (fun fault => (fault.1, fault.2.relabel told))
        = report'.faults.map fun fault => (fault.1, fault.2.relabel told) := by
  have hrun : (report.relabel told).run = (report'.relabel told).run := by rw [h]
  have hsteps : (report.relabel told).steps = (report'.relabel told).steps := by rw [h]
  refine ⟨hrun, ?_, hsteps, fun handle => ?_, ?_⟩
  · rw [← stats_relabel report, h, stats_relabel]
  · rw [← table_relabel, h, table_relabel]
  · rw [← faults_relabel, h, faults_relabel]

end Report

namespace Driver

variable {driver : Driver σ}

/-- Baselines hold no faults. -/
theorem advance_map_relabel (computed : List Computed) :
    driver.advance (computed.map (Computed.relabel told)) = driver.advance computed := by
  have hbaselines : (Computed.latest (computed.map (Computed.relabel told))).map
      (fun c => (c.node, c.table.asCached))
        = (Computed.latest computed).map fun c => (c.node, c.table.asCached) := by
    rw [Computed.latest_map_relabel, List.map_map]
    refine List.map_congr_left fun c _ => ?_
    simp [Computed.relabel]
  rw [advance, hbaselines]
  rfl

/-- The report on relabelled computations is the relabelled report. -/
theorem report_map_relabel (computed : List Computed) :
    driver.report (computed.map (Computed.relabel told))
      = (driver.report computed).relabel told := by
  have hstep : ∀ c : Computed, driver.stepOf? (c.relabel told) = driver.stepOf? c := by
    intro c
    simp [stepOf?, Computed.relabel]
  have hsteps : (computed.map (Computed.relabel told)).filterMap driver.stepOf?
      = computed.filterMap driver.stepOf? := by
    rw [List.filterMap_map]
    exact List.filterMap_congr fun c _ => hstep c
  simp only [report, Report.relabel, hsteps]

/-- Two runs of a driver whose code respects a likeness end alike if their environments are
alike. -/
theorem resembles_run (hdriver : driver.Respects likeness) {env env' : Env σ}
    (henv : env.Alike likeness env') : (driver.run env).Resembles likeness (driver.run env') := by
  have hstart : (driver.start env).Resembles likeness (driver.start env') := ⟨⟨henv, rfl⟩, rfl⟩
  unfold run
  rcases (resembles_visitAll hdriver driver.pipeline.ids).cases hstart with
    ⟨answer, answer', s, s', hrun, hrun', -, hR⟩ | ⟨stop, s, s', hrun, hrun', -, hR⟩
  · rw [hrun, hrun']
    -- What was computed tells the report, the next driver and the last notice.
    have hcomputed : s.computed.map (Computed.relabel likeness.told)
        = s'.computed.map (Computed.relabel likeness.told) := by
      rw [Scratch.computed, Scratch.computed, List.map_reverse, hR.ended, List.map_reverse]
    have hreport : (driver.report s.computed).relabel likeness.told
        = (driver.report s'.computed).relabel likeness.told := by
      rw [← report_map_relabel, hcomputed, report_map_relabel]
    have hstats : (driver.report s.computed).stats = (driver.report s'.computed).stats :=
      (Report.answers_eq_of_relabel hreport).2.1
    constructor
    · exact congrArg Except.ok hreport
    · show driver.advance s.computed = driver.advance s'.computed
      rw [← @advance_map_relabel σ likeness.told driver s.computed, hcomputed, advance_map_relabel]
    · exact hR.ambient.env
    · show List.map _ (s.ambient.journal ++ [_]) = List.map _ (s'.ambient.journal ++ [_])
      rw [List.map_append, List.map_append, Ambient.journal, Ambient.journal, List.map_reverse,
        List.map_reverse, hR.ambient.trail, hstats]
      rfl
  · rw [hrun, hrun']
    constructor
    · rfl
    · rfl
    · exact hR.ambient.env
    · show s.ambient.journal.map _ = s'.ambient.journal.map _
      rw [Ambient.journal, Ambient.journal, List.map_reverse, List.map_reverse,
        hR.ambient.trail]

/-- Operations keep the code of a driver doing alike, if the comparers that they set do. -/
theorem Respects.act (h : driver.Respects likeness) {op : Operation σ}
    (hop : ∀ handle comparer, op = .change (.setComparer handle comparer) →
      comparer.Respects likeness) : (driver.act op).Respects likeness where
  pipeline := by
    rw [(act_cases driver op).1]
    exact h.pipeline
  overrides := by
    intro id comparer hcomparer
    rcases overrides_act hcomparer with hbefore | ⟨handle, hset⟩
    · exact h.overrides id comparer hbefore
    · exact hop handle comparer hset

end Driver

end DeltaPipeline
