import DeltaPipeline.Proofs.Histories

/-!
# `DeltaPipeline.Proofs.Alignment`: tables stay aligned with their baselines

The groups of a table are written against the groups of the node's baseline, by
position. Where all nodes are of the library's own kinds this never goes wrong: the
items that are not added are those of the baseline, each kept, removed or replaced by a
value that compared unequal. So the messages about a table that does not go along with
its baseline are never logged, and no fault tells of such a table.

* `Ambient.IsClean`: nothing was logged about a broken rule of the library's own.
* `Driver.Arises`: where a fault comes from.
* `Driver.aligned_after`: alignment in every run of every history.
-/

set_option autoImplicit false

namespace DeltaPipeline

variable {σ : Type}

/-! ### The journal stays clean -/

/-- Nothing was logged about a broken rule of the library's own. -/
def Ambient.IsClean (a : Ambient σ) : Prop :=
  ∀ event ∈ a.trail, event.isDefensive = false

namespace Ambient.IsClean

variable {a : Ambient σ}

/-- An event that breaks no rule may be noted. -/
theorem note (h : a.IsClean) {event : Event} (hevent : event.isDefensive = false) :
    (a.note event).IsClean := by
  intro e he
  rcases List.mem_cons.mp he with rfl | hmem
  · exact hevent
  · exact h e hmem

/-- That a run was cancelled breaks no rule. -/
theorem watched (h : a.IsClean) (node : NodeId) (signaller : Signaller) (before : Env σ) :
    (StepM.watched node signaller before a).IsClean := by
  unfold StepM.watched
  split
  · exact h.note rfl
  · exact h

/-- That an update was abandoned breaks no rule. -/
theorem abandoned (h : a.IsClean) (driver : Driver σ) (id : NodeId) (node : Node σ)
    (stop : Stop) : (driver.abandoned id node stop a).IsClean := by
  cases stop with
  | error e => exact h.note rfl
  | panic panic => exact h
  | tooDeep => exact h

end Ambient.IsClean

/-- No step of an update logs anything about a broken rule. -/
theorem steady_isClean {driver : Driver σ} {id : NodeId} {node : Node σ} {comparer : Comparer σ}
    {olds : List Value} {calls : UserCode σ (Except Fault (List Value)) → Prop} :
    Steady Ambient.IsClean (fun stop a => (driver.abandoned id node stop a).IsClean) id comparer
      olds calls where
  check := fun a ha _ => ha.abandoned driver id node _
  note := fun a event hevent ha => ha.note hevent
  perform := by
    intro code _ a ha
    -- User code changes the environment, and all that is noted is that it cancelled the run.
    have hafter : ∀ env : Env σ,
        (StepM.watched id .function a.env { a with env }).IsClean := fun env =>
      Ambient.IsClean.watched (a := { a with env }) ha id .function a.env
    refine Ensures.intro (fun answer b hrun => ?_) fun stop b hrun => ?_
    · rw [StepM.run_perform] at hrun
      rw [← (Prod.mk.inj hrun).2]
      exact hafter _
    · rw [StepM.run_perform] at hrun
      rw [← (Prod.mk.inj hrun).2]
      exact (hafter _).abandoned driver id node stop
  compare := by
    intro previous _ current a ha
    have hafter : ∀ env : Env σ,
        (StepM.watched id .comparer a.env { a with env }).IsClean := fun env =>
      Ambient.IsClean.watched (a := { a with env }) ha id .comparer a.env
    refine Ensures.intro (fun answer b hrun => ?_) fun stop b hrun => ?_
    · rw [StepM.run_observeOne] at hrun
      rw [← (Prod.mk.inj hrun).2]
      exact hafter _
    · rw [StepM.run_observeOne] at hrun
      rw [← (Prod.mk.inj hrun).2]
      exact (hafter _).abandoned driver id node stop

/-! ### Where faults come from -/

namespace Driver

variable {driver : Driver σ} {accepts : NodeId → Value → Value → Prop}

/-- A node's fault is the fault of a source, or its function gave it, or the right side
of a combine is not a single item. -/
inductive Arises (driver : Driver σ) (tables : NodeId → Table Value) (id : NodeId)
    (node : Node σ) : Fault → Prop where
  | carried (source : NodeId) (fault : Fault) : source ∈ node.sources →
    tables source = .faulted fault → Arises driver tables id node fault
  | given (code : UserCode σ (Except Fault (List Value))) (fault : Fault) :
    node.role.Calls code → code.MayGive (.error fault) → Arises driver tables id node fault
  | refused (left right : NodeId) : node.role = .combine left right →
    (tables right).values.length ≠ 1 →
    Arises driver tables id node
      ⟨.error (.invalidState (.rightNotSingle id (tables right).values.length)),
        .engine (driver.site id 0)⟩

/-- Only a node with a function fails at what it is fed. -/
theorem Feeds.calls_of_failed {tables : NodeId → Table Value} {id : NodeId} {node : Node σ}
    {items : List (Entry Value)} {answers : Value → Except Fault (List Value) → Prop}
    (hfeeds : driver.Feeds tables id node items answers) {value : Value} {fault : Fault}
    (hfault : answers value (.error fault)) :
    ∃ code, node.role.Calls code ∧ code.MayGive (.error fault) := by
  cases hfeeds with
  | input hrole => cases hfault
  | transform source function hrole =>
    exact ⟨function.call value, Node.calls_of_transform hrole value, hfault⟩
  | batch source function hrole =>
    exact ⟨function.call (tables source).values, Node.calls_of_batch hrole _, hfault⟩
  | combine left right item hrole hitem => cases hfault

/-- A fault that a founded node computes arises from a source or from its own function. -/
theorem arises_of_computes {tables : NodeId → Table Value} {id : NodeId} {node : Node σ}
    {fault : Fault} (hfounded : driver.Founded accepts id node)
    (h : driver.Computes accepts tables id node) (hfault : tables id = .faulted fault) :
    driver.Arises tables id node fault := by
  obtain ⟨⟨product, hmakes, htable⟩, -⟩ := h
  rw [hfault] at htable
  -- A baseline is never faulted, so the node ended with a table of its own.
  cases hmakes with
  | reused hsources hcompacted hempty => exact absurd htable.symm hfounded.ne_faulted
  | settled hrole hfeeds hwritten hcached hempty => exact absurd htable.symm hfounded.ne_faulted
  | carried source fault' hfirst hsource =>
    cases htable
    exact .carried source fault (List.mem_of_find?_eq_some hfirst) hsource
  | refused left right hrole hfaults hstale hsingle =>
    cases htable
    exact .refused left right hrole (Table.length_values_of_single?_eq_none hsingle)
  | failed fault' hfeeds hfaults hstale hfailed =>
    cases htable
    obtain ⟨before, item, rest, groups, left, -, -, -, -, hgives⟩ := hfailed
    obtain ⟨code, hcalls, hmay⟩ := hfeeds.calls_of_failed hgives
    exact .given code fault hcalls hmay
  | written hfeeds hfaults hstale hchanged hwritten => cases htable

/-! ### Alignment in every run -/

/-- A new driver holds no baselines, so they agree. -/
theorem coherent_fresh (pipeline : Pipeline σ) (tracksSteps : Bool) :
    (fresh pipeline tracksSteps).Coherent accepts :=
  coherent_of_baselines_nil rfl

/-- After any history the baselines fit together, whatever may stand for what. -/
theorem coherent_of_history {pipeline : Pipeline σ} (hbuiltIn : pipeline.IsBuiltIn)
    (tracksSteps : Bool) (ops : List (Operation σ)) :
    ((fresh pipeline tracksSteps).after ops).Coherent fun _ _ _ => True :=
  coherent_after hbuiltIn (coherent_fresh pipeline tracksSteps) ops
    fun _ _ _ _ _ _ _ _ _ _ _ _ _ => trivial

/-- Whatever was done to a driver before: nothing that a run logs tells of a broken rule
of the library's own, and in a run that completes every freshly made table is aligned
with its node's baseline and every fault has a source. -/
theorem aligned_after {pipeline : Pipeline σ} (hbuiltIn : pipeline.IsBuiltIn)
    (tracksSteps : Bool) (ops : List (Operation σ)) (env : Env σ) :
    let driver := (fresh pipeline tracksSteps).after ops
    (∀ event ∈ (driver.run env).journal, event.isDefensive = false) ∧
      ∀ report, (driver.run env).result = .ok report →
        ∀ id node, pipeline.node? id = some node →
          ∃ table, report.find? id = some table ∧
            (∀ groups, table = .populated groups →
              Aligned (driver.comparer id node).equals (driver.baseline id) groups) ∧
            ∀ fault, table = .faulted fault → driver.Arises report.tableOf id node fault := by
  intro driver
  have hpipeline : driver.pipeline = pipeline := pipeline_after ops
  have hbuiltIn' : driver.pipeline.IsBuiltIn := hpipeline ▸ hbuiltIn
  -- Alignment asks nothing of the comparers, so any value may stand for any other.
  have hcoherent : driver.Coherent fun _ _ _ => True :=
    coherent_of_history hbuiltIn tracksSteps ops
  have hsweep := @ensures_sweep σ driver (fun _ _ _ => True) Ambient.IsClean
    (fun _ => Ambient.IsClean) env hbuiltIn' hcoherent (fun _ _ _ _ _ _ _ => trivial)
    (by simp [Ambient.IsClean, start, Event.isDefensive, Notice.isDefensive])
    fun _ _ _ => steady_isClean
  rcases run_cases hsweep with ⟨s, ⟨hclean, hcompletes⟩, hs⟩ | ⟨stop, s, hclean, hs⟩
  · rw [hs]
    refine ⟨?_, ?_⟩
    · intro event hevent
      rcases List.mem_append.mp hevent with hmem | hmem
      · exact hclean event (List.mem_reverse.mp hmem)
      · -- The message at the end of a run tells that it finished.
        rw [List.mem_singleton.mp hmem]
        rfl
    · intro report hreport id node hnode
      cases hreport
      rw [← hpipeline] at hnode
      have hcomputes := hcompletes.computes id node hnode
      refine ⟨_, hcompletes.find?_eq_some hnode, ?_, ?_⟩
      · intro groups hgroups
        have htracks := hcomputes.advances.tracks
        rw [hgroups] at htracks
        exact htracks.2
      · intro fault hfault
        exact arises_of_computes (hcoherent id node hnode) hcomputes hfault
  · rw [hs]
    refine ⟨fun event hevent => hclean event (List.mem_reverse.mp hevent), ?_⟩
    intro report hreport
    cases hreport

/-- In the small pipeline the table of the negations goes along with their baseline: one
is kept, one is removed. -/
theorem aligned_after_sample :
    Sample.pipeline.IsBuiltIn ∧
      (∀ event ∈ (Sample.driver.run ⟨(), false⟩).journal, event.isDefensive = false) ∧
      Aligned (Sample.driver.comparer ⟨1⟩ Sample.negation).equals (Sample.driver.baseline ⟨1⟩)
        [Group.tagged .cached [.bool false], Group.dropped [.bool true]] := by
  have h := aligned_after Sample.isBuiltIn false Sample.history ⟨(), false⟩
  obtain ⟨report, hrun, hfind⟩ := Sample.exists_report
  obtain ⟨table, htable, haligned, -⟩ := h.2 report hrun ⟨1⟩ Sample.negation rfl
  rw [hfind, Option.some.injEq] at htable
  exact ⟨Sample.isBuiltIn, h.1, haligned _ htable.symm⟩

end Driver

end DeltaPipeline
