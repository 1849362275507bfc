import DeltaPipeline.Proofs.Alignment

/-!
# `DeltaPipeline.Proofs.Baselines`: what a driver holds between runs

A driver holds no baselines until a run completes, and none after a reset. Then it
holds one for each node: an empty one where the node failed in the last completed run,
and otherwise groups whose number follows from the baseline of the source, and whose
sizes follow from what the node does.

* `Driver.lastReport`: the report of the last completed run.
* `Node.Shapes`: the groups of a baseline, by the role of the node.
* `Driver.remembers_after`: the baselines are what the last completed run left.
* `Driver.baselines_after`: their conditions and shapes after any history.
-/

set_option autoImplicit false

namespace DeltaPipeline

variable {σ : Type}

/-- What stands on the right of two lists that go along stands beside something. -/
theorem exists_of_mem_right {α β : Type} {R : α → β → Prop} {left : List α} {right : List β}
    (h : List.Forall₂ R left right) {b : β} (hb : b ∈ right) : ∃ a ∈ left, R a b := by
  induction h with
  | nil => cases hb
  | @cons a c left right hfirst hrest ih =>
    rcases List.mem_cons.mp hb with rfl | hmem
    · exact ⟨a, List.mem_cons_self, hfirst⟩
    · obtain ⟨a', ha', hrelated⟩ := ih hmem
      exact ⟨a', List.mem_cons_of_mem a ha', hrelated⟩

/-! ### Shapes -/

/-- May the function give so many values for one? -/
def Transform.Yields (function : Transform σ) (count : Nat) : Prop :=
  match function with
  | .select _ => count = 1
  | .selectMany _ => True
  | .filter _ => count ≤ 1

/-- The groups of a node's baseline are as many, and as large, as its role and the
baselines of its sources make them. -/
def Node.Shapes (baselines : NodeId → Table Value) (node : Node σ)
    (groups : List (Group Value)) : Prop :=
  match node.role with
  | .input => ∀ group ∈ groups, group.items.length = 1
  | .transform source function =>
    groups.length = (baselines source).items.length ∧
      ∀ group ∈ groups, function.Yields group.items.length
  | .batch _ _ => groups.length = 1
  | .combine left right =>
    groups.length = (baselines left).items.length ∧
      (∀ group ∈ groups, group.items.length = 1) ∧ (baselines right).items.length = 1
  | .custom _ _ _ => True

/-- The form of a function bounds how many values it gives. -/
theorem Transform.yields_of_mayYield {function : Transform σ} {value : Value}
    {outputs : List Value} (h : (function.call value).MayYield outputs) :
    function.Yields outputs.length := by
  cases function with
  | select f =>
    obtain ⟨given, -, hgiven⟩ := UserCode.mayGive_of_map h
    cases given with
    | error fault => cases hgiven
    | ok output =>
      cases hgiven
      exact rfl
  | selectMany f => trivial
  | filter keeps =>
    obtain ⟨kept, -, hkept⟩ := UserCode.mayGive_of_map h
    cases kept with
    | true =>
      cases hkept
      exact Nat.le_refl 1
    | false =>
      cases hkept
      exact Nat.zero_le 1

/-- A baseline has no removed items, so it has an item for each value. -/
theorem Table.IsBaseline.length_items {table : Table Value} (h : table.IsBaseline) :
    table.items.length = table.values.length := by
  rcases h with rfl | ⟨groups, rfl⟩
  · rfl
  · rw [Table.items_kept, Table.values_kept, List.length_map]

/-- Baselines that fit those of the sources have the shape of their role. -/
theorem Node.Fits.shapes {accepts : Value → Value → Prop} {set : List Value}
    {baselines : NodeId → Table Value} {node : Node σ} {groups : List (List Value)}
    (h : node.Fits accepts UserCode.MayYield set baselines groups)
    (hbaselines : ∀ source ∈ node.sources, (baselines source).IsBaseline) :
    node.Shapes baselines (groups.map (Group.tagged .cached)) := by
  have hitems : ∀ values : List Value, (Group.tagged .cached values).items.length = values.length :=
    fun values => List.length_map _
  unfold Node.Shapes
  cases hrole : node.role with
  | input =>
    rw [Node.fits_input_iff hrole] at h
    dsimp only
    intro group hgroup
    obtain ⟨values, hvalues, rfl⟩ := List.mem_map.mp hgroup
    rw [hitems]
    exact h.2 values hvalues
  | transform source function =>
    rw [Node.fits_transform_iff hrole] at h
    dsimp only
    have hsource := hbaselines source (Node.mem_sources_of_transform hrole)
    refine ⟨?_, ?_⟩
    · rw [List.length_map, hsource.length_items, h.length_eq]
    · intro group hgroup
      obtain ⟨values, hvalues, rfl⟩ := List.mem_map.mp hgroup
      -- Values that were kept stand in place of as many that the function gave.
      obtain ⟨value, -, outputs, houtputs, hagree⟩ := exists_of_mem_right h hvalues
      rw [hitems, ← hagree.length_eq]
      exact Transform.yields_of_mayYield houtputs
  | batch source function =>
    rw [Node.fits_batch_iff hrole] at h
    dsimp only
    obtain ⟨group, rfl, -⟩ := h
    rfl
  | combine left right =>
    rw [Node.fits_combine_iff hrole] at h
    dsimp only
    obtain ⟨single, hsingle, hpairs⟩ := h
    have hleft := hbaselines left (Node.left_mem_sources hrole)
    have hright := hbaselines right (Node.right_mem_sources hrole)
    refine ⟨?_, ?_, ?_⟩
    · rw [List.length_map, hleft.length_items, hpairs.length_eq]
    · intro group hgroup
      obtain ⟨values, hvalues, rfl⟩ := List.mem_map.mp hgroup
      obtain ⟨value, -, hagree⟩ := exists_of_mem_right hpairs hvalues
      rw [hitems, ← hagree.length_eq]
      rfl
    · rw [hright.length_items, hsingle]
      rfl
  | custom name turns program => trivial

namespace Driver

variable {driver : Driver σ} {accepts : NodeId → Value → Value → Prop}

/-! ### What the last completed run left -/

/-- The latest report after an operation. A reset makes a driver forget it. -/
def latestReport (driver : Driver σ) (latest : Option Report) : Operation σ → Option Report
  | .change change => if change.isReset then none else latest
  | .run env =>
    match (driver.run env).result with
    | .ok report => some report
    | .error _ => latest

/-- The report of the last run that completed in a history, unless the driver was reset
since then. -/
def lastReport (driver : Driver σ) (latest : Option Report) :
    List (Operation σ) → Option Report
  | [] => latest
  | op :: ops => (driver.act op).lastReport (driver.latestReport latest op) ops

/-- The driver holds what the run with this report left, and nothing if there is none. -/
def Remembers (driver : Driver σ) : Option Report → Prop
  | none => driver.baselines = []
  | some report =>
    driver.baselines.map Prod.fst = driver.pipeline.ids ∧
      ∀ id node, driver.pipeline.node? id = some node →
        ∃ table, report.find? id = some table ∧ table ≠ .empty ∧
          driver.baseline? id = some table.asCached ∧
          (node.role = .input → table.isFaulted = false)

/-- An input never fails. -/
theorem isFaulted_of_input {tables : NodeId → Table Value} {id : NodeId} {node : Node σ}
    (hfounded : driver.Founded accepts id node) (h : driver.Computes accepts tables id node)
    (hrole : node.role = .input) : (tables id).isFaulted = false := by
  by_contra hfault
  obtain ⟨fault, htable⟩ := Table.eq_faulted_of_isFaulted (by simpa using hfault)
  -- It has no source and no function, and it is no combine.
  cases arises_of_computes hfounded h htable with
  | carried source fault hsource hcarried =>
    simp [Node.sources, hrole, Role.sources] at hsource
  | given code fault hcalls hgives =>
    rw [hrole] at hcalls
    exact hcalls
  | refused left right hcombine hcount =>
    rw [hrole] at hcombine
    cases hcombine

/-- A run that completes leaves what its report says. -/
theorem remembers_of_completes {computed : List Computed}
    (h : driver.Completes accepts computed) (hcoherent : driver.Coherent accepts) :
    (driver.advance computed).Remembers (some (driver.report computed)) := by
  constructor
  · show ((Computed.latest computed).map fun c => (c.node, c.table.asCached)).map Prod.fst = _
    rw [Computed.latest_eq_self h.nodup, List.map_map]
    exact h.nodes
  · intro id node hnode
    have hcomputes := h.computes id node hnode
    refine ⟨_, h.find?_eq_some hnode, ?_, h.baseline?_advance hnode, ?_⟩
    · intro hempty
      have htracks := hcomputes.advances.tracks
      rw [hempty] at htracks
      exact htracks
    · exact isFaulted_of_input (hcoherent id node hnode) hcomputes

/-- What a driver remembers depends on its pipeline and its baselines alone. -/
theorem Remembers.of_same {next : Driver σ} {latest : Option Report}
    (h : driver.Remembers latest) (hpipeline : next.pipeline = driver.pipeline)
    (hbaselines : next.baselines = driver.baselines) : next.Remembers latest := by
  cases latest with
  | none => exact hbaselines.trans h
  | some report =>
    obtain ⟨hids, htables⟩ := h
    refine ⟨by rw [hbaselines, hpipeline, hids], fun id node hnode => ?_⟩
    rw [hpipeline] at hnode
    rw [baseline?, hbaselines]
    exact htables id node hnode

/-- What is remembered goes along with the operations. -/
theorem Remembers.act (hbuiltIn : driver.pipeline.IsBuiltIn) (hcoherent : driver.Coherent accepts)
    (hadmits : driver.Admits accepts) {latest : Option Report} (h : driver.Remembers latest)
    (op : Operation σ) : (driver.act op).Remembers (driver.latestReport latest op) := by
  -- Only a run that completes and a reset leave other baselines.
  cases op with
  | change change =>
    obtain ⟨hpipeline, hbaselines⟩ := act_change driver change
    cases hreset : change.isReset with
    | true =>
      rw [latestReport, hreset]
      rw [hreset] at hbaselines
      exact hbaselines
    | false =>
      rw [latestReport, hreset]
      rw [hreset] at hbaselines
      exact h.of_same hpipeline hbaselines
  | run env =>
    show (driver.run env).driver.Remembers (driver.latestReport latest (.run env))
    cases hrun : (driver.run env).result with
    | error stop =>
      have hlatest : driver.latestReport latest (.run env) = latest := by
        simp only [latestReport, hrun]
      rw [hlatest, driver_run_of_error hrun]
      exact h
    | ok report =>
      have hlatest : driver.latestReport latest (.run env) = some report := by
        simp only [latestReport, hrun]
      obtain ⟨hcompletes, hnext, hreport⟩ := completes_of_run hbuiltIn hcoherent hadmits hrun
      rw [hlatest, hnext]
      have hremembers := remembers_of_completes hcompletes hcoherent
      rwa [← hreport] at hremembers

/-- After any history the baselines are what the last completed run left. -/
theorem remembers_after (hbuiltIn : driver.pipeline.IsBuiltIn)
    (hcoherent : driver.Coherent fun _ _ _ => True) {latest : Option Report}
    (h : driver.Remembers latest) (ops : List (Operation σ)) :
    (driver.after ops).Remembers (driver.lastReport latest ops) := by
  -- The history is followed from its start, with the report remembered so far.
  induction ops generalizing driver latest with
  | nil => exact h
  | cons op ops ih =>
    have hadmits : driver.Admits fun _ _ _ => True := fun _ _ _ _ _ _ _ => trivial
    refine ih ?_ (hcoherent.act hbuiltIn op fun _ _ _ _ => hadmits)
      (h.act hbuiltIn hcoherent hadmits op)
    rw [(act_cases driver op).1]
    exact hbuiltIn

/-! ### Baselines after any history -/

/-- After any history: if no run completed since the driver was made or last reset, it
holds no baseline, and otherwise exactly one for each node. Then a baseline is empty
exactly if the node failed in the last completed run, which it did if a baseline of its
sources is empty; an input has none that is empty; and what is not empty has the shape
of its role. -/
theorem baselines_after {pipeline : Pipeline σ} (hbuiltIn : pipeline.IsBuiltIn)
    (tracksSteps : Bool) (ops : List (Operation σ)) :
    let driver := (fresh pipeline tracksSteps).after ops
    ((fresh pipeline tracksSteps).lastReport none ops = none → driver.baselines = []) ∧
      ∀ report, (fresh pipeline tracksSteps).lastReport none ops = some report →
        driver.baselines.map Prod.fst = pipeline.ids ∧
        ∀ id node, pipeline.node? id = some node →
          ∃ baseline, driver.baseline? id = some baseline ∧
            (baseline = .empty ∨
              ∃ groups, baseline = .compacted groups ∧ node.Shapes driver.baseline groups) ∧
            (baseline = .empty ↔ ∃ fault, report.find? id = some (.faulted fault)) ∧
            (∀ source ∈ node.sources, driver.baseline? source = some .empty →
              baseline = .empty) ∧
            (node.role = .input → baseline ≠ .empty) := by
  intro driver
  have hpipeline : driver.pipeline = pipeline := pipeline_after ops
  have hcoherent : driver.Coherent fun _ _ _ => True :=
    coherent_of_history hbuiltIn tracksSteps ops
  have hremembers : driver.Remembers ((fresh pipeline tracksSteps).lastReport none ops) :=
    remembers_after hbuiltIn (coherent_fresh pipeline tracksSteps)
      (show Remembers _ none from rfl) ops
  constructor
  · intro hlast
    rw [hlast] at hremembers
    exact hremembers
  · intro report hlast
    rw [hlast] at hremembers
    obtain ⟨hids, htables⟩ := hremembers
    rw [hpipeline] at hids htables
    refine ⟨hids, fun id node hnode => ?_⟩
    obtain ⟨table, hfind, hnonempty, hbaseline, hinput⟩ := htables id node hnode
    have hfounded := hcoherent id node (hpipeline ▸ hnode)
    have heq : driver.baseline id = table.asCached := by
      rw [Driver.baseline, hbaseline]
      rfl
    refine ⟨table.asCached, hbaseline, ?_, ?_, ?_, ?_⟩
    · -- The baseline is empty, or its groups have the shape of the role.
      cases hfounded with
      | fresh hempty => exact .inl (heq ▸ hempty)
      | kept set groups hkept hclosed hfits =>
        refine .inr ⟨_, heq ▸ hkept, hfits.shapes fun source hsource => ?_⟩
        obtain ⟨node', hnode'⟩ := (Pipeline.exists_source hnode hsource).2
        exact (hcoherent source node' (hpipeline ▸ hnode')).isBaseline
    · -- It is empty exactly if the node failed, since only a fault leaves nothing.
      rw [Table.asCached_eq_empty_iff hnonempty, hfind]
      constructor
      · intro hfault
        obtain ⟨fault, rfl⟩ := Table.eq_faulted_of_isFaulted hfault
        exact ⟨fault, rfl⟩
      · rintro ⟨fault, hfault⟩
        cases hfault
        rfl
    · -- A baseline that holds something was founded on sources that do.
      intro source hsource hempty
      cases hfounded with
      | fresh hfresh => exact heq ▸ hfresh
      | kept set groups hkept hclosed hfits =>
        have hsource' := hclosed source hsource
        rw [Driver.baseline, hempty] at hsource'
        cases hsource'
    · intro hrole hempty
      rw [Table.asCached_eq_empty_iff hnonempty, hinput hrole] at hempty
      cases hempty

/-- The small pipeline was run, so its driver holds a baseline for each node. -/
theorem baselines_after_sample :
    Sample.pipeline.IsBuiltIn ∧
      Sample.driver.baselines.map Prod.fst = Sample.pipeline.ids ∧
      ∃ baseline, Sample.driver.baseline? ⟨1⟩ = some baseline ∧
        (baseline = .empty ∨ ∃ groups, baseline = .compacted groups ∧
          Sample.negation.Shapes Sample.driver.baseline groups) := by
  have h := baselines_after Sample.isBuiltIn false Sample.history
  have hsome : ((fresh Sample.pipeline false).lastReport none Sample.history).isSome = true := by
    decide +kernel
  obtain ⟨report, hreport⟩ := Option.isSome_iff_exists.mp hsome
  obtain ⟨hids, hnodes⟩ := h.2 report hreport
  obtain ⟨baseline, hbaseline, hshape, -⟩ := hnodes ⟨1⟩ Sample.negation rfl
  exact ⟨Sample.isBuiltIn, hids, baseline, hbaseline, hshape⟩

end Driver

end DeltaPipeline
