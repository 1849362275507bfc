import DeltaPipeline.Proofs.Coherence
import Mathlib.Data.List.Induction

/-!
# `DeltaPipeline.Proofs.Histories`: what a history of operations keeps

All that is done to a driver is a series of changes and runs. A run that completes
leaves baselines that fit together, where the run found such ones; a run that stops
leaves them alone, and so does every change but a reset, which drops them.

* `Driver.ensures_turns`: the nodes of a run, one by one, make what fits.
* `Driver.run_cases`, `Driver.completes_of_run`: the same of a run as a whole.
* `Driver.Operation`, `Driver.after`: operations and histories of them.
* `Driver.ChangesTo`: what each change does.
* `Driver.coherent_after`: after any history the baselines fit together.
-/

set_option autoImplicit false

namespace DeltaPipeline

variable {σ : Type}

/-- The sources of a node are nodes before it. -/
theorem Pipeline.exists_source {pipeline : Pipeline σ} {id source : NodeId} {node : Node σ}
    (hnode : pipeline.node? id = some node) (hsource : source ∈ node.sources) :
    source.raw < id.raw ∧ ∃ before, pipeline.node? source = some before := by
  have hlt : source.raw < id.raw := pipeline.sources_lt id.raw node hnode source hsource
  have hid : id.raw < pipeline.nodes.length := (List.getElem?_eq_some_iff.mp hnode).1
  have hlength : source.raw < pipeline.nodes.length := by omega
  exact ⟨hlt, pipeline.nodes[source.raw], List.getElem?_eq_getElem hlength⟩

namespace Computed

/-- The computation that just ended gives the table of its node. -/
theorem tableOf_append_singleton (computed : List Computed) (last : Computed) (id : NodeId) :
    tableOf (computed ++ [last]) id
      = if last.node = id then last.table else tableOf computed id := by
  rw [tableOf, find?_append_singleton]
  by_cases h : last.node = id
  · rw [if_pos h, if_pos h]
    rfl
  · rw [if_neg h, if_neg h]
    rfl

/-- The computation of the next node leaves those before it as they were. -/
theorem find?_append_of_lt {computed : List Computed} {last : Computed} {id : NodeId}
    (hlast : last.node = ⟨computed.length⟩) (hlt : id.raw < computed.length) :
    find? (computed ++ [last]) id = find? computed id := by
  have hne : last.node ≠ id := by
    rintro rfl
    rw [hlast] at hlt
    exact Nat.lt_irrefl _ hlt
  rw [find?_append_singleton, if_neg hne]

/-- The tables of nodes before the last one stay. -/
theorem tableOf_append_of_lt {computed : List Computed} {last : Computed} {id : NodeId}
    (hlast : last.node = ⟨computed.length⟩) (hlt : id.raw < computed.length) :
    tableOf (computed ++ [last]) id = tableOf computed id := by
  rw [tableOf, tableOf, find?_append_of_lt hlast hlt]

/-- A node that was computed has a table. -/
theorem map_table_find? {computed : List Computed} {id : NodeId}
    (h : id ∈ computed.map Computed.node) :
    (find? computed id).map Computed.table = some (tableOf computed id) := by
  cases hfind : find? computed id with
  | none => exact absurd h (find?_eq_none_iff.mp hfind)
  | some c =>
    rw [tableOf, hfind]
    rfl

/-- Where no node is computed twice, each is listed with what its table leaves. -/
theorem lookup_asCached {computed : List Computed}
    (hnodup : (computed.map Computed.node).Nodup) {id : NodeId}
    (h : id ∈ computed.map Computed.node) :
    ((latest computed).map fun c => (c.node, c.table.asCached)).lookup id
      = some (tableOf computed id).asCached := by
  obtain ⟨c, hc, rfl⟩ := List.mem_map.mp h
  have htable : tableOf computed c.node = c.table := by
    rw [tableOf, find?_of_mem hnodup hc]
    rfl
  rw [htable, latest_eq_self hnodup]
  -- The pair of `c` is the only one with its number.
  clear htable h
  induction computed with
  | nil => cases hc
  | cons first rest ih =>
    rw [List.map_cons, List.nodup_cons] at hnodup
    rw [List.map_cons, List.lookup_cons]
    rcases List.mem_cons.mp hc with rfl | hmem
    · rw [beq_self_eq_true]
    · have hne : c.node ≠ first.node := by
        intro heq
        exact hnodup.1 (heq ▸ List.mem_map_of_mem hmem)
      rw [beq_false_of_ne hne]
      exact ih hnodup.2 hmem

end Computed

/-- The table of a node in a report, an empty one if there is none. -/
def Report.tableOf (report : Report) (id : NodeId) : Table Value :=
  (report.find? id).getD .empty

namespace Driver

variable {driver : Driver σ} {accepts : NodeId → Value → Value → Prop}

/-- The relation contains what the comparers in effect accept in place of a value, for
the values that the driver holds. -/
def Admits (driver : Driver σ) (accepts : NodeId → Value → Value → Prop) : Prop :=
  ∀ id node, driver.pipeline.node? id = some node → ∀ kept ∈ (driver.baseline id).values,
    ∀ current, (driver.comparer id node).equals kept current = true → accepts id kept current

/-- The relation that contains everything contains what the comparers accept. -/
theorem admits_true (driver : Driver σ) : driver.Admits fun _ _ _ => True :=
  fun _ _ _ _ _ _ _ => trivial

/-- The baselines of the nodes fit together. -/
def Coherent (accepts : NodeId → Value → Value → Prop) (driver : Driver σ) : Prop :=
  ∀ id node, driver.pipeline.node? id = some node → driver.Founded accepts id node

/-- The table of a node is what the node makes of its sources, and fits them. -/
structure Computes (accepts : NodeId → Value → Value → Prop) (driver : Driver σ)
    (tables : NodeId → Table Value) (id : NodeId) (node : Node σ) : Prop where
  makes : ∃ product, driver.Makes tables id node product ∧
    tables id = product.resolve (driver.baseline id)
  advances : driver.Advances accepts tables id node

/-- These computations are those of a run over all nodes. -/
structure Completes (accepts : NodeId → Value → Value → Prop) (driver : Driver σ)
    (computed : List Computed) : Prop where
  nodes : computed.map Computed.node = driver.pipeline.ids
  computes : ∀ id node, driver.pipeline.node? id = some node →
    driver.Computes accepts (Computed.tableOf computed) id node

/-! ### The nodes of a run -/

/-- What a node makes depends on its own table and on those of its sources. -/
theorem Computes.congr {tables tables' : NodeId → Table Value} {id : NodeId} {node : Node σ}
    (h : driver.Computes accepts tables id node)
    (hsame : ∀ source ∈ id :: node.sources, tables source = tables' source) :
    driver.Computes accepts tables' id node := by
  have hid := hsame id (by simp)
  have hsources : ∀ source ∈ node.sources, tables source = tables' source :=
    fun source hsource => hsame source (by simp [hsource])
  obtain ⟨⟨product, hmakes, htable⟩, htracks, hclosed, hfits⟩ := h
  refine ⟨⟨product, hmakes.congr hsources, hid ▸ htable⟩, ?_⟩
  constructor
  · rwa [← hid]
  · intro hfault source hsource
    rw [← hsources source hsource]
    exact hclosed (hid ▸ hfault) source hsource
  · intro hfault
    rw [← hid] at hfault ⊢
    exact (hfits hfault).congr (fun source hsource => by rw [hsources source hsource])
      fun _ => rfl

/-- The nodes before a node are computed already, so their tables follow their
baselines. -/
theorem follows_of_computes (hcoherent : driver.Coherent accepts)
    {tables : NodeId → Table Value} {id : NodeId} {node : Node σ}
    (hnode : driver.pipeline.node? id = some node)
    (hcomputes : ∀ before node, driver.pipeline.node? before = some node →
      before.raw < id.raw → driver.Computes accepts tables before node) :
    ∀ source ∈ node.sources, (tables source).Follows (driver.baseline source) := by
  intro source hsource
  obtain ⟨hlt, before, hbefore⟩ := Pipeline.exists_source hnode hsource
  exact ⟨(hcoherent source before hbefore).isBaseline, _,
    (hcomputes source before hbefore hlt).advances.tracks⟩

/-- The computation of the next node leaves those before it as they were. -/
theorem computes_append (hcoherent : driver.Coherent accepts) (hadmits : driver.Admits accepts)
    {computed : List Computed} {node : Node σ} {product : Product} {serial : Nat}
    (hnode : driver.pipeline.node? ⟨computed.length⟩ = some node)
    (hcomputes : ∀ id node, driver.pipeline.node? id = some node → id.raw < computed.length →
      driver.Computes accepts (Computed.tableOf computed) id node)
    (hmakes : driver.Makes (Computed.tableOf computed) ⟨computed.length⟩ node product) :
    ∀ id node, driver.pipeline.node? id = some node → id.raw < computed.length + 1 →
      driver.Computes accepts (Computed.tableOf
        (computed ++ [driver.computation ⟨computed.length⟩ product serial])) id node := by
  -- Tables of nodes declared before are those that were computed before.
  have hsame : ∀ id : NodeId, id.raw < computed.length →
      Computed.tableOf computed id = Computed.tableOf
        (computed ++ [driver.computation ⟨computed.length⟩ product serial]) id :=
    fun id hlt => (Computed.tableOf_append_of_lt rfl hlt).symm
  have hbefore : ∀ id node, driver.pipeline.node? id = some node → id.raw < computed.length →
      driver.Computes accepts (Computed.tableOf
        (computed ++ [driver.computation ⟨computed.length⟩ product serial])) id node := by
    intro id node hnode hlt
    refine (hcomputes id node hnode hlt).congr fun source hsource => hsame source ?_
    rcases List.mem_cons.mp hsource with rfl | hmem
    · exact hlt
    · exact Nat.lt_trans (Pipeline.exists_source hnode hmem).1 hlt
  intro id node' hnode' hlt
  rcases NodeId.lt_or_eq hlt with hold | rfl
  · exact hbefore id node' hnode' hold
  · rw [hnode, Option.some.injEq] at hnode'
    subst hnode'
    have htable : Computed.tableOf
        (computed ++ [driver.computation ⟨computed.length⟩ product serial]) ⟨computed.length⟩
        = product.resolve (driver.baseline ⟨computed.length⟩) := by
      rw [Computed.tableOf_append_singleton, computation, if_pos rfl]
    have hmakes' := hmakes.congr fun source hsource =>
      hsame source (Pipeline.exists_source hnode hsource).1
    exact ⟨⟨product, hmakes', htable⟩, advances_of_makes (hcoherent _ node hnode)
      (follows_of_computes hcoherent hnode hbefore) (hadmits _ node hnode) hmakes' htable⟩

/-- Where the baselines fit together, the update of a node makes what it may. -/
theorem ensures_makes {holds : Ambient σ → Prop} {stops : Stop → Ambient σ → Prop}
    {tables : NodeId → Table Value} {id : NodeId} {node : Node σ} {a : Ambient σ}
    (hbuiltIn : driver.pipeline.IsBuiltIn) (hcoherent : driver.Coherent accepts)
    (hnode : driver.pipeline.node? id = some node)
    (hfollows : ∀ source ∈ node.sources, (tables source).Follows (driver.baseline source))
    (hsteady : Steady holds stops id (driver.comparer id node) (driver.baseline id).values
      node.role.Calls) (ha : holds a) :
    Ensures (driver.updateNode tables id node) a
      (fun product b => holds b ∧ driver.Makes tables id node product) stops := by
  have hfounded := hcoherent id node hnode
  refine ensures_updateNode hsteady ha hnode (hbuiltIn node (List.mem_of_getElem? hnode)) ?_ ?_
  · exact fun _ _ hfeeds hfaults => hfeeds.length_groups_le hfounded hfollows hfaults
  · exact fun _ _ hrole hempty => hfounded.length_groups_batch hrole hempty

/-- A run over all nodes ends with as many computations. -/
theorem length_of_nodes {computed : List Computed}
    (hnodes : computed.map Computed.node = driver.pipeline.ids) :
    computed.length = driver.pipeline.size := by
  rw [← List.length_map Computed.node, hnodes, Pipeline.ids, List.length_map, List.length_range]

/-- The nodes of a run make what fits. What is kept when a node takes its turn, and makes
what it may of sources that follow their baselines, holds when the run ends. -/
theorem ensures_turns {invariant : List Computed → Ambient σ → Prop}
    {stops : Stop → List Computed → Ambient σ → Prop} {env : Env σ}
    (hbuiltIn : driver.pipeline.IsBuiltIn) (hcoherent : driver.Coherent accepts)
    (hadmits : driver.Admits accepts) (hstart : invariant [] (driver.start env).ambient)
    (hturn : ∀ (computed : List Computed) (a : Ambient σ) (node : Node σ),
      computed.map Computed.node = NodeId.firsts computed.length →
      driver.pipeline.node? ⟨computed.length⟩ = some node →
      (∀ source ∈ node.sources,
        (Computed.tableOf computed source).Follows (driver.baseline source)) →
      invariant computed a →
      Ensures (driver.updateNode (Computed.tableOf computed) ⟨computed.length⟩ node) a
        (fun product b =>
          driver.Makes (Computed.tableOf computed) ⟨computed.length⟩ node product →
          invariant (computed ++ [driver.computation ⟨computed.length⟩ product computed.length])
            (settled ⟨computed.length⟩ node product b))
        (fun stop b => stops stop computed (driver.abandoned ⟨computed.length⟩ node stop b))) :
    Ensures (driver.visitAll driver.pipeline.ids) (driver.start env)
      (fun _ s => invariant s.computed s.ambient ∧ driver.Completes accepts s.computed)
      (fun stop s => stops stop s.computed s.ambient) := by
  have hall := @ensures_visitAll σ driver hbuiltIn
    (fun computed a => invariant computed a ∧
      ∀ id node, driver.pipeline.node? id = some node → id.raw < computed.length →
        driver.Computes accepts (Computed.tableOf computed) id node)
    stops env ⟨hstart, fun _ _ _ h => absurd h (Nat.not_lt_zero _)⟩ ?_
  · -- Once all nodes are computed, each of them has a table that fits.
    refine hall.mono ?_ fun _ _ h => h
    rintro - s ⟨hnodes, hinvariant, hcomputes⟩
    refine ⟨hinvariant, hnodes, fun id node hnode => hcomputes id node hnode ?_⟩
    rw [length_of_nodes hnodes]
    exact (List.getElem?_eq_some_iff.mp hnode).1
  · rintro computed a node hnodes hnode ⟨hinvariant, hcomputes⟩
    -- The nodes before this one fit, so their tables follow their baselines.
    have hfollows := follows_of_computes hcoherent hnode hcomputes
    have hmakes : Ensures (driver.updateNode (Computed.tableOf computed) _ node) a _ _ :=
      ensures_makes hbuiltIn hcoherent hnode hfollows steady_true trivial
    refine ((hturn computed a node hnodes hnode hfollows hinvariant).and hmakes).mono ?_
      fun _ _ h => h.1
    rintro product b ⟨hnext, -, hmakes⟩
    refine ⟨hnext hmakes, ?_⟩
    rw [List.length_append]
    exact computes_append hcoherent hadmits hnode hcomputes hmakes

/-- The nodes of a run make what fits, and what their steps keep is kept. -/
theorem ensures_sweep {holds : Ambient σ → Prop} {stops : Stop → Ambient σ → Prop} {env : Env σ}
    (hbuiltIn : driver.pipeline.IsBuiltIn) (hcoherent : driver.Coherent accepts)
    (hadmits : driver.Admits accepts) (hstart : holds (driver.start env).ambient)
    (hsteady : ∀ id node, driver.pipeline.node? id = some node →
      Steady holds (fun stop a => stops stop (driver.abandoned id node stop a)) id
        (driver.comparer id node) (driver.baseline id).values node.role.Calls) :
    Ensures (driver.visitAll driver.pipeline.ids) (driver.start env)
      (fun _ s => holds s.ambient ∧ driver.Completes accepts s.computed)
      (fun stop s => stops stop s.ambient) := by
  refine @ensures_turns σ driver accepts (fun _ => holds) (fun stop _ => stops stop) env
    hbuiltIn hcoherent hadmits hstart ?_
  intro computed a node _ hnode hfollows ha
  have hsteady' := hsteady _ node hnode
  refine (ensures_makes hbuiltIn hcoherent hnode hfollows hsteady' ha).mono ?_ fun _ _ h => h
  rintro product b ⟨hb, -⟩ -
  exact hsteady'.note b _ rfl hb

/-! ### A run as a whole -/

/-- What comes of a run that went through all nodes. -/
def completed (driver : Driver σ) (s : Scratch σ) : Ran σ where
  result := .ok (driver.report s.computed)
  driver := driver.advance s.computed
  env := s.ambient.env
  journal := s.ambient.journal ++
    [.noticed (.runFinished (driver.report s.computed).run
      (driver.report s.computed).stats.executed (driver.report s.computed).stats.reused
      (driver.report s.computed).stats.faulted)]

/-- What comes of a run that stopped. -/
def halted (driver : Driver σ) (stop : Stop) (s : Scratch σ) : Ran σ where
  result := .error stop
  driver := driver
  env := s.ambient.env
  journal := s.ambient.journal

/-- A run completes or halts as its nodes do. -/
theorem run_cases {env : Env σ} {answered : Scratch σ → Prop} {stopped : Stop → Scratch σ → Prop}
    (h : Ensures (driver.visitAll driver.pipeline.ids) (driver.start env) (fun _ => answered)
      stopped) :
    (∃ s, answered s ∧ driver.run env = driver.completed s) ∨
      ∃ stop s, stopped stop s ∧ driver.run env = driver.halted stop s := by
  unfold run
  cases hrun : (driver.visitAll driver.pipeline.ids).run.run (driver.start env) with
  | mk answer s =>
    cases answer with
    | ok => exact .inl ⟨s, h.of_ok hrun, rfl⟩
    | error stop => exact .inr ⟨stop, s, h.of_error hrun, rfl⟩

/-- A run that completes has visited all nodes, and its report tells of what was computed. -/
theorem exists_visitAll {env : Env σ} {report : Report}
    (hrun : (driver.run env).result = .ok report) : ∃ s,
    (driver.visitAll driver.pipeline.ids).run.run (driver.start env) = (.ok (), s) ∧
      driver.run env = driver.completed s ∧ report = driver.report s.computed := by
  have hvisit : Ensures (driver.visitAll driver.pipeline.ids) (driver.start env)
      (fun _ s => (driver.visitAll driver.pipeline.ids).run.run (driver.start env) = (.ok (), s))
      (fun _ _ => True) := Ensures.intro (fun _ _ hvisit => hvisit) fun _ _ _ => trivial
  rcases run_cases hvisit with ⟨s, hvisit, hcompleted⟩ | ⟨stop, s, -, hhalted⟩
  · rw [hcompleted] at hrun
    cases hrun
    exact ⟨s, hvisit, hcompleted, rfl⟩
  · rw [hhalted] at hrun
    cases hrun

/-- A run that stops leaves the driver as it was, and one that completes keeps its
tables. -/
theorem driver_run (driver : Driver σ) (env : Env σ) :
    (driver.run env).driver = driver ∨
      ∃ report, (driver.run env).result = .ok report ∧
        (driver.run env).driver = driver.advance report.computed := by
  have htrivial : Ensures (driver.visitAll driver.pipeline.ids) (driver.start env)
      (fun _ _ => True) (fun _ _ => True) :=
    Ensures.intro (fun _ _ _ => trivial) fun _ _ _ => trivial
  rcases run_cases htrivial with ⟨s, -, hs⟩ | ⟨stop, s, -, hs⟩
  · rw [hs]
    exact .inr ⟨driver.report s.computed, rfl, rfl⟩
  · rw [hs]
    exact .inl rfl

/-- A run leaves the values and the comparers that were set. -/
theorem settings_run (driver : Driver σ) (env : Env σ) (id : NodeId) (node : Node σ) :
    (driver.run env).driver.valuesOf id = driver.valuesOf id ∧
      (driver.run env).driver.comparer id node = driver.comparer id node := by
  rcases driver_run driver env with hsame | ⟨report, -, hnext⟩
  · rw [hsame]
    exact ⟨rfl, rfl⟩
  · rw [hnext]
    exact ⟨rfl, rfl⟩

/-- A run that stops leaves the driver as it was. -/
theorem driver_run_of_error {env : Env σ} {stop : Stop}
    (hrun : (driver.run env).result = .error stop) : (driver.run env).driver = driver := by
  rcases driver_run driver env with hsame | ⟨report, hok, -⟩
  · exact hsame
  · rw [hok] at hrun
    cases hrun

/-- A run that completes lists the tables of all nodes, and they become baselines. -/
theorem completes_of_run (hbuiltIn : driver.pipeline.IsBuiltIn)
    (hcoherent : driver.Coherent accepts) (hadmits : driver.Admits accepts) {env : Env σ}
    {report : Report} (hrun : (driver.run env).result = .ok report) :
    driver.Completes accepts report.computed ∧
      (driver.run env).driver = driver.advance report.computed ∧
      report = driver.report report.computed := by
  have hsweep := @ensures_sweep σ driver accepts (fun _ => True) (fun _ _ => True) env hbuiltIn
    hcoherent hadmits trivial fun _ _ _ => steady_true
  rcases run_cases hsweep with ⟨s, ⟨-, hcompletes⟩, hs⟩ | ⟨stop, s, -, hs⟩
  · rw [hs] at hrun ⊢
    cases hrun
    exact ⟨hcompletes, rfl, rfl⟩
  · rw [hs] at hrun
    cases hrun

/-- The number of a node is among the numbers. -/
theorem mem_ids_of_node? {id : NodeId} {node : Node σ}
    (hnode : driver.pipeline.node? id = some node) : id ∈ driver.pipeline.ids :=
  (Pipeline.mem_ids _ id).mpr ((Pipeline.contains_iff _ id).mpr ⟨node, hnode⟩)

namespace Completes

variable {computed : List Computed}

/-- A run of the library's own nodes computes none of them twice. -/
theorem nodup (h : driver.Completes accepts computed) :
    (computed.map Computed.node).Nodup := by
  rw [h.nodes]
  exact NodeId.nodup_firsts _

/-- There are as many computations as nodes. -/
theorem lt_length (h : driver.Completes accepts computed) {id : NodeId} {node : Node σ}
    (hnode : driver.pipeline.node? id = some node) : id.raw < computed.length := by
  rw [length_of_nodes h.nodes]
  exact (List.getElem?_eq_some_iff.mp hnode).1

/-- Every node has a table. -/
theorem find?_eq_some (h : driver.Completes accepts computed) {id : NodeId} {node : Node σ}
    (hnode : driver.pipeline.node? id = some node) :
    (Computed.find? computed id).map Computed.table = some (Computed.tableOf computed id) :=
  Computed.map_table_find? (by rw [h.nodes]; exact mem_ids_of_node? hnode)

/-- The baselines after the run are what its tables leave. -/
theorem baseline?_advance (h : driver.Completes accepts computed) {id : NodeId} {node : Node σ}
    (hnode : driver.pipeline.node? id = some node) :
    (driver.advance computed).baseline? id = some (Computed.tableOf computed id).asCached :=
  Computed.lookup_asCached h.nodup (by rw [h.nodes]; exact mem_ids_of_node? hnode)

/-- The baselines that a run leaves are its tables, as baselines. -/
theorem baseline_advance (h : driver.Completes accepts computed) {id : NodeId} {node : Node σ}
    (hnode : driver.pipeline.node? id = some node) :
    (driver.advance computed).baseline id = (Computed.tableOf computed id).asCached := by
  rw [baseline, h.baseline?_advance hnode]
  rfl

/-- The tables of a run follow the baselines it found. -/
theorem follows (h : driver.Completes accepts computed) (hcoherent : driver.Coherent accepts)
    {id : NodeId} {node : Node σ} (hnode : driver.pipeline.node? id = some node) :
    (Computed.tableOf computed id).Follows (driver.baseline id) :=
  ⟨(hcoherent id node hnode).isBaseline, _, (h.computes id node hnode).advances.tracks⟩

/-- The baselines that a run leaves fit together. -/
theorem coherent_advance (h : driver.Completes accepts computed)
    (hcoherent : driver.Coherent accepts) : (driver.advance computed).Coherent accepts := by
  intro id node hnode
  have hnodes : ∀ source ∈ id :: node.sources,
      ∃ node, driver.pipeline.node? source = some node := by
    intro source hsource
    rcases List.mem_cons.mp hsource with rfl | hmem
    · exact ⟨node, hnode⟩
    · exact (Pipeline.exists_source hnode hmem).2
  refine founded_of_advances (fun source hsource => ?_) (fun source hsource => ?_)
    (h.computes id node hnode).advances
  · obtain ⟨node', hnode'⟩ := hnodes source hsource
    exact h.baseline_advance hnode'
  · obtain ⟨node', hnode'⟩ := hnodes source hsource
    exact h.follows hcoherent hnode'

end Completes

/-! ### Histories -/

/-- What a host may do to a driver. -/
inductive Operation (σ : Type) where
  | change (change : Change σ)
  | run (env : Env σ)

/-- The driver after an operation. A change that is refused changes nothing. -/
def act (driver : Driver σ) : Operation σ → Driver σ
  | .change change =>
    match driver.change change with
    | .ok next => next
    | .error _ => driver
  | .run env => (driver.run env).driver

/-- The driver after a history of operations. -/
def after (driver : Driver σ) (ops : List (Operation σ)) : Driver σ :=
  ops.foldl act driver

/-- A driver that was just made. -/
def fresh (pipeline : Pipeline σ) (tracksSteps : Bool) : Driver σ where
  pipeline := pipeline
  tracksSteps := tracksSteps

/-- Where nothing is done, nothing changes. -/
@[simp] theorem after_nil (driver : Driver σ) : driver.after [] = driver := rfl

/-- A history starts from what its first operation leaves. -/
theorem after_cons (op : Operation σ) (ops : List (Operation σ)) :
    driver.after (op :: ops) = (driver.act op).after ops := rfl

/-- A history may be taken up where another one ended. -/
@[simp] theorem after_append (first rest : List (Operation σ)) :
    driver.after (first ++ rest) = (driver.after first).after rest :=
  List.foldl_append

/-- The last operation is done to what the others leave. -/
theorem after_concat (ops : List (Operation σ)) (op : Operation σ) :
    driver.after (ops ++ [op]) = (driver.after ops).act op :=
  after_append ops [op]

/-- Is the change the one that drops the baselines? -/
def Change.isReset : Change σ → Bool
  | .reset => true
  | _ => false

/-- What a change that is carried out does. Where a value or a comparer is to be taken
back, a handle of another pipeline does nothing. -/
inductive ChangesTo (driver : Driver σ) : Change σ → Driver σ → Prop where
  | setInput (handle : Handle) (values : List Value) {kind : Kind} :
    driver.pipeline.owns handle = true → driver.pipeline.kind? handle.node = some kind →
    kind.name = "input" →
    ChangesTo driver (.setInput handle values)
      { driver with inputs := handle.node.update driver.inputs (some values) }
  | clearInput (handle : Handle) : driver.pipeline.owns handle = true →
    ChangesTo driver (.clearInput handle)
      { driver with inputs := handle.node.update driver.inputs none }
  | clearNoInput (handle : Handle) : driver.pipeline.owns handle = false →
    ChangesTo driver (.clearInput handle) driver
  | setComparer (handle : Handle) (comparer : Comparer σ) : driver.pipeline.owns handle = true →
    ChangesTo driver (.setComparer handle comparer)
      { driver with overrides := handle.node.update driver.overrides (some comparer) }
  | clearComparer (handle : Handle) : driver.pipeline.owns handle = true →
    ChangesTo driver (.clearComparer handle)
      { driver with overrides := handle.node.update driver.overrides none }
  | clearNoComparer (handle : Handle) : driver.pipeline.owns handle = false →
    ChangesTo driver (.clearComparer handle) driver
  | reset : ChangesTo driver .reset driver.reset

/-- A change that is not refused does what the definition says, and nothing else. -/
theorem changesTo_of_change {change : Change σ} {next : Driver σ}
    (h : driver.change change = .ok next) : driver.ChangesTo change next := by
  cases change with
  | setInput handle values =>
    simp only [Driver.change, setInput] at h
    split at h
    · next howns =>
      split at h
      · cases h
      · next kind hkind =>
        split at h
        · next hname =>
          cases h
          exact .setInput handle values howns hkind hname
        · cases h
    · cases h
  | clearInput handle =>
    cases h
    unfold clearInput
    split
    · next howns => exact .clearInput handle howns
    · next howns => exact .clearNoInput handle (by simpa using howns)
  | setComparer handle comparer =>
    simp only [Driver.change, setComparer] at h
    split at h
    · next howns =>
      cases h
      exact .setComparer handle comparer howns
    · cases h
  | clearComparer handle =>
    cases h
    unfold clearComparer
    split
    · next howns => exact .clearComparer handle howns
    · next howns => exact .clearNoComparer handle (by simpa using howns)
  | reset =>
    cases h
    exact .reset

/-- A change keeps the pipeline, and the baselines unless it is a reset. -/
theorem ChangesTo.frame {change : Change σ} {next : Driver σ} (h : driver.ChangesTo change next) :
    next.pipeline = driver.pipeline ∧
      next.baselines = if change.isReset then [] else driver.baselines := by
  cases h <;> exact ⟨rfl, rfl⟩

/-- A change that is not refused takes effect. -/
theorem act_of_ok {change : Change σ} {next : Driver σ} (h : driver.change change = .ok next) :
    driver.act (.change change) = next := by
  simp only [act, h]

/-- One that is refused does not. -/
theorem act_of_error {change : Change σ} {e : Error} (h : driver.change change = .error e) :
    driver.act (.change change) = driver := by
  simp only [act, h]

/-- A change that is refused is no reset, so this holds of every change. -/
theorem act_change (driver : Driver σ) (change : Change σ) :
    (driver.act (.change change)).pipeline = driver.pipeline ∧
      (driver.act (.change change)).baselines
        = if change.isReset then [] else driver.baselines := by
  cases hchange : driver.change change with
  | ok next =>
    rw [act_of_ok hchange]
    exact (changesTo_of_change hchange).frame
  | error e =>
    rw [act_of_error hchange]
    cases change with
    | reset => cases hchange
    | setInput handle values => exact ⟨rfl, rfl⟩
    | clearInput handle => exact ⟨rfl, rfl⟩
    | setComparer handle comparer => exact ⟨rfl, rfl⟩
    | clearComparer handle => exact ⟨rfl, rfl⟩

/-- What an operation leaves of the pipeline and the baselines. -/
theorem act_cases (driver : Driver σ) (op : Operation σ) :
    (driver.act op).pipeline = driver.pipeline ∧
      ((driver.act op).baselines = driver.baselines ∨ (driver.act op).baselines = [] ∨
        ∃ env report, op = .run env ∧ (driver.run env).result = .ok report) := by
  cases op with
  | change change =>
    obtain ⟨hpipeline, hbaselines⟩ := act_change driver change
    cases hreset : change.isReset with
    | true => exact ⟨hpipeline, .inr (.inl (by rw [hbaselines, hreset]; rfl))⟩
    | false => exact ⟨hpipeline, .inl (by rw [hbaselines, hreset]; rfl)⟩
  | run env =>
    show (driver.run env).driver.pipeline = _ ∧ ((driver.run env).driver.baselines = _ ∨ _)
    rcases driver_run driver env with hsame | ⟨report, hrun, hnext⟩
    · rw [hsame]
      exact ⟨rfl, .inl rfl⟩
    · rw [hnext]
      exact ⟨rfl, .inr (.inr ⟨env, report, rfl, hrun⟩)⟩

/-- A driver keeps its pipeline for good. -/
@[simp] theorem pipeline_after (ops : List (Operation σ)) :
    (driver.after ops).pipeline = driver.pipeline := by
  induction ops generalizing driver with
  | nil => rfl
  | cons op ops ih =>
    rw [after_cons, ih, (act_cases driver op).1]

/-- Where there are no baselines, they fit together. -/
theorem coherent_of_baselines_nil (h : driver.baselines = []) : driver.Coherent accepts := by
  intro id node hnode
  refine .fresh ?_
  rw [baseline, baseline?, h]
  rfl

/-- Baselines fit together as long as they and the pipeline stay the same. -/
theorem Coherent.of_same {next : Driver σ} (h : driver.Coherent accepts)
    (hpipeline : next.pipeline = driver.pipeline) (hbaselines : next.baselines = driver.baselines) :
    next.Coherent accepts := by
  have hbaseline : ∀ id, next.baseline id = driver.baseline id := by
    intro id
    rw [baseline, baseline?, hbaselines]
    rfl
  intro id node hnode
  rw [hpipeline] at hnode
  cases h id node hnode with
  | fresh hempty => exact .fresh ((hbaseline id).trans hempty)
  | kept set groups hkept hclosed hfits =>
    refine .kept set groups ((hbaseline id).trans hkept) (fun source hsource => ?_)
      (hfits.congr (fun source _ => ?_) fun _ => rfl)
    · rw [hbaseline]
      exact hclosed source hsource
    · rw [hbaseline]

/-- One operation keeps the baselines fitting together. -/
theorem Coherent.act (hbuiltIn : driver.pipeline.IsBuiltIn) (h : driver.Coherent accepts)
    (op : Operation σ)
    (hadmits : ∀ env report, op = .run env → (driver.run env).result = .ok report →
      driver.Admits accepts) : (driver.act op).Coherent accepts := by
  obtain ⟨hpipeline, hbaselines | hbaselines | ⟨env, report, rfl, hrun⟩⟩ := act_cases driver op
  · exact h.of_same hpipeline hbaselines
  · exact coherent_of_baselines_nil hbaselines
  · obtain ⟨hcompletes, hnext, -⟩ :=
      completes_of_run hbuiltIn h (hadmits env report rfl hrun) hrun
    show (driver.run env).driver.Coherent accepts
    rw [hnext]
    exact hcompletes.coherent_advance h

/-- After any history the baselines fit together, if they did before and the relation
contains what is accepted in the runs that complete. -/
theorem coherent_after (hbuiltIn : driver.pipeline.IsBuiltIn) (h : driver.Coherent accepts)
    (ops : List (Operation σ))
    (hadmits : ∀ before env rest report, ops = before ++ .run env :: rest →
      ((driver.after before).run env).result = .ok report →
      (driver.after before).Admits accepts) : (driver.after ops).Coherent accepts := by
  -- The history is taken apart at its end, as its last run starts from the rest.
  induction ops using List.reverseRecOn with
  | nil => exact h
  | append_singleton ops op ih =>
    rw [after_concat]
    refine Coherent.act (by rw [pipeline_after]; exact hbuiltIn) (ih ?_) op ?_
    · intro before env rest report hops hrun
      refine hadmits before env (rest ++ [op]) report ?_ hrun
      rw [hops, List.append_assoc, List.cons_append]
    · rintro env report rfl hrun
      exact hadmits ops env [] report rfl hrun

/-- A comparer that is set was set before, or by the operation. -/
theorem overrides_act {id : NodeId} {op : Operation σ} {comparer : Comparer σ}
    (h : (driver.act op).overrides id = some comparer) :
    driver.overrides id = some comparer ∨
      ∃ handle, op = .change (.setComparer handle comparer) := by
  -- Setting or clearing makes a difference for the node of the handle only.
  have hupdate : ∀ (handle : Handle) (o : Option (Comparer σ)),
      handle.node.update driver.overrides o id = some comparer →
      driver.overrides id = some comparer ∨ o = some comparer := by
    intro handle o ho
    by_cases hid : id = handle.node
    · subst hid
      rw [NodeId.update_self] at ho
      exact .inr ho
    · rw [NodeId.update_of_ne _ _ hid] at ho
      exact .inl ho
  cases op with
  | run env =>
    rcases driver_run driver env with hsame | ⟨report, -, hnext⟩
    · exact .inl (by rw [← h]; exact congrArg (·.overrides id) hsame.symm)
    · exact .inl (by rw [← h]; exact congrArg (·.overrides id) hnext.symm)
  | change change =>
    cases hchange : driver.change change with
    | error e =>
      rw [act_of_error hchange] at h
      exact .inl h
    | ok next =>
      rw [act_of_ok hchange] at h
      cases changesTo_of_change hchange with
      | setInput handle values howns hkind hname => exact .inl h
      | clearInput handle howns => exact .inl h
      | clearNoInput handle howns => exact .inl h
      | setComparer handle other howns =>
        rcases hupdate handle (some other) h with hbefore | hset
        · exact .inl hbefore
        · cases hset
          exact .inr ⟨handle, rfl⟩
      | clearComparer handle howns =>
        rcases hupdate handle none h with hbefore | hset
        · exact .inl hbefore
        · cases hset
      | clearNoComparer handle howns => exact .inl h
      | reset => exact .inl h

/-- A comparer that is set in the end was set at the start, or in the history. -/
theorem overrides_after {id : NodeId} {ops : List (Operation σ)} {comparer : Comparer σ}
    (h : (driver.after ops).overrides id = some comparer) :
    driver.overrides id = some comparer ∨
      ∃ handle, .change (.setComparer handle comparer) ∈ ops := by
  induction ops generalizing driver with
  | nil => exact .inl h
  | cons op ops ih =>
    rcases ih h with hact | ⟨handle, hmem⟩
    · rcases overrides_act hact with hbefore | ⟨handle, hop⟩
      · exact .inl hbefore
      · exact .inr ⟨handle, by rw [hop]; exact List.mem_cons_self⟩
    · exact .inr ⟨handle, List.mem_cons_of_mem op hmem⟩

end Driver

/-! ### A small pipeline and its history -/

/-- Did the run complete, with such a report? -/
def Ran.completesWith (ran : Ran σ) (holds : Report → Bool) : Bool :=
  match ran.result with
  | .ok report => holds report
  | .error _ => false

/-- What was evaluated of a run is read off its report. -/
theorem Ran.exists_report {ran : Ran σ} {holds : Report → Bool}
    (h : ran.completesWith holds = true) :
    ∃ report, ran.result = .ok report ∧ holds report = true := by
  unfold completesWith at h
  cases hresult : ran.result with
  | error stop =>
    rw [hresult] at h
    cases h
  | ok report =>
    rw [hresult] at h
    exact ⟨report, rfl, h⟩

namespace Sample

/-- Negates a truth value and fails for any other. -/
def negate (value : Value) : UserCode Unit (Except Fault Value) :=
  match value with
  | .bool b => return .ok (.bool !b)
  | _ => return .error ⟨.plain "no truth value", .host 0⟩

/-- The node that negates the values of the input. -/
def negation : Node Unit where
  role := .transform ⟨0⟩ (.select negate)
  comparer := .structural
  element := .value

/-- An input, the negations of its values, the list of these, and each of them beside the
list. -/
def pipeline : Pipeline Unit where
  id := 0
  nodes := [⟨.input, .structural, .value⟩, negation, ⟨.batch ⟨1⟩ .collect, .structural, .collected⟩,
    ⟨.combine ⟨1⟩ ⟨2⟩, .structural, .paired⟩]
  sources_lt := by
    intro i node hnode source hsource
    match i, hnode with
    | 0, rfl => cases hsource
    | 1, rfl =>
      rw [List.mem_singleton.mp hsource]
      decide
    | 2, rfl =>
      rw [List.mem_singleton.mp hsource]
      decide
    | 3, rfl =>
      rcases List.mem_pair.mp hsource with rfl | rfl <;> decide

/-- All nodes of the small pipeline are the library's own. -/
theorem isBuiltIn : pipeline.IsBuiltIn := by
  show ∀ node ∈ pipeline.nodes, node.role.isBuiltIn = true
  decide

/-- A comparer that accepts nothing, not even equal values. -/
def strict : Comparer Unit where
  equals _ _ := false

/-- Two values are set and the pipeline is run. Then one of them is taken away, and the
negations get another comparer. -/
def history : List (Driver.Operation Unit) :=
  [.change (.setInput ⟨0, ⟨0⟩, .value⟩ [.bool true, .bool false]), .run ⟨(), false⟩,
    .change (.setInput ⟨0, ⟨0⟩, .value⟩ [.bool true]),
    .change (.setComparer ⟨0, ⟨1⟩, .value⟩ strict)]

/-- Two values are set, and the pipeline was not run yet. -/
def setting : List (Driver.Operation Unit) :=
  [.change (.setInput ⟨0, ⟨0⟩, .value⟩ [.bool true, .bool false])]

/-- The driver before its first run. -/
def prepared : Driver Unit :=
  (Driver.fresh pipeline false).after setting

/-- A value is set that the negation fails for. -/
def rejection : List (Driver.Operation Unit) :=
  [.change (.setInput ⟨0, ⟨0⟩, .value⟩ [.null])]

/-- The driver that has this value set. -/
def rejecting : Driver Unit :=
  (Driver.fresh pipeline false).after rejection

/-- A comparer that cancels the run. -/
def signalling : Comparer Unit where
  equals _ _ := true
  effect _ _ := UserCode.cancel
  cancelled_effect _ _ _ _ := rfl

/-- One of two values is changed between two runs, and the comparer of the negations then
cancels. -/
def interruption : List (Driver.Operation Unit) :=
  [.change (.setInput ⟨0, ⟨0⟩, .value⟩ [.bool true, .bool false]), .run ⟨(), false⟩,
    .change (.setInput ⟨0, ⟨0⟩, .value⟩ [.bool false, .bool false]),
    .change (.setComparer ⟨0, ⟨1⟩, .value⟩ signalling)]

/-- The driver before the run that is cancelled. -/
def interrupting : Driver Unit :=
  (Driver.fresh pipeline false).after interruption

/-- The driver after the history. -/
def driver : Driver Unit :=
  (Driver.fresh pipeline false).after history

/-- The next run completes. It keeps the negation of the value that is still there. -/
theorem exists_report :
    ∃ report, (driver.run ⟨(), false⟩).result = .ok report ∧
      report.find? ⟨1⟩ = some (.populated
        [Group.tagged .cached [.bool false], Group.dropped [.bool true]]) := by
  have hcompletes : (driver.run ⟨(), false⟩).completesWith (fun report =>
      report.find? ⟨1⟩ = some (.populated
        [Group.tagged .cached [.bool false], Group.dropped [.bool true]])) = true := by
    decide +kernel
  obtain ⟨report, hrun, hfind⟩ := Ran.exists_report hcompletes
  exact ⟨report, hrun, of_decide_eq_true hfind⟩

end Sample

end DeltaPipeline
