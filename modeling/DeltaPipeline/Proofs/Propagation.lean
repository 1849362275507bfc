import DeltaPipeline.Proofs.Invocations

/-!
# `DeltaPipeline.Proofs.Propagation`: where the faults of a run come from

A fault is raised by a node whose sources have none: by its function, or as the right
side of a combine is no single item. Every node that depends on this one carries a fault
as well, that of its first source that has one, and runs none of its user code. So each
fault of a run goes back, unchanged, to a node that raised it in this run.

* `Driver.Raises`: the fault that a node raises itself.
* `Driver.updateFrom_of_isFaulted`: a node with a faulted source only hands the fault on.
* `Driver.Turn.eq_faulted_iff`: the fault of a node whose sources have none.
* `Driver.Completes.isFaulted_of_dependsOn`, `Driver.Completes.exists_origin`: faults go
  downstream, and each has an origin upstream.
* `Driver.Completes.faults_eq`, `Driver.Completes.mem_faults_iff`: the list of all faults.
* `Driver.FaultsOf`: the faults of a run.
* `Driver.propagation_after`: where they come from in every run.
-/

set_option autoImplicit false

namespace DeltaPipeline

variable {σ : Type}

/-- A report finds a fault for exactly the nodes whose table holds it. -/
theorem Report.find?_eq_faulted_iff {report : Report} {id : NodeId} {fault : Fault} :
    report.find? id = some (.faulted fault) ↔ report.tableOf id = .faulted fault := by
  unfold tableOf
  cases report.find? id <;> simp

namespace Driver

variable {driver : Driver σ} {accepts : NodeId → Value → Value → Prop} {env : Env σ}
  {tables : NodeId → Table Value} {id : NodeId} {node : Node σ} {computed : List Computed}

/-! ### A node with a faulted source -/

/-- A node with a faulted source only hands the first fault on. -/
theorem updateFrom_of_isFaulted {first : NodeId} {fault : Fault}
    (hbuiltIn : node.role.isBuiltIn = true)
    (hfirst : node.sources.find? (fun source => (tables source).isFaulted) = some first)
    (hfault : tables first = .faulted fault) :
    driver.updateFrom tables id node = (pure (.table (.faulted fault)) : StepM σ Product) := by
  obtain ⟨hcompacted, hfaulted, hcarry⟩ : (tables first).isCompacted = false ∧
      (tables first).isFaulted = true ∧
      ∀ origin, ((tables first).carryFault origin : Table Value) = .faulted fault := by
    rw [hfault]
    exact ⟨rfl, rfl, fun _ => rfl⟩
  -- The branch for a compacted source comes first in each form, but a faulted one is not.
  unfold updateFrom
  cases hrole : node.role with
  | input =>
    rw [Node.sources_of_role hrole] at hfirst
    cases hfirst
  | transform source function =>
    obtain rfl : source = first := by
      have hmem := List.mem_of_find?_eq_some hfirst
      rw [Node.sources_of_role hrole] at hmem
      exact (List.mem_singleton.mp hmem).symm
    simp [Transform.update, hcompacted, hfaulted, hcarry]
  | batch source function =>
    obtain rfl : source = first := by
      have hmem := List.mem_of_find?_eq_some hfirst
      rw [Node.sources_of_role hrole] at hmem
      exact (List.mem_singleton.mp hmem).symm
    simp [Batch.update, hcompacted, hfaulted, hcarry]
  | combine left right =>
    have hsources : node.sources = [left, right] := Node.sources_of_role hrole
    rw [hsources] at hfirst
    by_cases hleft : (tables left).isFaulted = true
    · obtain rfl : left = first := by simpa [hleft] using hfirst
      simp [Combine.update, hcompacted, hfaulted, hcarry]
    · obtain ⟨-, rfl⟩ : (tables right).isFaulted = true ∧ right = first := by
        simpa [hleft] using hfirst
      simp [Combine.update, hcompacted, hleft, hfaulted, hcarry]
  | custom name turns program =>
    rw [hrole] at hbuiltIn
    cases hbuiltIn

/-- A node with a faulted source has the fault of the first one. -/
theorem Completes.exists_first (h : driver.Completes accepts computed)
    (hnode : driver.pipeline.node? id = some node) {source : NodeId}
    (hsource : source ∈ node.sources)
    (hfaulted : (Computed.tableOf computed source).isFaulted = true) :
    ∃ first fault,
      node.sources.find? (fun source => (Computed.tableOf computed source).isFaulted) = some first ∧
      Computed.tableOf computed first = .faulted fault ∧
      Computed.tableOf computed id = .faulted fault := by
  obtain ⟨product, hmakes, htable⟩ := (h.computes id node hnode).makes
  obtain ⟨first, fault, hfirst, hfault, rfl⟩ := hmakes.of_isFaulted hsource hfaulted
  exact ⟨first, fault, hfirst, hfault, htable⟩

/-- The function of a node with a faulted source is not called. -/
theorem Turn.calls_eq_nil {journal : List Event} {calls : List (Call σ)}
    (h : driver.Turn computed journal calls id node) {source : NodeId}
    (hsource : source ∈ node.sources)
    (hfaulted : (Computed.tableOf computed source).isFaulted = true) : calls = [] := by
  have hnone : driver.arguments (Computed.tableOf computed) id node = [] := by
    refine arguments_of_spares fun other hother => ?_
    rw [hother, List.mem_singleton] at hsource
    rw [spares, ← hsource, hfaulted, Bool.true_or]
  have hcalled := h.called
  rw [hnone] at hcalled
  exact hcalled.eq_nil.1

/-! ### A node that raises a fault -/

/-- The fault that a node raises itself in a run: the first one that its function gave, or
that the right side of a combine is not a single item. -/
inductive Raises (driver : Driver σ) (tables : NodeId → Table Value) (calls : List (Call σ))
    (id : NodeId) (node : Node σ) : Fault → Prop where
  | failed (fault : Fault) : calls.findSome? Call.fault? = some fault →
    Raises driver tables calls id node fault
  | refused (left right : NodeId) : node.role = .combine left right →
    (tables right).values.length ≠ 1 →
    Raises driver tables calls id node
      ⟨.error (.invalidState (.rightNotSingle id (tables right).values.length)),
        .engine (driver.site id 0)⟩

/-- A combine none of whose sources is faulted has a fault exactly if its right side is not
a single item. -/
theorem Completes.eq_faulted_iff_of_combine (h : driver.Completes accepts computed)
    (hcoherent : driver.Coherent accepts) {left right : NodeId} {fault : Fault}
    (hnode : driver.pipeline.node? id = some node)
    (hrole : node.role = .combine left right)
    (hfaults : ∀ source ∈ node.sources, (Computed.tableOf computed source).isFaulted = false) :
    Computed.tableOf computed id = .faulted fault
      ↔ driver.Raises (Computed.tableOf computed) [] id node fault := by
  have hcomputes := h.computes id node hnode
  have hraised : ∀ raised, Computed.tableOf computed id = .faulted raised →
      driver.Raises (Computed.tableOf computed) [] id node raised := by
    intro raised hfault
    cases arises_of_computes (hcoherent id node hnode) hcomputes hfault with
    | carried source _ hsource hcarried =>
      have hlive := hfaults source hsource
      rw [hcarried] at hlive
      cases hlive
    | given code _ hcode hgives =>
      rw [hrole] at hcode
      cases hcode
    | refused left' right' hother hlength => exact .refused left' right' hother hlength
  refine ⟨hraised fault, fun hraises => ?_⟩
  cases hraises with
  | failed _ hfirst => cases hfirst
  | refused left' right' hother hlength =>
    rw [hrole] at hother
    cases hother
    cases hlive : (Computed.tableOf computed id).isFaulted with
    | true =>
      -- There is one way for it to be faulted.
      obtain ⟨raised, hfault⟩ := Table.eq_faulted_of_isFaulted hlive
      cases hraised raised hfault with
      | failed _ hfirst => cases hfirst
      | refused left' right' hother _ =>
        rw [hrole] at hother
        cases hother
        exact hfault
    | false =>
      -- The pairs that are there were made with the one item on the right.
      obtain ⟨single, hsingle, -⟩ :=
        (Node.fits_combine_iff hrole).mp (hcomputes.advances.fits hlive)
      rw [hsingle] at hlength
      exact absurd rfl hlength

/-- A node none of whose sources is faulted has the fault that it raised itself. -/
theorem Turn.eq_faulted_iff {journal : List Event} {calls : List (Call σ)} {fault : Fault}
    (hturn : driver.Turn computed journal calls id node) (h : driver.Completes accepts computed)
    (hcoherent : driver.Coherent accepts) (hnode : driver.pipeline.node? id = some node)
    (hfaults : ∀ source ∈ node.sources, (Computed.tableOf computed source).isFaulted = false) :
    Computed.tableOf computed id = .faulted fault
      ↔ driver.Raises (Computed.tableOf computed) calls id node fault := by
  by_cases hcombine : ∃ left right, node.role = .combine left right
  · obtain ⟨left, right, hrole⟩ := hcombine
    -- A combine has no function to be called.
    have hcalled := hturn.called
    simp only [arguments, hrole] at hcalled
    rw [hcalled.eq_nil.1]
    exact h.eq_faulted_iff_of_combine hcoherent hnode hrole hfaults
  · rw [not_exists] at hcombine
    have hother : ∀ left right, node.role ≠ .combine left right := fun left =>
      not_exists.mp (hcombine left)
    rw [Table.eq_faulted_iff, hturn.raised hfaults hother]
    constructor
    · exact .failed fault
    · intro hraises
      cases hraises with
      | failed fault hfirst => exact hfirst
      | refused left right hrole hlength => exact absurd hrole (hother left right)

/-! ### Faults downstream and their origin upstream -/

/-- Every node that depends on a faulted one is faulted. -/
theorem Completes.isFaulted_of_dependsOn (h : driver.Completes accepts computed)
    {ancestor : NodeId} (hdepends : driver.pipeline.DependsOn id ancestor)
    (hfaulted : (Computed.tableOf computed ancestor).isFaulted = true) :
    (Computed.tableOf computed id).isFaulted = true := by
  -- The induction is on the way from the node to the one that it depends on.
  have hstep : ∀ {id source : NodeId}, driver.pipeline.DrawsOn id source →
      (Computed.tableOf computed source).isFaulted = true →
      (Computed.tableOf computed id).isFaulted = true := by
    rintro id source ⟨node, hnode, hsource⟩ hfaulted
    obtain ⟨first, fault, -, -, htable⟩ := h.exists_first hnode hsource hfaulted
    rw [htable]
    rfl
  induction hdepends using Relation.TransGen.head_induction_on with
  | single hdraws => exact hstep hdraws hfaulted
  | head hdraws hrest ih => exact hstep hdraws ih

/-- Every fault is that of a node without faulted sources: the node itself or one that it
depends on. -/
theorem Completes.exists_origin (h : driver.Completes accepts computed) {fault : Fault}
    (hnode : driver.pipeline.node? id = some node)
    (hfault : Computed.tableOf computed id = .faulted fault) :
    ∃ origin raiser, (origin = id ∨ driver.pipeline.DependsOn id origin) ∧
      driver.pipeline.node? origin = some raiser ∧
      (∀ source ∈ raiser.sources, (Computed.tableOf computed source).isFaulted = false) ∧
      Computed.tableOf computed origin = .faulted fault := by
  -- The induction is on the number of the node, as its sources have smaller ones.
  induction hraw : id.raw using Nat.strong_induction_on generalizing id node with
  | _ raw ih =>
    subst hraw
    by_cases hfaults : ∀ source ∈ node.sources,
        (Computed.tableOf computed source).isFaulted = false
    · exact ⟨id, node, .inl rfl, hnode, hfaults, hfault⟩
    · simp only [not_forall, Bool.not_eq_false] at hfaults
      obtain ⟨source, hsource, hfaulted⟩ := hfaults
      obtain ⟨first, carried, hfirst, hcarried, htable⟩ :=
        h.exists_first hnode hsource hfaulted
      obtain rfl : carried = fault := by
        rw [hfault] at htable
        exact (Table.faulted.inj htable).symm
      have hmem := List.mem_of_find?_eq_some hfirst
      obtain ⟨hlt, before, hbefore⟩ := Pipeline.exists_source hnode hmem
      obtain ⟨origin, raiser, hway, horigin⟩ := ih first.raw hlt hbefore hcarried rfl
      refine ⟨origin, raiser, .inr ?_, horigin⟩
      rcases hway with rfl | hthrough
      · exact .of_source hnode hmem
      · exact .through hnode hmem hthrough

/-! ### The list of all faults -/

section Faults

variable {report : Report}

/-- The nodes are computed in order. -/
theorem Completes.pairwise_node (h : driver.Completes accepts computed) :
    computed.Pairwise fun a b => a.node.raw < b.node.raw := by
  have hordered : driver.pipeline.ids.Pairwise fun a b => a.raw < b.raw :=
    List.pairwise_map.mpr List.pairwise_lt_range
  rwa [← h.nodes, List.pairwise_map] at hordered

/-- Each node is computed once and in order, so no fault is left out and none has to be
moved. -/
theorem Completes.faults_eq (h : driver.Completes accepts report.computed) :
    report.faults = (report.computed.filterMap fun c => c.table.fault?.map (c.node, ·)) ∧
      report.faults.Pairwise fun a b => a.1.raw < b.1.raw := by
  have hordered : (report.computed.filterMap fun c => c.table.fault?.map (c.node, ·)).Pairwise
      fun a b => a.1.raw < b.1.raw := by
    refine h.pairwise_node.filterMap _ fun a b hlt x hx y hy => ?_
    obtain ⟨-, -, rfl⟩ := Option.map_eq_some_iff.mp hx
    obtain ⟨-, -, rfl⟩ := Option.map_eq_some_iff.mp hy
    exact hlt
  have hfaults : report.faults = report.computed.filterMap fun c =>
      c.table.fault?.map (c.node, ·) := by
    rw [Report.faults, Report.latest, Computed.latest_eq_self h.nodup]
    exact List.mergeSort_of_pairwise (hordered.imp fun hlt => by simpa using Nat.le_of_lt hlt)
  exact ⟨hfaults, hfaults ▸ hordered⟩

/-- The list has the fault of each faulted node and no other. -/
theorem Completes.mem_faults_iff (h : driver.Completes accepts report.computed)
    {fault : Fault} : (id, fault) ∈ report.faults ↔ report.tableOf id = .faulted fault := by
  rw [h.faults_eq.1, List.mem_filterMap]
  constructor
  · rintro ⟨c, hc, hfault⟩
    obtain ⟨raised, hraised, heq⟩ := Option.map_eq_some_iff.mp hfault
    cases heq
    rw [Report.tableOf, Report.find?, Computed.find?_of_mem h.nodup hc]
    exact Table.eq_faulted_iff.mpr hraised
  · intro hfault
    obtain ⟨c, hfind, htable⟩ := Option.map_eq_some_iff.mp (Report.find?_eq_faulted_iff.mpr hfault)
    refine ⟨c, Computed.mem_of_find? hfind, ?_⟩
    rw [Table.eq_faulted_iff.mp htable, Computed.node_of_find? hfind]
    rfl

/-- A run counts as many faulted nodes as it lists. -/
theorem Completes.length_faults (h : driver.Completes accepts report.computed)
    (houtcome : ∀ c ∈ report.computed, c.outcome = .faulted ↔ c.table.isFaulted = true) :
    report.stats.faulted = report.faults.length := by
  rw [h.faults_eq.1, List.length_filterMap_eq_countP]
  refine List.countP_congr fun c hc => ?_
  rw [decide_eq_true_iff, houtcome c hc]
  cases c.table <;> simp [Table.isFaulted, Table.fault?]

end Faults

/-! ### The faults of every run -/

/-- In a run the outcome of a node is a fault exactly if its table is faulted. -/
theorem Turns.outcome_eq_faulted_iff {a : Ambient σ} {calls : NodeId → List (Call σ)}
    (hturns : driver.Turns env computed a calls) (h : driver.Completes accepts computed)
    (hcoherent : driver.Coherent accepts) :
    ∀ c ∈ computed, c.outcome = .faulted ↔ c.table.isFaulted = true := by
  intro c hc
  have hlisted : c.node ∈ driver.pipeline.ids := h.nodes ▸ List.mem_map_of_mem hc
  obtain ⟨node, hnode⟩ :=
    (Pipeline.contains_iff _ _).mp ((Pipeline.mem_ids driver.pipeline _).mp hlisted)
  obtain ⟨d, hfind, -, -, -, hfaulted, -⟩ :=
    (hturns.turn c.node node hnode (h.lt_length hnode)).outcome_iff (hcoherent c.node node hnode)
  rw [Computed.find?_of_mem h.nodup hc, Option.some.injEq] at hfind
  subst hfind
  rw [hfaulted]
  cases c.table <;> simp [Table.condition, Table.isFaulted]

/-- The faults of a run with this report and this journal, in which the functions of the
nodes were called like this. -/
structure FaultsOf (driver : Driver σ) (report : Report) (journal : List Event)
    (calls : NodeId → List (Call σ)) : Prop where
  /-- a node with a faulted source has the fault of the first one and runs no user code -/
  carried : ∀ id node, driver.pipeline.node? id = some node → ∀ source ∈ node.sources,
    (report.tableOf source).isFaulted = true →
    ∃ first fault,
      node.sources.find? (fun source => (report.tableOf source).isFaulted) = some first ∧
      report.find? first = some (.faulted fault) ∧ report.find? id = some (.faulted fault) ∧
      driver.updateFrom report.tableOf id node
        = (pure (.table (.faulted fault)) : StepM σ Product) ∧
      calls id = [] ∧ ∃ before after, journal = before ++
        [.entered id, .noticed (.computed id node.kind .faulted)] ++ after
  /-- any other node has the fault that it raised itself, if it did -/
  raised : ∀ id node, driver.pipeline.node? id = some node →
    (∀ source ∈ node.sources, (report.tableOf source).isFaulted = false) →
    ∀ fault, report.find? id = some (.faulted fault)
      ↔ driver.Raises report.tableOf (calls id) id node fault
  downstream : ∀ id ancestor, driver.pipeline.DependsOn id ancestor →
    (report.tableOf ancestor).isFaulted = true → (report.tableOf id).isFaulted = true
  upstream : ∀ id node fault, driver.pipeline.node? id = some node →
    report.find? id = some (.faulted fault) →
    ∃ origin raiser, (origin = id ∨ driver.pipeline.DependsOn id origin) ∧
      driver.pipeline.node? origin = some raiser ∧
      (∀ source ∈ raiser.sources, (report.tableOf source).isFaulted = false) ∧
      report.find? origin = some (.faulted fault) ∧
      driver.Raises report.tableOf (calls origin) origin raiser fault
  listed : ∀ id fault, (id, fault) ∈ report.faults ↔ report.find? id = some (.faulted fault)
  ordered : report.faults.Pairwise fun a b => a.1.raw < b.1.raw
  counted : report.stats.faulted = report.faults.length

/-- After any history and in every run that completes, a fault is raised by a node whose
sources have none, as its function gave it, or as the right side of a combine is no single
item. A node with a faulted source carries the fault of the first one, and runs none of
its user code. So every fault was raised in this run by the node or by one that it
depends on, and the report lists and counts all faults. -/
theorem propagation_after {pipeline : Pipeline σ} (hbuiltIn : pipeline.IsBuiltIn)
    (tracksSteps : Bool) (ops : List (Operation σ)) (env : Env σ) :
    let driver := (fresh pipeline tracksSteps).after ops
    ∀ report, (driver.run env).result = .ok report →
      ∃ calls, driver.CallsOf env (driver.run env).journal calls ∧
        driver.FaultsOf report (driver.run env).journal calls := by
  intro driver report hrun
  have hbuiltIn' : driver.pipeline.IsBuiltIn := by
    rw [show driver.pipeline = pipeline from pipeline_after ops]
    exact hbuiltIn
  have hcoherent : driver.Coherent fun _ _ _ => True :=
    coherent_of_history hbuiltIn tracksSteps ops
  obtain ⟨hcompletes, a, calls, notice, hturns, hjournal, -⟩ :=
    turns_of_run hbuiltIn' hcoherent (admits_true driver) hrun
  rw [hjournal]
  have hturn := fun id node hnode => hturns.turn id node hnode (hcompletes.lt_length hnode)
  -- Each turn says when the node has a fault; the report only looks the tables up.
  have hraised : ∀ id node, driver.pipeline.node? id = some node →
      (∀ source ∈ node.sources, (report.tableOf source).isFaulted = false) → ∀ fault,
      report.tableOf id = .faulted fault
        ↔ driver.Raises report.tableOf (calls id) id node fault :=
    fun id node hnode hfaults _ =>
      (hturn id node hnode).eq_faulted_iff hcompletes hcoherent hnode hfaults
  refine ⟨calls, hturns.callsOf hcompletes notice, ?_⟩
  constructor
  · intro id node hnode source hsource hfaulted
    obtain ⟨first, fault, hfirst, hcarried, hfault⟩ :=
      hcompletes.exists_first hnode hsource hfaulted
    refine ⟨first, fault, hfirst, Report.find?_eq_faulted_iff.mpr hcarried,
      Report.find?_eq_faulted_iff.mpr hfault,
      updateFrom_of_isFaulted (hbuiltIn' node (List.mem_of_getElem? hnode)) hfirst hcarried,
      (hturn id node hnode).calls_eq_nil hsource hfaulted, ?_⟩
    obtain ⟨before, after, ha⟩ := (hturn id node hnode).carried source hsource hfaulted
    exact ⟨before, after ++ [.noticed notice], by rw [ha, List.append_assoc]⟩
  · intro id node hnode hfaults fault
    rw [Report.find?_eq_faulted_iff]
    exact hraised id node hnode hfaults fault
  · exact fun id ancestor => hcompletes.isFaulted_of_dependsOn
  · intro id node fault hnode hfault
    rw [Report.find?_eq_faulted_iff] at hfault
    obtain ⟨origin, raiser, hway, horigin, hfaults, hraise⟩ :=
      hcompletes.exists_origin hnode hfault
    exact ⟨origin, raiser, hway, horigin, hfaults, Report.find?_eq_faulted_iff.mpr hraise,
      (hraised origin raiser horigin hfaults fault).mp hraise⟩
  · intro id fault
    rw [hcompletes.mem_faults_iff, Report.find?_eq_faulted_iff]
  · exact hcompletes.faults_eq.2
  · exact hcompletes.length_faults (hturns.outcome_eq_faulted_iff hcompletes hcoherent)

/-- The negation fails for a value that is no truth value. The list and the pairs made of
its values then carry this fault. -/
theorem propagation_after_sample :
    Sample.pipeline.IsBuiltIn ∧ ∃ report calls,
      (Sample.rejecting.run ⟨(), false⟩).result = .ok report ∧
      Sample.rejecting.FaultsOf report (Sample.rejecting.run ⟨(), false⟩).journal calls ∧
      Sample.rejecting.Raises report.tableOf (calls ⟨1⟩) ⟨1⟩ Sample.negation
        ⟨.plain "no truth value", .host 0⟩ ∧
      (⟨3⟩, ⟨.plain "no truth value", .host 0⟩) ∈ report.faults := by
  have hcompletes : (Sample.rejecting.run ⟨(), false⟩).completesWith (fun report =>
      report.find? ⟨1⟩ = some (.faulted ⟨.plain "no truth value", .host 0⟩) ∧
        report.find? ⟨3⟩ = some (.faulted ⟨.plain "no truth value", .host 0⟩) ∧
        (report.tableOf ⟨0⟩).isFaulted = false) = true := by
    decide +kernel
  obtain ⟨report, hrun, htables⟩ := Ran.exists_report hcompletes
  obtain ⟨hraised, hcarried, hinput⟩ := of_decide_eq_true htables
  obtain ⟨calls, -, hfaults⟩ :=
    propagation_after Sample.isBuiltIn false Sample.rejection ⟨(), false⟩ report hrun
  refine ⟨Sample.isBuiltIn, report, calls, hrun, hfaults, ?_, (hfaults.listed _ _).mpr hcarried⟩
  refine (hfaults.raised ⟨1⟩ Sample.negation rfl (fun source hsource => ?_) _).mp hraised
  rw [List.mem_singleton.mp hsource]
  exact hinput

end Driver

end DeltaPipeline
