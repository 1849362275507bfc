import DeltaPipeline.Proofs.Baselines
import DeltaPipeline.Proofs.Positions
import DeltaPipeline.Proofs.Turns
import Mathlib.Logic.Relation

/-!
# `DeltaPipeline.Proofs.Reuse`: which nodes keep their baselines

A node whose sources are as they were keeps its baseline if there is something in it.
The update of a node looks at its sources alone, but what it finds there goes back to the
inputs: a node is reused exactly if its baseline holds something and all inputs that it
depends on are reused. An input is reused if its values were accepted in place of those
before.

* `Pipeline.DependsOn`: a node draws on another one, directly or through others.
* `Driver.Completes.isCompacted_iff_of_input`, `Driver.Completes.isCompacted_iff_of_dependsOn`:
  which nodes are reused.
* `Driver.reuse_after`: reuse in every run of every history, and in the run after it.
-/

set_option autoImplicit false

namespace DeltaPipeline

variable {σ : Type}

/-! ### Dependencies -/

namespace Pipeline

variable {pipeline : Pipeline σ}

/-- The node names the other one as a source. -/
def DrawsOn (pipeline : Pipeline σ) (id source : NodeId) : Prop :=
  ∃ node, pipeline.node? id = some node ∧ source ∈ node.sources

/-- The node draws on the other one, directly or through others. -/
def DependsOn (pipeline : Pipeline σ) : NodeId → NodeId → Prop :=
  Relation.TransGen pipeline.DrawsOn

/-- A node depends on its sources. -/
theorem DependsOn.of_source {id source : NodeId} {node : Node σ}
    (hnode : pipeline.node? id = some node) (hsource : source ∈ node.sources) :
    pipeline.DependsOn id source :=
  .single ⟨node, hnode, hsource⟩

/-- A node depends on what its sources depend on. -/
theorem DependsOn.through {id source ancestor : NodeId} {node : Node σ}
    (hnode : pipeline.node? id = some node) (hsource : source ∈ node.sources)
    (h : pipeline.DependsOn source ancestor) : pipeline.DependsOn id ancestor :=
  .head ⟨node, hnode, hsource⟩ h

/-- What a node depends on is one of its sources, or one of them depends on it. -/
theorem DependsOn.cases {id ancestor : NodeId} {node : Node σ}
    (h : pipeline.DependsOn id ancestor) (hnode : pipeline.node? id = some node) :
    ∃ source ∈ node.sources, source = ancestor ∨ pipeline.DependsOn source ancestor := by
  obtain ⟨source, ⟨node', hnode', hsource⟩, hrest⟩ := Relation.TransGen.head'_iff.mp h
  rw [hnode, Option.some.injEq] at hnode'
  subst hnode'
  exact ⟨source, hsource, (Relation.reflTransGen_iff_eq_or_transGen.mp hrest).imp_left Eq.symm⟩

end Pipeline

/-- Only inputs draw on nothing, among the nodes of the library's own. -/
theorem Node.sources_ne_nil {node : Node σ} (hbuiltIn : node.role.isBuiltIn = true)
    (hrole : node.role ≠ .input) : node.sources ≠ [] := by
  unfold sources
  cases hkind : node.role with
  | input => exact absurd hkind hrole
  | transform source function => simp [Role.sources]
  | batch source function => simp [Role.sources]
  | combine left right => simp [Role.sources]
  | custom name turns program =>
    rw [hkind] at hbuiltIn
    cases hbuiltIn

/-- The condition of a table is compacted exactly if the table is. -/
theorem Table.condition_eq_compacted_iff {table : Table Value} :
    table.condition = .compacted ↔ table.isCompacted = true := by
  cases table <;> simp [Table.condition, Table.isCompacted]

/-- How the table of this node was obtained in the run. -/
def Report.outcome? (report : Report) (id : NodeId) : Option Outcome :=
  (Computed.find? report.computed id).map Computed.outcome

namespace Driver

variable {driver : Driver σ} {accepts : NodeId → Value → Value → Prop} {env : Env σ}
  {tables : NodeId → Table Value} {id : NodeId} {node : Node σ} {product : Product}

/-! ### What a node makes, if it keeps its baseline -/

/-- A node ends its turn with its baseline, which holds something, or with a table of its
own. -/
theorem Makes.cases (h : driver.Makes tables id node product)
    (hfounded : driver.Founded accepts id node) :
    (product = .unchanged ∧ (driver.baseline id).isCompacted = true) ∨
      (∃ groups, product = .table (.populated groups)) ∨
      ∃ fault, product = .table (.faulted fault) := by
  have hcompacted : (driver.baseline id).isEmpty = false →
      (driver.baseline id).isCompacted = true := by
    intro hempty
    obtain ⟨groups, hgroups⟩ := hfounded.isBaseline.exists_kept hempty
    rw [hgroups]
    rfl
  cases h with
  | reused hsources hall hempty => exact .inl ⟨rfl, hcompacted hempty⟩
  | settled hrole hfeeds hwritten hcached hempty => exact .inl ⟨rfl, hcompacted hempty⟩
  | carried source fault hfirst hfault => exact .inr (.inr ⟨fault, rfl⟩)
  | refused left right hrole hfaults hstale hsingle => exact .inr (.inr ⟨_, rfl⟩)
  | failed fault hfeeds hfaults hstale hfailed => exact .inr (.inr ⟨fault, rfl⟩)
  | written hfeeds hfaults hstale hchanged hwritten => exact .inr (.inl ⟨_, rfl⟩)

/-- A node with sources keeps its baseline exactly if there is something in it and no
source changed. -/
theorem Makes.unchanged_iff (h : driver.Makes tables id node product)
    (hsources : node.sources ≠ []) :
    product = .unchanged ↔ (driver.baseline id).isEmpty = false ∧
      ∀ source ∈ node.sources, (tables source).isCompacted = true := by
  -- A node that is not reused is stale, and then there was nothing to keep or something new.
  have hstale : driver.Stale tables id node → ¬ ((driver.baseline id).isEmpty = false ∧
      ∀ source ∈ node.sources, (tables source).isCompacted = true) := by
    rintro hstale ⟨hempty, hcompacted⟩
    rw [hstale hsources hcompacted] at hempty
    cases hempty
  cases h with
  | reused hsources hcompacted hempty => exact ⟨fun _ => ⟨hempty, hcompacted⟩, fun _ => rfl⟩
  | settled hrole hfeeds hwritten hcached hempty =>
    exact absurd (Node.sources_of_role hrole) hsources
  | carried source fault hfirst hfault =>
    refine ⟨nofun, fun h => ?_⟩
    have hcompacted := h.2 source (List.mem_of_find?_eq_some hfirst)
    rw [hfault] at hcompacted
    cases hcompacted
  | refused left right hrole hfaults hold hsingle =>
    exact ⟨nofun, fun h => absurd h (hstale hold)⟩
  | failed fault hfeeds hfaults hold hfailed =>
    exact ⟨nofun, fun h => absurd h (hstale hold)⟩
  | written hfeeds hfaults hold hchanged hwritten =>
    exact ⟨nofun, fun h => absurd h (hstale hold)⟩

/-- An input keeps its baseline exactly if there is something in it and the values set
are accepted in place of its values. -/
theorem Makes.unchanged_iff_of_input (h : driver.Makes tables id node product)
    (hfounded : driver.Founded accepts id node) (hrole : node.role = .input) :
    product = .unchanged ↔ (driver.baseline id).isEmpty = false ∧
      List.Forall₂ (fun old value => (driver.comparer id node).equals old value = true)
        (driver.baseline id).values (driver.valuesOf id) := by
  rw [h.eq_product hfounded hrole]
  exact Input.product_eq_unchanged_iff

/-! ### Which nodes are reused -/

section Completed

variable {computed : List Computed}

/-- The table of a node is its baseline exactly if its update said so. -/
theorem Makes.isCompacted_iff (h : driver.Makes tables id node product)
    (hfounded : driver.Founded accepts id node) :
    (product.resolve (driver.baseline id)).isCompacted = true ↔ product = .unchanged := by
  rcases h.cases hfounded with ⟨rfl, hcompacted⟩ | ⟨groups, rfl⟩ | ⟨fault, rfl⟩
  · exact ⟨fun _ => rfl, fun _ => hcompacted⟩
  · exact ⟨nofun, nofun⟩
  · exact ⟨nofun, nofun⟩

/-- A node with sources is reused exactly if its baseline holds something and its sources
are reused. -/
theorem Completes.isCompacted_iff (h : driver.Completes accepts computed)
    (hcoherent : driver.Coherent accepts) (hnode : driver.pipeline.node? id = some node)
    (hsources : node.sources ≠ []) :
    (Computed.tableOf computed id).isCompacted = true ↔
      (driver.baseline id).isEmpty = false ∧
        ∀ source ∈ node.sources, (Computed.tableOf computed source).isCompacted = true := by
  obtain ⟨product, hmakes, htable⟩ := (h.computes id node hnode).makes
  rw [htable, hmakes.isCompacted_iff (hcoherent id node hnode), hmakes.unchanged_iff hsources]

/-- An input is reused exactly if its baseline holds something and the values set are
accepted in place of its values. -/
theorem Completes.isCompacted_iff_of_input (h : driver.Completes accepts computed)
    (hcoherent : driver.Coherent accepts) (hnode : driver.pipeline.node? id = some node)
    (hrole : node.role = .input) :
    (Computed.tableOf computed id).isCompacted = true ↔
      (driver.baseline id).isEmpty = false ∧
        List.Forall₂ (fun old value => (driver.comparer id node).equals old value = true)
          (driver.baseline id).values (driver.valuesOf id) := by
  obtain ⟨product, hmakes, htable⟩ := (h.computes id node hnode).makes
  have hfounded := hcoherent id node hnode
  rw [htable, hmakes.isCompacted_iff hfounded, hmakes.unchanged_iff_of_input hfounded hrole]

/-- Where the baseline of a node holds something, those of its sources do. -/
theorem Founded.isEmpty_source (h : driver.Founded accepts id node)
    (hempty : (driver.baseline id).isEmpty = false) :
    ∀ source ∈ node.sources, (driver.baseline source).isEmpty = false := by
  cases h with
  | fresh hfresh =>
    rw [hfresh] at hempty
    cases hempty
  | kept set groups hkept hclosed hfits => exact hclosed

/-- A node other than an input is reused exactly if its baseline holds something and all
inputs that it depends on are reused. -/
theorem Completes.isCompacted_iff_of_dependsOn (h : driver.Completes accepts computed)
    (hbuiltIn : driver.pipeline.IsBuiltIn) (hcoherent : driver.Coherent accepts)
    (hnode : driver.pipeline.node? id = some node) (hrole : node.role ≠ .input) :
    (Computed.tableOf computed id).isCompacted = true ↔
      (driver.baseline id).isEmpty = false ∧
        ∀ input inputNode, driver.pipeline.DependsOn id input →
          driver.pipeline.node? input = some inputNode → inputNode.role = .input →
          (Computed.tableOf computed input).isCompacted = true := by
  -- The induction is on the number of the node, as its sources have smaller ones.
  induction hraw : id.raw using Nat.strong_induction_on generalizing id node with
  | _ raw ih =>
    subst hraw
    have hsources := Node.sources_ne_nil (hbuiltIn node (List.mem_of_getElem? hnode)) hrole
    rw [h.isCompacted_iff hcoherent hnode hsources]
    refine and_congr_right fun hempty => ⟨fun hall => ?_, fun hinputs source hsource => ?_⟩
    · intro input inputNode hdepends hinput hinputRole
      obtain ⟨source, hsource, rfl | hthrough⟩ := hdepends.cases hnode
      · exact hall source hsource
      · obtain ⟨hlt, before, hbefore⟩ := Pipeline.exists_source hnode hsource
        have hbeforeRole : before.role ≠ .input := by
          intro hother
          obtain ⟨origin, horigin, -⟩ := hthrough.cases hbefore
          rw [Node.sources_of_role hother] at horigin
          cases horigin
        exact ((ih source.raw hlt hbefore hbeforeRole rfl).mp (hall source hsource)).2 input
          inputNode hthrough hinput hinputRole
    · obtain ⟨hlt, before, hbefore⟩ := Pipeline.exists_source hnode hsource
      by_cases hbeforeRole : before.role = .input
      · exact hinputs source before (.of_source hnode hsource) hbefore hbeforeRole
      · refine (ih source.raw hlt hbefore hbeforeRole rfl).mpr ⟨?_, ?_⟩
        · exact (hcoherent id node hnode).isEmpty_source hempty source hsource
        · exact fun input inputNode hthrough =>
            hinputs input inputNode (.through hnode hsource hthrough)

/-- The function of a node that is reused has nothing to be called with. -/
theorem Completes.arguments_eq_nil (h : driver.Completes accepts computed)
    (hcoherent : driver.Coherent accepts) (hnode : driver.pipeline.node? id = some node)
    (hcompacted : (Computed.tableOf computed id).isCompacted = true) :
    driver.arguments (Computed.tableOf computed) id node = [] := by
  refine arguments_of_spares fun source hsources => ?_
  obtain ⟨hempty, hall⟩ :=
    (h.isCompacted_iff hcoherent hnode (by simp [hsources])).mp hcompacted
  simp [spares, hall source (by simp [hsources]), hempty]

/-- The values of an input in a run are those set, or were accepted in their place by its
comparer of this run. -/
theorem Completes.agree_of_input (h : driver.Completes accepts computed)
    (hcoherent : driver.Coherent accepts) (hnode : driver.pipeline.node? id = some node)
    (hrole : node.role = .input) :
    Agree (fun kept current => (driver.comparer id node).equals kept current = true)
      (driver.valuesOf id) (Computed.tableOf computed id).values := by
  obtain ⟨product, hmakes, htable⟩ := (h.computes id node hnode).makes
  have hfounded := hcoherent id node hnode
  rw [htable, hmakes.eq_product hfounded hrole]
  exact (hfounded.holdsSingly hrole).agree

/-! ### Running again -/

/-- If nothing was set anew and no input compares otherwise, the next run reuses what did
not fail. -/
theorem Completes.isCompacted_of_again {later : Driver σ} {computed' : List Computed}
    (h : driver.Completes accepts computed) (hcoherent : driver.Coherent accepts)
    (hagain : later.Completes accepts computed') (hcoherent' : later.Coherent accepts)
    (hbuiltIn : driver.pipeline.IsBuiltIn) (hpipeline : later.pipeline = driver.pipeline)
    (hbaselines : ∀ id node, driver.pipeline.node? id = some node →
      later.baseline id = (Computed.tableOf computed id).asCached)
    (hinputs : ∀ id node, driver.pipeline.node? id = some node → node.role = .input →
      later.valuesOf id = driver.valuesOf id ∧ later.comparer id node = driver.comparer id node ∧
        ∀ value, (driver.comparer id node).equals value value = true)
    (hnode : driver.pipeline.node? id = some node)
    (hfault : (Computed.tableOf computed id).isFaulted = false) :
    (Computed.tableOf computed' id).isCompacted = true := by
  have hkept : ∀ id node, driver.pipeline.node? id = some node →
      (Computed.tableOf computed id).isFaulted = false →
      (later.baseline id).isEmpty = false ∧
        (later.baseline id).values = (Computed.tableOf computed id).values := by
    intro id node hnode hfault
    obtain ⟨hcached, hvalues⟩ := (h.follows hcoherent hnode).asCached hfault
    rw [hbaselines id node hnode, hcached, hvalues, Table.values_kept]
    exact ⟨rfl, rfl⟩
  have hreused : ∀ input inputNode, driver.pipeline.node? input = some inputNode →
      inputNode.role = .input → (Computed.tableOf computed' input).isCompacted = true := by
    intro input inputNode hinput hrole
    obtain ⟨hset, hcomparer, hrefl⟩ := hinputs input inputNode hinput hrole
    have hlive := isFaulted_of_input (hcoherent input inputNode hinput)
      (h.computes input inputNode hinput) hrole
    obtain ⟨hempty, hvalues⟩ := hkept input inputNode hinput hlive
    rw [hagain.isCompacted_iff_of_input hcoherent' (hpipeline ▸ hinput) hrole, hvalues, hset,
      hcomparer]
    -- What is kept is the value set, or was accepted in its place by the same comparer.
    refine ⟨hempty, (h.agree_of_input hcoherent hinput hrole).flip.imp ?_⟩
    rintro kept current (rfl | haccepted)
    · exact hrefl kept
    · exact haccepted
  by_cases hrole : node.role = .input
  · exact hreused id node hnode hrole
  · rw [hagain.isCompacted_iff_of_dependsOn (hpipeline ▸ hbuiltIn) hcoherent'
      (hpipeline ▸ hnode) hrole]
    exact ⟨(hkept id node hnode hfault).1, fun input inputNode _ hinput =>
      hreused input inputNode (hpipeline ▸ hinput)⟩

end Completed

/-- A node that calls nothing has no call in the journal. -/
theorem Turns.not_mem_called {computed : List Computed} {a : Ambient σ}
    {calls : NodeId → List (Call σ)} (h : driver.Turns env computed a calls)
    (hcalls : calls id = []) (argument : Value) : .called id argument ∉ a.journal := by
  intro hmem
  have hlisted : (id, argument) ∈ Event.calls a.journal :=
    List.mem_filterMap.mpr ⟨_, hmem, rfl⟩
  rw [h.listed] at hlisted
  obtain ⟨other, -, hother⟩ := List.mem_flatMap.mp hlisted
  obtain ⟨call, hcall, heq⟩ := List.mem_map.mp hother
  cases heq
  rw [hcalls] at hcall
  cases hcall

/-- Changes other than a reset leave the baselines alone. -/
theorem baselines_after_changes (driver : Driver σ) {changes : List (Change σ)}
    (hchanges : ∀ change ∈ changes, change.isReset = false) :
    (driver.after (changes.map .change)).baselines = driver.baselines := by
  induction changes generalizing driver with
  | nil => rfl
  | cons change changes ih =>
    have hfirst := (act_change driver change).2
    rw [hchanges change List.mem_cons_self] at hfirst
    show ((driver.act (.change change)).after (changes.map .change)).baselines = _
    rw [ih _ fun other hother => hchanges other (List.mem_cons_of_mem _ hother)]
    exact hfirst

/-! ### Reuse in every run -/

/-- The outcome of a node says which form its table has. -/
theorem Turn.outcome_iff {computed : List Computed} {journal : List Event}
    {calls : List (Call σ)} (h : driver.Turn computed journal calls id node)
    (hfounded : driver.Founded accepts id node) :
    ∃ c, Computed.find? computed id = some c ∧
      (c.outcome = .reused → c.table = driver.baseline id) ∧
      (c.outcome = .reused ↔ c.table.condition = .compacted) ∧
      (c.outcome = .executed ↔ c.table.condition = .populated) ∧
      (c.outcome = .faulted ↔ c.table.condition = .faulted) ∧ c.table.condition ≠ .empty := by
  obtain ⟨product, hmakes, hfind⟩ := h.made
  refine ⟨_, hfind, ?_⟩
  rcases hmakes.cases hfounded with ⟨rfl, hcompacted⟩ | ⟨groups, rfl⟩ | ⟨fault, rfl⟩
  · obtain ⟨groups, hgroups⟩ := Table.eq_compacted_of_isCompacted hcompacted
    simp [computation, Product.resolve, Product.outcome, hgroups, Table.condition]
  · simp [computation, Product.resolve, Product.outcome, Table.isFaulted, Table.condition]
  · simp [computation, Product.resolve, Product.outcome, Table.isFaulted, Table.condition]

/-- The outcome of a node is that it was reused exactly if its table is compacted. -/
theorem Turn.reused_iff {computed : List Computed} {journal : List Event}
    {calls : List (Call σ)} (h : driver.Turn computed journal calls id node)
    (hfounded : driver.Founded accepts id node) :
    (Computed.find? computed id).map Computed.outcome = some .reused
      ↔ (Computed.tableOf computed id).isCompacted = true := by
  obtain ⟨c, hfind, -, hreused, -⟩ := h.outcome_iff hfounded
  have htable : Computed.tableOf computed id = c.table := by
    rw [Computed.tableOf, hfind]
    rfl
  rw [htable, ← Table.condition_eq_compacted_iff, hfind, Option.map_some, Option.some.injEq,
    hreused]

/-- An input that a driver remembers left something. -/
theorem Remembers.isEmpty_of_input {latest : Option Report} (h : driver.Remembers latest)
    (hnode : driver.pipeline.node? id = some node) (hrole : node.role = .input)
    {baseline : Table Value} (hbaseline : driver.baseline? id = some baseline) :
    baseline.isEmpty = false := by
  cases latest with
  | none =>
    rw [baseline?, show driver.baselines = [] from h] at hbaseline
    cases hbaseline
  | some report =>
    obtain ⟨table, -, hnonempty, hsome, hinput⟩ := h.2 id node hnode
    rw [hbaseline, Option.some.injEq] at hsome
    rw [hsome]
    have hcached := mt (Table.asCached_eq_empty_iff hnonempty).mp (by simp [hinput hrole])
    cases hcase : table.asCached with
    | empty => exact absurd hcase hcached
    | faulted fault => rfl
    | compacted groups => rfl
    | populated groups => rfl

/-- What holds of the baseline of an input with something in it holds of one that is
there. -/
theorem Remembers.exists_baseline_iff {latest : Option Report} (h : driver.Remembers latest)
    (hnode : driver.pipeline.node? id = some node) (hrole : node.role = .input)
    (holds : Table Value → Prop) :
    ((driver.baseline id).isEmpty = false ∧ holds (driver.baseline id)) ↔
      ∃ baseline, driver.baseline? id = some baseline ∧ holds baseline := by
  cases hsome : driver.baseline? id with
  | none =>
    -- An absent baseline counts as empty.
    have hempty : driver.baseline id = .empty := by
      rw [baseline, hsome]
      rfl
    simp [hempty, Table.isEmpty]
  | some baseline =>
    have hsame : driver.baseline id = baseline := by
      rw [Driver.baseline, hsome]
      rfl
    simp [hsame, h.isEmpty_of_input hnode hrole hsome]

/-- A run that found the baselines of a run before, and the same at the inputs, reuses what
did not fail: it calls no function of such a node and leaves its baseline as it was. -/
theorem reused_of_again {later : Driver σ} {env' : Env σ} {report report' : Report}
    (hbuiltIn : driver.pipeline.IsBuiltIn) (hcoherent : driver.Coherent fun _ _ _ => True)
    (hcoherent' : later.Coherent fun _ _ _ => True)
    (hpipeline : later.pipeline = driver.pipeline)
    (hbaselines : later.baselines = (driver.run env).driver.baselines)
    (hinputs : ∀ id node, driver.pipeline.node? id = some node → node.role = .input →
      later.valuesOf id = driver.valuesOf id ∧ later.comparer id node = driver.comparer id node ∧
        ∀ value, (driver.comparer id node).equals value value = true)
    (hrun : (driver.run env).result = .ok report) (hrun' : (later.run env').result = .ok report')
    (hnode : driver.pipeline.node? id = some node)
    (hfault : (Computed.tableOf report.computed id).isFaulted = false) :
    report'.outcome? id = some .reused ∧
      (∀ argument, .called id argument ∉ (later.run env').journal) ∧
      (later.run env').driver.baseline? id = later.baseline? id := by
  have hbuiltIn' : later.pipeline.IsBuiltIn := hpipeline ▸ hbuiltIn
  have hnode' : later.pipeline.node? id = some node := hpipeline ▸ hnode
  obtain ⟨hcompletes, hnext, -⟩ := completes_of_run hbuiltIn hcoherent (admits_true _) hrun
  obtain ⟨-, hnext', -⟩ := completes_of_run hbuiltIn' hcoherent' (admits_true _) hrun'
  obtain ⟨hagain, a, calls, notice, hturns, hjournal, -⟩ :=
    turns_of_run hbuiltIn' hcoherent' (admits_true _) hrun'
  have hleft : ∀ id node, driver.pipeline.node? id = some node →
      later.baseline? id = some (Computed.tableOf report.computed id).asCached := by
    intro id node hnode
    rw [baseline?, hbaselines, hnext]
    exact hcompletes.baseline?_advance hnode
  have hcompacted : (Computed.tableOf report'.computed id).isCompacted = true := by
    refine hcompletes.isCompacted_of_again hcoherent hagain hcoherent' hbuiltIn hpipeline
      (fun id node hnode => ?_) hinputs hnode hfault
    rw [Driver.baseline, hleft id node hnode]
    rfl
  have hturn := hturns.turn id node hnode' (hagain.lt_length hnode')
  refine ⟨(hturn.reused_iff (hcoherent' id node hnode')).mpr hcompacted, ?_, ?_⟩
  · intro argument
    have hcalls := hturn.called
    rw [hagain.arguments_eq_nil hcoherent' hnode' hcompacted] at hcalls
    rw [hjournal, List.mem_append, not_or]
    exact ⟨hturns.not_mem_called hcalls.eq_nil.1 argument, by simp⟩
  · -- Its table is its baseline, which leaves itself.
    obtain ⟨groups, hgroups⟩ := Table.eq_compacted_of_isCompacted hcompacted
    have hsame := (hagain.follows hcoherent' hnode').eq_of_isCompacted hcompacted
    rw [hgroups, Driver.baseline, hleft id node hnode] at hsame
    rw [hnext', hagain.baseline?_advance hnode', hgroups, hleft id node hnode]
    exact congrArg some hsame

/-- After any history and in every run that completes: a node is reused, and then its
table is its baseline, exactly if the table is compacted, and executed exactly if it is
populated; no table is empty. An input is reused exactly if it has a baseline and the
values set are accepted one by one in place of those there, by the comparer in effect. Any
other node is reused exactly if its baseline holds something and every input that it
depends on is reused.

If such a run is followed by changes that are no resets and leave the values and the
comparers of the inputs as they were, and these accept every value in place of itself, then
a next run that completes reuses every node that did not fail. It does not call the
function of such a node, and leaves its baseline as it was. -/
theorem reuse_after {pipeline : Pipeline σ} (hbuiltIn : pipeline.IsBuiltIn) (tracksSteps : Bool)
    (ops : List (Operation σ)) (env : Env σ) :
    let driver := (fresh pipeline tracksSteps).after ops
    ∀ report, (driver.run env).result = .ok report →
      (∀ id node, pipeline.node? id = some node →
        ∃ table outcome, report.find? id = some table ∧ report.outcome? id = some outcome ∧
          (outcome = .reused → table = driver.baseline id) ∧
          (outcome = .reused ↔ table.condition = .compacted) ∧
          (outcome = .executed ↔ table.condition = .populated) ∧ table.condition ≠ .empty ∧
          (node.role = .input → (outcome = .reused ↔
            ∃ baseline, driver.baseline? id = some baseline ∧
              List.Forall₂ (fun old value => (driver.comparer id node).equals old value = true)
                baseline.values (driver.valuesOf id))) ∧
          (node.role ≠ .input → (outcome = .reused ↔ (driver.baseline id).isEmpty = false ∧
            ∀ input inputNode, pipeline.DependsOn id input →
              pipeline.node? input = some inputNode → inputNode.role = .input →
              report.outcome? input = some .reused))) ∧
      ∀ (changes : List (Change σ)) (env' : Env σ) (report' : Report),
        let later := (driver.run env).driver.after (changes.map .change)
        (∀ change ∈ changes, change.isReset = false) →
        (∀ id node, pipeline.node? id = some node → node.role = .input →
          later.valuesOf id = driver.valuesOf id ∧
            later.comparer id node = driver.comparer id node ∧
            ∀ value, (driver.comparer id node).equals value value = true) →
        (later.run env').result = .ok report' →
        ∀ id node table, pipeline.node? id = some node → report.find? id = some table →
          table.isFaulted = false →
          report'.outcome? id = some .reused ∧
            (∀ argument, .called id argument ∉ (later.run env').journal) ∧
            (later.run env').driver.baseline? id = later.baseline? id := by
  intro driver report hrun
  have hpipeline : driver.pipeline = pipeline := pipeline_after ops
  have hbuiltIn' : driver.pipeline.IsBuiltIn := hpipeline ▸ hbuiltIn
  have hcoherent : driver.Coherent fun _ _ _ => True :=
    coherent_of_history hbuiltIn tracksSteps ops
  have hremembers : driver.Remembers ((fresh pipeline tracksSteps).lastReport none ops) :=
    remembers_after hbuiltIn (coherent_fresh pipeline tracksSteps)
      (show Remembers _ none from rfl) ops
  obtain ⟨hcompletes, a, calls, -, hturns, -⟩ :=
    turns_of_run hbuiltIn' hcoherent (admits_true _) hrun
  rw [← hpipeline]
  constructor
  · have hreused : ∀ id node, driver.pipeline.node? id = some node →
        (report.outcome? id = some .reused
          ↔ (Computed.tableOf report.computed id).isCompacted = true) := fun id node hnode =>
      (hturns.turn id node hnode (hcompletes.lt_length hnode)).reused_iff (hcoherent id node hnode)
    intro id node hnode
    have hfounded := hcoherent id node hnode
    obtain ⟨c, hfind, hbaseline, hcompacted, hpopulated, -, hnonempty⟩ :=
      (hturns.turn id node hnode (hcompletes.lt_length hnode)).outcome_iff hfounded
    have houtcome : report.outcome? id = some c.outcome := congrArg (·.map Computed.outcome) hfind
    have hcases := hreused id node hnode
    rw [houtcome, Option.some.injEq] at hcases
    refine ⟨c.table, c.outcome, congrArg (·.map Computed.table) hfind, houtcome, hbaseline,
      hcompacted, hpopulated, hnonempty, ?_, ?_⟩
    · intro hrole
      rw [hcases, hcompletes.isCompacted_iff_of_input hcoherent hnode hrole]
      exact hremembers.exists_baseline_iff hnode hrole fun baseline =>
        List.Forall₂ _ baseline.values (driver.valuesOf id)
    · intro hrole
      rw [hcases, hcompletes.isCompacted_iff_of_dependsOn hbuiltIn' hcoherent hnode hrole]
      refine and_congr_right fun _ => forall_congr' fun input => forall_congr' fun inputNode => ?_
      refine imp_congr_right fun _ => imp_congr_right fun hinput => imp_congr_right fun _ => ?_
      exact (hreused input inputNode hinput).symm
  · intro changes env' report' later hchanges hinputs hrun' id node table hnode hfind hfault
    -- The driver of the next run is again one that a history led to.
    have hlater : later = (fresh pipeline tracksSteps).after
        (ops ++ .run env :: changes.map .change) := by
      rw [after_append]
      rfl
    have hpipeline' : later.pipeline = driver.pipeline := by
      rw [hlater, pipeline_after, hpipeline]
      rfl
    have hcoherent' : later.Coherent fun _ _ _ => True := by
      rw [hlater]
      exact coherent_of_history hbuiltIn tracksSteps _
    have htable : Computed.tableOf report.computed id = table := by
      rw [Computed.tableOf]
      exact congrArg (·.getD .empty) hfind
    exact reused_of_again hbuiltIn' hcoherent hcoherent' hpipeline'
      (baselines_after_changes _ hchanges) hinputs hrun hrun' hnode (htable ▸ hfault)

/-- The small pipeline is run twice in a row. The second run keeps the negations that the
first one left, although their node has a comparer that accepts nothing. -/
theorem reuse_after_sample :
    Sample.pipeline.IsBuiltIn ∧ ∃ report report',
      (Sample.driver.run ⟨(), false⟩).result = .ok report ∧
      ((Sample.driver.run ⟨(), false⟩).driver.run ⟨(), false⟩).result = .ok report' ∧
      report'.outcome? ⟨1⟩ = some .reused := by
  obtain ⟨report, hrun, hfind⟩ := Sample.exists_report
  have hagain : ((Sample.driver.run ⟨(), false⟩).driver.run ⟨(), false⟩).completesWith
      (fun _ => true) = true := by
    decide +kernel
  obtain ⟨report', hrun', -⟩ := Ran.exists_report hagain
  have h := reuse_after Sample.isBuiltIn false Sample.history ⟨(), false⟩ report hrun
  have hreused := h.2 [] ⟨(), false⟩ report' (by simp) ?_ hrun' ⟨1⟩ Sample.negation _ rfl hfind rfl
  · exact ⟨Sample.isBuiltIn, report, report', hrun, hrun', hreused.1⟩
  · intro id node hnode hrole
    -- The only input is the first node, and it compares by equality.
    obtain ⟨rfl, rfl⟩ : id = ⟨0⟩ ∧ node = ⟨.input, .structural, .value⟩ := by
      match id, hnode with
      | ⟨0⟩, rfl => exact ⟨rfl, rfl⟩
      | ⟨1⟩, rfl => cases hrole
      | ⟨2⟩, rfl => cases hrole
      | ⟨3⟩, rfl => cases hrole
    have hdeclared : Sample.driver.overrides ⟨0⟩ = none :=
      Option.isNone_iff_eq_none.mp (by decide +kernel)
    have hcomparer : Sample.driver.comparer ⟨0⟩ ⟨.input, .structural, .value⟩ = .structural := by
      rw [comparer, hdeclared]
      rfl
    have hsettings := settings_run Sample.driver ⟨(), false⟩ ⟨0⟩ ⟨.input, .structural, .value⟩
    rw [List.map_nil, after_nil, show (fresh Sample.pipeline false).after Sample.history
      = Sample.driver from rfl]
    refine ⟨hsettings.1, hsettings.2, fun value => ?_⟩
    rw [hcomparer]
    simp [Comparer.structural]

end Driver

end DeltaPipeline
