import DeltaPipeline.Proofs.Drift
import DeltaPipeline.Proofs.OnDemand
import DeltaPipeline.Proofs.Parallel

/-!
# `DeltaPipeline.Proofs.PullOrder`: the order of pulls does not matter

Where functions are pure and comparers do not cancel, the table of a node follows from the
baselines, from what is set on the driver and from the tables of its sources. So each
node has a table that it comes to on its own, and every run gives it that one, whichever
nodes were pulled first.

* `Driver.tableAlone`, `Driver.runAlone`: the table of a node and its update, if the tables
  of its sources are made so.
* `Driver.Repeats`: what is there in a run are these tables.
* `Driver.Coincides`: two runs that made the same tables, with the same calls.
* `Driver.pulls_coincide`: pulls that cover all nodes, in two orders.
-/

set_option autoImplicit false

namespace DeltaPipeline

variable {σ : Type}

/-! ### The calls of one node -/

namespace Event

/-- The arguments that host code of this node was called with, in order. -/
def argumentsOf (id : NodeId) (journal : List Event) : List Value :=
  (calls journal).filterMap fun call => if call.1 = id then some call.2 else none

/-- The arguments in a journal in two parts are those of each, in sequence. -/
@[simp] theorem argumentsOf_append (id : NodeId) (first rest : List Event) :
    argumentsOf id (first ++ rest) = argumentsOf id first ++ argumentsOf id rest := by
  simp [argumentsOf, calls]

/-- The entries of another node's update tell of no call of this one. -/
theorem argumentsOf_of_isWithin {id node : NodeId} {events : List Event}
    (h : ∀ event ∈ events, event.isWithin node = true) (hne : id ≠ node) :
    argumentsOf id events = [] := by
  induction events with
  | nil => rfl
  | cons event events ih =>
    have hevents := ih fun event hmem => h event (by simp [hmem])
    have hevent := h event (by simp)
    have hone : argumentsOf id [event] = [] := by
      cases event with
      | entered other => rfl
      | cancelled other signaller => rfl
      | noticed notice => rfl
      | called other argument =>
        have hother : other = node := of_decide_eq_true hevent
        simp [argumentsOf, calls, hother, hne.symm]
    rw [← List.singleton_append, argumentsOf_append, hone, hevents]
    rfl

/-- Journals that differ in places only hold the same arguments. -/
theorem argumentsOf_eq_of_bare {events events' : List Event}
    (h : events.map bare = events'.map bare) (id : NodeId) :
    argumentsOf id events = argumentsOf id events' := by
  have hbare : ∀ events : List Event, calls (events.map bare) = calls events := by
    intro events
    rw [calls, calls, List.filterMap_map]
    refine List.filterMap_congr fun event _ => ?_
    cases event <;> rfl
  rw [argumentsOf, argumentsOf, ← hbare events, h, hbare events']

end Event

/-! ### Live runs side by side -/

/-- Neither run is cancelled, and since their journals were `before` and `before'` the
update of the node made the same entries in both. -/
structure Ambient.GoesAlong (node : NodeId) (before before' : List Event) (a a' : Ambient σ) :
    Prop where
  live : a.env.cancelled = false
  live' : a'.env.cancelled = false
  entries : ∃ events events', a.journal = before ++ events ∧ a'.journal = before' ++ events' ∧
    events.map Event.bare = events'.map Event.bare ∧ ∀ event ∈ events', event.isWithin node = true

namespace Ambient.GoesAlong

variable {node : NodeId} {before before' : List Event} {a a' : Ambient σ}

/-- Two states that go along still do when both note one event. -/
theorem note {event event' : Event} (h : a.GoesAlong node before before' a')
    (hwithin : event.isWithin node = true) (hevent : event.bare = event'.bare) :
    (a.note event).GoesAlong node before before' (a'.note event') := by
  obtain ⟨events, events', hjournal, hjournal', hbare, hall⟩ := h.entries
  refine ⟨h.live, h.live', events ++ [event], events' ++ [event'], ?_, ?_, ?_, ?_⟩
  · rw [journal_note, hjournal, List.append_assoc]
  · rw [journal_note, hjournal', List.append_assoc]
  · simp [hbare, hevent]
  · have hwithin' : event'.isWithin node = true :=
      (Event.isWithin_of_relabel hevent node).trans hwithin
    intro other hother
    rcases List.mem_append.mp hother with hmem | hmem
    · exact hall other hmem
    · rw [List.mem_singleton.mp hmem]
      exact hwithin'

/-- Two states that go along still do in environments that are not cancelled. -/
theorem withEnv (h : a.GoesAlong node before before' a') {env env' : Env σ}
    (hlive : env.cancelled = false) (hlive' : env'.cancelled = false) :
    ({ a with env } : Ambient σ).GoesAlong node before before' { a' with env := env' } :=
  ⟨hlive, hlive', h.entries⟩

end Ambient.GoesAlong

/-- Pure code answers alike in live runs and leaves them live. -/
theorem UserCode.Gives.perform {code : UserCode σ (Except Fault (List Value))}
    {answer : Except Cause (List Value)} (h : code.Gives answer) (node : NodeId)
    {before before' : List Event} {stops : Stop → Prop} :
    Alike (Ambient.GoesAlong node before before') stops (Fault.Agree Origin.forget)
      (StepM.perform node code) (StepM.perform node code) := by
  intro a a' hR
  obtain ⟨given, after, hrun, hafter, hgiven⟩ := h a.env
  obtain ⟨given', after', hrun', hafter', hgiven'⟩ := h a'.env
  -- The flag stays down, so the journal tells of no cancellation.
  rw [StepM.run_perform, StepM.run_perform, hrun, hrun', StepM.watched_of_spares hafter,
    StepM.watched_of_spares hafter']
  exact .answered (Fault.agree_of_mapError_cause (hgiven.trans hgiven'.symm))
    (hR.withEnv (hafter.trans hR.live) (hafter'.trans hR.live'))

/-- The updates of a node with pure code and a comparer that does not cancel keep live runs
alike. They stop only where the comparer gives up. -/
theorem Pipeline.IsPure.parallel {pipeline : Pipeline σ} (h : pipeline.IsPure) {id : NodeId}
    {node : Node σ} (hnode : pipeline.node? id = some node) {comparer : Comparer σ}
    (hcancels : comparer.NeverCancels) (halike : comparer.PanicsAlike)
    {before before' : List Event} {stops : Stop → Prop}
    (hpanics : ∀ previous current env panic,
      ((comparer.effect previous current).run.run env).1 = .error panic → stops (.panic panic)) :
    Parallel Origin.forget (Ambient.GoesAlong id before before') stops id comparer
      node.role.Calls where
  cancelled_eq := fun _ _ hR => hR.live.trans hR.live'.symm
  stops_of_cancelled := fun _ _ hR hcancelled => absurd hcancelled (by simp [hR.live])
  note := fun _ _ _ _ hwithin hevent hR => hR.note hwithin hevent
  perform := by
    intro code hcalls
    obtain ⟨answer, hgives⟩ := h node (List.mem_of_getElem? hnode) code hcalls
    exact hgives.perform id
  compare := by
    intro previous current a a' hR
    have hspares := hcancels (previous, current)
    have hR' := hR.withEnv ((hspares a.env).trans hR.live) ((hspares a'.env).trans hR.live')
    rw [StepM.run_observeOne, StepM.run_observeOne, StepM.watched_of_spares (hspares a.env),
      StepM.watched_of_spares (hspares a'.env), halike previous current a'.env a.env]
    cases hgiven : ((comparer.effect previous current).run.run a.env).1 with
    | ok => exact .answered trivial hR'
    | error panic => exact .stopped (hpanics previous current a.env panic hgiven) hR'

namespace Driver

variable {driver : Driver σ}

/-! ### Nodes on their own -/

/-- The table that a node comes to when it is updated on its own in this environment, from
the tables that its sources come to. -/
def tableAlone (driver : Driver σ) (env : Env σ) (id : NodeId) : Table Value :=
  match driver.pipeline.node? id with
  | none => .empty
  | some node =>
    let tables (source : NodeId) : Table Value :=
      if source.raw < id.raw then driver.tableAlone env source else .empty
    match ((driver.updateFrom tables id node).run.run { env }).1 with
    | .ok product => product.resolve (driver.baseline id)
    | .error _ => .empty
termination_by id.raw

/-- The update of a node on its own in this environment. -/
def runAlone (driver : Driver σ) (env : Env σ) (id : NodeId) (node : Node σ) :
    Except Stop Product × Ambient σ :=
  (driver.updateFrom (driver.tableAlone env) id node).run.run { env }

/-- A node stops that is updated on its own. -/
def StopsAlone (driver : Driver σ) (env : Env σ) : Prop :=
  ∃ id node stop a, driver.pipeline.node? id = some node ∧
    driver.runAlone env id node = (.error stop, a)

/-- A node is computed from the tables of its sources alone. -/
theorem updateFrom_congr {tables tables' : NodeId → Table Value} {id : NodeId} {node : Node σ}
    (h : ∀ source ∈ node.sources, tables source = tables' source) :
    driver.updateFrom tables id node = driver.updateFrom tables' id node := by
  unfold updateFrom
  cases hrole : node.role with
  | input => rfl
  | transform source function =>
    dsimp only
    rw [h source (Node.mem_sources_of_transform hrole)]
  | batch source function =>
    dsimp only
    rw [h source (Node.mem_sources_of_batch hrole)]
  | combine left right =>
    dsimp only
    rw [h left (Node.left_mem_sources hrole), h right (Node.right_mem_sources hrole)]
  | custom name turns program => rfl

/-- The table of a node on its own is what its update on its own gives. -/
theorem tableAlone_eq {env : Env σ} {id : NodeId} {node : Node σ} {product : Product}
    {a : Ambient σ} (hnode : driver.pipeline.node? id = some node)
    (hrun : driver.runAlone env id node = (.ok product, a)) :
    driver.tableAlone env id = product.resolve (driver.baseline id) := by
  have hsources : ∀ source ∈ node.sources,
      (if source.raw < id.raw then driver.tableAlone env source else .empty)
        = driver.tableAlone env source := by
    intro source hsource
    rw [if_pos (driver.pipeline.sources_lt id.raw node hnode source hsource)]
  rw [tableAlone, hnode]
  dsimp only
  rw [updateFrom_congr hsources]
  rw [runAlone] at hrun
  rw [hrun]

/-- The comparers in effect do not cancel the run. -/
def NeverCancels (driver : Driver σ) : Prop :=
  ∀ id node, driver.pipeline.node? id = some node → (driver.comparer id node).NeverCancels

/-- The comparers in effect do not give up. -/
def NeverPanics (driver : Driver σ) : Prop :=
  ∀ id node, driver.pipeline.node? id = some node → (driver.comparer id node).NeverPanics

/-- Whether a comparer in effect gives up depends on the values that it compares alone. -/
def PanicsAlike (driver : Driver σ) : Prop :=
  ∀ id node, driver.pipeline.node? id = some node → (driver.comparer id node).PanicsAlike

/-- No node stops on its own whose comparer does not give up. -/
theorem NeverPanics.not_stopsAlone (hpanics : driver.NeverPanics)
    (hbuiltIn : driver.pipeline.IsBuiltIn) (hpure : driver.pipeline.IsPure)
    (hcancels : driver.NeverCancels) {env : Env σ} (hlive : env.cancelled = false) :
    ¬driver.StopsAlone env := by
  rintro ⟨id, node, stop, a, hnode, hrun⟩
  have hnone : ∀ previous current env panic,
      (((driver.comparer id node).effect previous current).run.run env).1 = .error panic →
        False := by
    intro previous current env panic hpanic
    rw [hpanics id node hnode previous current env] at hpanic
    cases hpanic
  have hparallel : Parallel Origin.forget (Ambient.GoesAlong id [] []) (fun _ => False) id
      (driver.comparer id node) node.role.Calls :=
    hpure.parallel hnode (hcancels id node hnode) (hpanics id node hnode).panicsAlike hnone
  have hsame : ∀ source ∈ node.sources,
      (driver.tableAlone env source).bare = (driver.tableAlone env source).bare :=
    fun _ _ => rfl
  have hstart : ({ env } : Ambient σ).GoesAlong id [] [] { env } :=
    ⟨hlive, hlive, [], [], rfl, rfl, rfl, by simp⟩
  have hends := alike_updateFrom hnode (hbuiltIn node (List.mem_of_getElem? hnode)) hparallel
    hsame _ _ hstart
  rw [runAlone] at hrun
  rw [hrun] at hends
  cases hends with
  | stopped hstop _ => exact hstop

/-! ### Runs repeat what nodes come to on their own -/

/-- The computation is that of its node on its own, with these calls. -/
def MadeAlone (driver : Driver σ) (env : Env σ) (c : Computed) (arguments : List Value) : Prop :=
  ∃ node product a, driver.pipeline.node? c.node = some node ∧
    driver.runAlone env c.node node = (.ok product, a) ∧
    c.table.bare = (product.resolve (driver.baseline c.node)).bare ∧
    c.outcome = product.outcome ∧ arguments = Event.argumentsOf c.node a.journal

/-- What is there in a run is what its nodes come to on their own, and each node with a
table was called as on its own, the others not at all. -/
structure Repeats (driver : Driver σ) (env : Env σ) (s : Scratch σ) : Prop where
  live : s.ambient.env.cancelled = false
  nodup : (s.computed.map Computed.node).Nodup
  made : ∀ c ∈ s.computed,
    driver.MadeAlone env c (Event.argumentsOf c.node s.ambient.journal)
  uncalled : ∀ id, s.find? id = none → Event.argumentsOf id s.ambient.journal = []

namespace Repeats

variable {env : Env σ} {s : Scratch σ}

/-- The tables that are there are those of the nodes on their own. -/
theorem tableOf_bare (h : driver.Repeats env s) {id : NodeId}
    (hfind : (s.find? id).isSome = true) :
    (driver.tableAlone env id).bare = (Computed.tableOf s.computed id).bare := by
  obtain ⟨c, hc⟩ := Option.isSome_iff_exists.mp hfind
  obtain ⟨hmem, rfl⟩ := Scratch.mem_of_find? hc
  obtain ⟨node, product, a, hnode, hrun, htable, -, -⟩ := h.made c hmem
  rw [Scratch.tableOf_of_find? hc, tableAlone_eq hnode hrun, htable]

/-- Only nodes of the pipeline are computed. -/
theorem exists_node (h : driver.Repeats env s) {c : Computed} (hc : c ∈ s.computed) :
    ∃ node, driver.pipeline.node? c.node = some node := by
  obtain ⟨node, product, a, hnode, -⟩ := h.made c hc
  exact ⟨node, hnode⟩

/-- A number that is no node's was not computed. -/
theorem find?_eq_none (h : driver.Repeats env s) {id : NodeId}
    (hid : driver.pipeline.contains id = false) : s.find? id = none := by
  cases hc : s.find? id with
  | none => rfl
  | some c =>
    obtain ⟨hmem, rfl⟩ := Scratch.mem_of_find? hc
    rw [(driver.pipeline.contains_iff c.node).mpr (h.exists_node hmem)] at hid
    cases hid

/-- Where all nodes were computed, none stops on its own. -/
theorem not_stopsAlone (h : driver.Repeats env s)
    (hall : ∀ id, driver.pipeline.contains id = true → (s.find? id).isSome = true) :
    ¬driver.StopsAlone env := by
  rintro ⟨id, node, stop, a, hnode, hstop⟩
  obtain ⟨c, hc⟩ := Option.isSome_iff_exists.mp
    (hall id ((driver.pipeline.contains_iff id).mpr ⟨node, hnode⟩))
  obtain ⟨hmem, rfl⟩ := Scratch.mem_of_find? hc
  obtain ⟨node', product, b, hnode', hok, -⟩ := h.made c hmem
  rw [hnode, Option.some.injEq] at hnode'
  subst hnode'
  rw [hstop] at hok
  cases hok

/-- Each computation is that of a node, so each has a step. -/
theorem map_node_steps (h : driver.Repeats env s) :
    (s.computed.filterMap driver.stepOf?).map Report.Step.node
      = s.computed.map Computed.node := by
  rw [List.map_filterMap, ← List.filterMap_eq_map]
  refine List.filterMap_congr fun c hc => ?_
  obtain ⟨node, hnode⟩ := h.exists_node hc
  simp [stepOf?, Pipeline.kind?, hnode]

/-- The next node is computed as on its own. -/
theorem add (h : driver.Repeats env s) {id : NodeId} {node : Node σ} {product product' : Product}
    {a b : Ambient σ} (hnode : driver.pipeline.node? id = some node) (hnew : s.find? id = none)
    (hrun : driver.runAlone env id node = (.ok product, a))
    (hproduct : product.bare = product'.bare) (hR : a.GoesAlong id [] s.ambient.journal b) :
    driver.Repeats env ({ s with ambient := settled id node product' b }.add
      (driver.computation id product' s.ended.length)) := by
  -- What the update adds to the journal is of this node, so the others keep their arguments.
  obtain ⟨events, events', hjournal, hjournal', hbare, hwithin⟩ := hR.entries
  have harguments : ∀ other, Event.argumentsOf other (settled id node product' b).journal
      = Event.argumentsOf other s.ambient.journal ++ Event.argumentsOf other events' := by
    intro other
    rw [settled, Ambient.journal_note, hjournal', Event.argumentsOf_append,
      Event.argumentsOf_append]
    exact List.append_nil _
  have hothers : ∀ other, other ≠ id → Event.argumentsOf other (settled id node product' b).journal
      = Event.argumentsOf other s.ambient.journal := by
    intro other hne
    rw [harguments, Event.argumentsOf_of_isWithin hwithin hne, List.append_nil]
  have hcomputed : ({ s with ambient := settled id node product' b }.add
      (driver.computation id product' s.ended.length)).computed
        = s.computed ++ [driver.computation id product' s.ended.length] := by
    rw [Scratch.computed_add]
    rfl
  have hnotin : id ∉ s.computed.map Computed.node := by
    rw [← Computed.find?_eq_none_iff, ← s.find?_eq]
    exact hnew
  constructor
  case live => exact hR.live'
  case nodup =>
    rw [hcomputed, List.map_append, List.nodup_append]
    refine ⟨h.nodup, List.nodup_singleton _, ?_⟩
    intro first hfirst last hlast
    rw [List.mem_singleton.mp hlast]
    rintro rfl
    exact hnotin hfirst
  case made =>
    intro c hc
    rw [hcomputed] at hc
    rcases List.mem_append.mp hc with hmem | hmem
    · have hne : c.node ≠ id := by
        rintro rfl
        exact hnotin (List.mem_map_of_mem hmem)
      show driver.MadeAlone env c (Event.argumentsOf c.node (settled id node product' b).journal)
      rw [hothers c.node hne]
      exact h.made c hmem
    · rw [List.mem_singleton.mp hmem]
      refine ⟨node, product, a, hnode, hrun, (Product.relabel_resolve_eq hproduct _).symm,
        (Product.outcome_eq_of_relabel hproduct).symm, ?_⟩
      show Event.argumentsOf id (settled id node product' b).journal = _
      rw [harguments, h.uncalled id hnew, hjournal, List.nil_append, List.nil_append]
      exact (Event.argumentsOf_eq_of_bare hbare id).symm
  case uncalled =>
    intro other hother
    rw [Scratch.find?_add] at hother
    by_cases heq : (driver.computation id product' s.ended.length).node = other
    · rw [if_pos heq] at hother
      cases hother
    · rw [if_neg heq] at hother
      show Event.argumentsOf other (settled id node product' b).journal = []
      rw [hothers other (Ne.symm heq)]
      exact h.uncalled other hother

end Repeats

/-- The updates of a run give each node what it comes to on its own, unless there is a node
that stops on its own. -/
theorem sustains_repeats (hbuiltIn : driver.pipeline.IsBuiltIn) (hpure : driver.pipeline.IsPure)
    (hcancels : driver.NeverCancels) (hpanics : driver.PanicsAlike) {env : Env σ}
    (hlive : env.cancelled = false) :
    driver.Sustains (driver.Repeats env) fun _ => driver.StopsAlone env where
  check := fun s hs hcancelled => absurd hcancelled (by simp [hs.live])
  enter := by
    intro s id hs
    have hsame : ∀ other, Event.argumentsOf other (s.ambient.note (.entered id)).journal
        = Event.argumentsOf other s.ambient.journal := by
      intro other
      rw [Ambient.journal_note, Event.argumentsOf_append]
      exact List.append_nil _
    refine ⟨hs.live, hs.nodup, fun c hc => ?_, fun other hother => ?_⟩
    · show driver.MadeAlone env c (Event.argumentsOf c.node (s.ambient.note _).journal)
      rw [hsame]
      exact hs.made c hc
    · exact (hsame other).trans (hs.uncalled other hother)
  update := by
    intro s id node hs hnode hnew hsources
    -- The update goes along with the one that the node makes on its own.
    have hparallel : Parallel Origin.forget (Ambient.GoesAlong id [] s.ambient.journal)
        (fun _ => True) id (driver.comparer id node) node.role.Calls :=
      hpure.parallel hnode (hcancels id node hnode) (hpanics id node hnode)
        fun _ _ _ _ _ => trivial
    have hstart : ({ env } : Ambient σ).GoesAlong id [] s.ambient.journal s.ambient :=
      ⟨hlive, hs.live, [], [], rfl, (List.append_nil _).symm, rfl, by simp⟩
    have halike := alike_updateFrom hnode (hbuiltIn node (List.mem_of_getElem? hnode)) hparallel
      fun source hsource => hs.tableOf_bare (hsources source hsource)
    unfold Ensures
    rcases halike.cases hstart with ⟨product, product', a, b, hrun, hrun', hproduct, hR⟩ |
      ⟨stop, a, b, hrun, hrun', -, -⟩
    · rw [hrun']
      exact hs.add hnode hnew hrun hproduct hR
    · rw [hrun']
      exact ⟨id, node, stop, a, hnode, hrun⟩

/-- A run has made nothing when it starts. -/
theorem repeats_start (driver : Driver σ) {env env' : Env σ} (hlive : env'.cancelled = false) :
    driver.Repeats env (driver.start env') where
  live := hlive
  nodup := List.nodup_nil
  made := fun _ hc => absurd hc List.not_mem_nil
  uncalled := fun _ _ => rfl

/-! ### Pulls in two orders -/

end Driver

/-- The computation without its number and the raising of a fault. -/
def Computed.gist (computed : Computed) : Computed :=
  { computed.bare with serial := 0 }

/-- The stats read no more than the gist. -/
theorem Report.Stats.ofComputed_map_gist (computed : List Computed) :
    Report.Stats.ofComputed (computed.map Computed.gist) = Report.Stats.ofComputed computed := by
  simp only [ofComputed, List.countP_map]
  rfl

namespace Driver

/-- The steps read no more than the gist. -/
theorem filterMap_stepOf?_map_gist (driver : Driver σ) (computed : List Computed) :
    (computed.map Computed.gist).filterMap driver.stepOf?
      = computed.filterMap driver.stepOf? := by
  rw [List.filterMap_map]
  refine List.filterMap_congr fun c _ => ?_
  simp [stepOf?, Computed.gist, Computed.relabel]

variable {driver : Driver σ} {env : Env σ} {s s' : Scratch σ}

/-- In both runs every node has the same table with the same outcome, but for the raising of
faults, and its function was called with the same arguments in the same order. The
statistics are the same, and the steps are in another order at most. -/
structure Coincides (driver : Driver σ) (s s' : Scratch σ) : Prop where
  tables : ∀ id, driver.pipeline.contains id = true → ∃ c c', s.find? id = some c ∧
    s'.find? id = some c' ∧ c.table.bare = c'.table.bare ∧ c.outcome = c'.outcome
  arguments : ∀ id, Event.argumentsOf id s.ambient.journal = Event.argumentsOf id s'.ambient.journal
  stats : Report.Stats.ofComputed s.computed = Report.Stats.ofComputed s'.computed
  steps : (s.computed.filterMap driver.stepOf?).Perm (s'.computed.filterMap driver.stepOf?)

/-- What a node comes to on its own is one computation, with one list of calls. -/
theorem MadeAlone.unique {c c' : Computed} {arguments arguments' : List Value}
    (h : driver.MadeAlone env c arguments) (h' : driver.MadeAlone env c' arguments')
    (hsame : c.node = c'.node) : c.gist = c'.gist ∧ arguments = arguments' := by
  obtain ⟨node, product, a, hnode, hrun, htable, houtcome, rfl⟩ := h
  obtain ⟨node', product', a', hnode', hrun', htable', houtcome', rfl⟩ := h'
  rw [hsame, hnode', Option.some.injEq] at hnode
  subst hnode
  rw [hsame, hrun', Prod.mk.injEq] at hrun
  obtain ⟨hproduct, rfl⟩ := hrun
  cases hproduct
  rw [hsame]
  refine ⟨?_, rfl⟩
  simp only [Computed.gist, Computed.relabel, hsame, houtcome, houtcome', htable, htable']

/-- What was computed in one run was computed in another that has all nodes. -/
theorem Repeats.mem_map_gist (h : driver.Repeats env s) (h' : driver.Repeats env s')
    (hall : ∀ id, driver.pipeline.contains id = true → (s'.find? id).isSome = true) :
    ∀ c ∈ s.computed, c.gist ∈ s'.computed.map Computed.gist := by
  intro c hc
  have hcontains := (driver.pipeline.contains_iff c.node).mpr (h.exists_node hc)
  obtain ⟨c', hc'⟩ := Option.isSome_iff_exists.mp (hall c.node hcontains)
  obtain ⟨hmem, hsame⟩ := Scratch.mem_of_find? hc'
  rw [((h.made c hc).unique (h'.made c' hmem) hsame.symm).1]
  exact List.mem_map_of_mem hmem

/-- No gist occurs twice where each node is computed once. -/
theorem Repeats.nodup_map_gist (h : driver.Repeats env s) :
    (s.computed.map Computed.gist).Nodup := by
  refine List.Nodup.of_map Computed.node ?_
  rw [List.map_map]
  exact h.nodup

/-- Two runs that have all nodes, each as on its own, coincide. -/
theorem Repeats.coincides (h : driver.Repeats env s) (h' : driver.Repeats env s')
    (hall : ∀ id, driver.pipeline.contains id = true → (s.find? id).isSome = true)
    (hall' : ∀ id, driver.pipeline.contains id = true → (s'.find? id).isSome = true) :
    driver.Coincides s s' := by
  -- No computation occurs twice, so it is enough that the runs have the same ones.
  have hperm : (s.computed.map Computed.gist).Perm (s'.computed.map Computed.gist) := by
    rw [List.perm_ext_iff_of_nodup h.nodup_map_gist h'.nodup_map_gist]
    intro c
    constructor
    · intro hc
      obtain ⟨d, hd, rfl⟩ := List.mem_map.mp hc
      exact h.mem_map_gist h' hall' d hd
    · intro hc
      obtain ⟨d, hd, rfl⟩ := List.mem_map.mp hc
      exact h'.mem_map_gist h hall d hd
  have hfound : ∀ id, driver.pipeline.contains id = true → ∃ c c', s.find? id = some c ∧
      s'.find? id = some c' ∧ c.gist = c'.gist ∧
      Event.argumentsOf id s.ambient.journal = Event.argumentsOf id s'.ambient.journal := by
    intro id hid
    obtain ⟨c, hc⟩ := Option.isSome_iff_exists.mp (hall id hid)
    obtain ⟨c', hc'⟩ := Option.isSome_iff_exists.mp (hall' id hid)
    obtain ⟨hmem, rfl⟩ := Scratch.mem_of_find? hc
    obtain ⟨hmem', hsame⟩ := Scratch.mem_of_find? hc'
    have hmade' := h'.made c' hmem'
    rw [hsame] at hmade'
    obtain ⟨hgist, harguments⟩ := (h.made c hmem).unique hmade' hsame.symm
    exact ⟨c, c', hc, hc', hgist, harguments⟩
  constructor
  case tables =>
    intro id hid
    obtain ⟨c, c', hc, hc', hgist, -⟩ := hfound id hid
    have htable : c.gist.table = c'.gist.table := by rw [hgist]
    have houtcome : c.gist.outcome = c'.gist.outcome := by rw [hgist]
    exact ⟨c, c', hc, hc', htable, houtcome⟩
  case arguments =>
    intro id
    cases hid : driver.pipeline.contains id with
    | true =>
      obtain ⟨c, c', hc, hc', hgist, harguments⟩ := hfound id hid
      exact harguments
    | false => rw [h.uncalled id (h.find?_eq_none hid), h'.uncalled id (h'.find?_eq_none hid)]
  case stats =>
    rw [← Report.Stats.ofComputed_map_gist s.computed,
      ← Report.Stats.ofComputed_map_gist s'.computed]
    simp only [Report.Stats.ofComputed, hperm.countP_eq]
  case steps =>
    rw [← filterMap_stepOf?_map_gist driver s.computed,
      ← filterMap_stepOf?_map_gist driver s'.computed]
    exact hperm.filterMap _

/-- Where all nodes of the pipeline were pulled, all are there. -/
theorem isSome_of_answers {order : List NodeId} {answers : List Computed}
    (hcover : ∀ id, id ∈ order ↔ driver.pipeline.contains id = true)
    (hanswers : order.map s.find? = answers.map some) :
    ∀ id, driver.pipeline.contains id = true → (s.find? id).isSome = true := by
  intro id hid
  have hmem : s.find? id ∈ order.map s.find? := List.mem_map_of_mem ((hcover id).mpr hid)
  rw [hanswers] at hmem
  obtain ⟨c, -, hc⟩ := List.mem_map.mp hmem
  rw [← hc]
  rfl

/-- In a run the nodes end in order of declaration. -/
theorem nodes_of_visitAll (hbuiltIn : driver.pipeline.IsBuiltIn)
    (hrun : (driver.visitAll driver.pipeline.ids).run.run (driver.start env) = (.ok (), s)) :
    s.computed.map Computed.node = driver.pipeline.ids := by
  have hall := @ensures_visitAll σ driver hbuiltIn (fun _ _ => True) (fun _ _ _ => True) env trivial
    fun _ _ _ _ _ _ => Ensures.intro (fun _ _ _ => trivial) fun _ _ _ => trivial
  exact (hall.of_ok hrun).1

/-- Two orders in which all nodes are pulled, each at least once, give every node the same
table, outcome and calls, and the same statistics and steps, and every pull of a node gives
the table that the node has in the end. If one order completes so does the other, as long as a
comparer gives up on the same values always or not at all, and both complete if none does. A
run pulls the nodes in order of declaration, and then they also end in this order. -/
theorem pulls_coincide (hbuiltIn : driver.pipeline.IsBuiltIn) (hpure : driver.pipeline.IsPure)
    (hcancels : driver.NeverCancels) (hpanics : driver.PanicsAlike) {order order' : List NodeId}
    (hcover : ∀ id, id ∈ order ↔ driver.pipeline.contains id = true)
    (hcover' : ∀ id, id ∈ order' ↔ driver.pipeline.contains id = true) {env env' : Env σ}
    (hlive : env.cancelled = false) (hlive' : env'.cancelled = false) :
    (driver.NeverPanics → ∃ answers s,
        (driver.pullAll order).run.run (driver.start env) = (.ok answers, s)) ∧
      ∀ answers s, (driver.pullAll order).run.run (driver.start env) = (.ok answers, s) →
        order.map s.find? = answers.map some ∧
        (∃ answers' s', (driver.pullAll order').run.run (driver.start env') = (.ok answers', s') ∧
          driver.Coincides s s') ∧
        (order = driver.pipeline.ids → driver.run env = driver.completed s ∧
          (s.computed.filterMap driver.stepOf?).map Report.Step.node = driver.pipeline.ids) := by
  -- Both runs repeat what the nodes come to on their own in the first environment.
  have hsustains := sustains_repeats hbuiltIn hpure hcancels hpanics hlive
  have hpulls := hsustains.ensures_pullAll hbuiltIn (fun id hid => (hcover id).mp hid)
    (repeats_start driver hlive)
  have hpulls' := hsustains.ensures_pullAll hbuiltIn (fun id hid => (hcover' id).mp hid)
    (repeats_start driver hlive')
  constructor
  · intro hnever
    have hstops := hnever.not_stopsAlone hbuiltIn hpure hcancels hlive
    cases hrun : (driver.pullAll order).run.run (driver.start env) with
    | mk result s =>
      cases result with
      | ok answers => exact ⟨answers, s, rfl⟩
      | error stop => exact absurd (hpulls.of_error hrun) hstops
  · intro answers s hrun
    obtain ⟨hs, -, hanswers⟩ := hpulls.of_ok hrun
    have hall := isSome_of_answers hcover hanswers
    refine ⟨hanswers, ?_, ?_⟩
    · cases hrun' : (driver.pullAll order').run.run (driver.start env') with
      | mk result s' =>
        cases result with
        | error stop => exact absurd (hpulls'.of_error hrun') (hs.not_stopsAlone hall)
        | ok answers' =>
          obtain ⟨hs', -, hanswers'⟩ := hpulls'.of_ok hrun'
          exact ⟨answers', s', rfl, hs.coincides hs' hall (isSome_of_answers hcover' hanswers')⟩
    · intro hids
      rw [hids] at hrun
      have hvisit := run_visitAll_of_pullAll hrun
      have hcompleted : driver.run env = driver.completed s := by
        unfold run
        rw [hvisit]
        rfl
      exact ⟨hcompleted, hs.map_node_steps.trans (nodes_of_visitAll hbuiltIn hvisit)⟩

/-- In the small pipeline the comparers set and declared do not cancel or give up. -/
theorem neverCancels_sample : Sample.prepared.NeverCancels ∧ Sample.prepared.NeverPanics := by
  have hcomparer : ∀ id node, Sample.pipeline.node? id = some node →
      Sample.prepared.comparer id node = Comparer.structural := by
    intro id node hnode
    have hmem := List.mem_of_getElem? hnode
    simp only [Sample.pipeline, List.mem_cons, List.not_mem_nil, or_false] at hmem
    rcases hmem with rfl | rfl | rfl | rfl <;> rfl
  constructor
  · intro id node hnode
    rw [hcomparer id node hnode]
    exact Comparer.structural_quiet.neverCancels
  · intro id node hnode
    rw [hcomparer id node hnode]
    exact Comparer.structural_quiet.neverPanics

/-- The nodes of the small pipeline give the same if they are pulled from the end on and if
they are pulled in order of declaration. -/
theorem pulls_coincide_sample :
    Sample.pipeline.IsBuiltIn ∧ Sample.pipeline.IsPure ∧ Sample.prepared.NeverCancels ∧
      Sample.prepared.PanicsAlike ∧ ∃ answers s answers' s',
        (Sample.prepared.pullAll [⟨3⟩, ⟨1⟩, ⟨3⟩, ⟨0⟩, ⟨2⟩]).run.run
          (Sample.prepared.start ⟨(), false⟩) = (.ok answers, s) ∧
        (Sample.prepared.pullAll Sample.pipeline.ids).run.run
          (Sample.prepared.start ⟨(), false⟩) = (.ok answers', s') ∧
        Sample.prepared.Coincides s s' := by
  have hcover : ∀ id, id ∈ [(⟨3⟩ : NodeId), ⟨1⟩, ⟨3⟩, ⟨0⟩, ⟨2⟩] ↔
      Sample.prepared.pipeline.contains id = true := by
    intro id
    rw [← Pipeline.mem_ids]
    show _ ↔ id ∈ [(⟨0⟩ : NodeId), ⟨1⟩, ⟨2⟩, ⟨3⟩]
    simp only [List.mem_cons, List.not_mem_nil, or_false]
    tauto
  have hlive : (⟨(), false⟩ : Env Unit).cancelled = false := rfl
  have hpanics : Sample.prepared.PanicsAlike := fun id node hnode =>
    (neverCancels_sample.2 id node hnode).panicsAlike
  obtain ⟨hcompletes, hcoincides⟩ := pulls_coincide Sample.isBuiltIn Sample.isPure
    neverCancels_sample.1 hpanics hcover (Pipeline.mem_ids _) hlive hlive
  obtain ⟨answers, s, hrun⟩ := hcompletes neverCancels_sample.2
  obtain ⟨-, ⟨answers', s', hrun', hsame⟩, -⟩ := hcoincides answers s hrun
  exact ⟨Sample.isBuiltIn, Sample.isPure, neverCancels_sample.1, hpanics, answers, s, answers',
    s', hrun, hrun', hsame⟩

end Driver

end DeltaPipeline
