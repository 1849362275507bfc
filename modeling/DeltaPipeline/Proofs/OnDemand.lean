import DeltaPipeline.Proofs.Histories

/-!
# `DeltaPipeline.Proofs.OnDemand`: nodes pulled in any order

A node of the library's own that is not there is computed when it is pulled, after the
sources it draws on. Sources are declared before the nodes that draw on them. So a pull
computes nothing beyond the node itself in order of declaration, and it ends.

* `Scratch.Extends`: what a pull may add to the tables that are there.
* `Driver.Sustains`: what the updates of single nodes keep.
* `Driver.ensures_pull`: pulls keep it, whatever was pulled before.
* `Driver.pullAll`, `Driver.ensures_pullAll`: pulls one after the other.
* `Driver.run_visitAll_of_pullAll`: a run pulls the nodes in order of declaration.
-/

set_option autoImplicit false

namespace DeltaPipeline

variable {σ : Type}

/-! ### Tables that are added -/

namespace Scratch

/-- A node's update has begun. -/
def enter (s : Scratch σ) (id : NodeId) : Scratch σ :=
  { s with ambient := s.ambient.note (.entered id) }

/-- The tables of the first state are there in the second, and no nodes were added that
are declared after `bound`. -/
structure Extends (bound : NodeId) (s t : Scratch σ) : Prop where
  keeps : ∀ id c, s.find? id = some c → t.find? id = some c
  beyond : ∀ id, bound.raw < id.raw → s.find? id = none → t.find? id = none

namespace Extends

variable {bound bound' : NodeId} {s t u : Scratch σ}

/-- Where no table was added, there is nothing to show. -/
theorem of_ended (h : t.ended = s.ended) : Extends bound s t := by
  have hfind : ∀ id, t.find? id = s.find? id := fun id => congrArg (List.find? _) h
  exact ⟨fun id c hc => (hfind id).trans hc, fun id _ hnone => (hfind id).trans hnone⟩

/-- A state that extends twice extends. -/
theorem trans (h : Extends bound s t) (h' : Extends bound t u) : Extends bound s u :=
  ⟨fun id c hc => h'.keeps id c (h.keeps id c hc),
    fun id hlt hnone => h'.beyond id hlt (h.beyond id hlt hnone)⟩

/-- A later bound allows what an earlier one does. -/
theorem mono (h : Extends bound s t) (hle : bound.raw ≤ bound'.raw) : Extends bound' s t :=
  ⟨h.keeps, fun id hlt hnone => h.beyond id (Nat.lt_of_le_of_lt hle hlt) hnone⟩

end Extends

/-- What is added is found for its node, and nothing else changes. -/
theorem find?_add (s : Scratch σ) (last : Computed) (id : NodeId) :
    (s.add last).find? id = if last.node = id then some last else s.find? id := by
  rw [find?_eq, computed_add, Computed.find?_append_singleton, ← find?_eq]

/-- A computation of a node that was not there is added. -/
theorem extends_add (s : Scratch σ) (last : Computed) (h : s.find? last.node = none) :
    Extends last.node s (s.add last) where
  keeps := by
    intro id c hc
    have hne : last.node ≠ id := by
      intro heq
      rw [← heq, h] at hc
      cases hc
    rw [find?_add, if_neg hne, hc]
  beyond := by
    intro id hlt hnone
    have hne : last.node ≠ id := by
      intro heq
      rw [heq] at hlt
      exact Nat.lt_irrefl _ hlt
    rw [find?_add, if_neg hne, hnone]

/-- What is found is one of the computations and of the node asked for. -/
theorem mem_of_find? {s : Scratch σ} {id : NodeId} {c : Computed} (h : s.find? id = some c) :
    c ∈ s.computed ∧ c.node = id := by
  rw [s.find?_eq] at h
  exact ⟨Computed.mem_of_find? h, Computed.node_of_find? h⟩

/-- The table of a node is that of the computation found. -/
theorem tableOf_of_find? {s : Scratch σ} {id : NodeId} {c : Computed}
    (h : s.find? id = some c) : Computed.tableOf s.computed id = c.table := by
  rw [Computed.tableOf, ← s.find?_eq, h]
  rfl

end Scratch

namespace Driver

variable {driver : Driver σ} {holds : Scratch σ → Prop} {stops : Stop → Prop}

/-- The computation of each node keeps `holds`, once the sources of the node are there, or
it stops as `stops` says. So do the entries in the journal that it begins with. -/
structure Sustains (driver : Driver σ) (holds : Scratch σ → Prop) (stops : Stop → Prop) :
    Prop where
  check : ∀ s, holds s → s.ambient.env.cancelled = true → stops (.error .cancelled)
  enter : ∀ s id, holds s → holds (s.enter id)
  update : ∀ s id node, holds s → driver.pipeline.node? id = some node → s.find? id = none →
    (∀ source ∈ node.sources, (s.find? source).isSome = true) →
    Ensures (driver.updateFrom (Computed.tableOf s.computed) id node) s.ambient
      (fun product a => holds ({ s with ambient := settled id node product a }.add
        (driver.computation id product s.ended.length)))
      (fun stop _ => stops stop)

namespace Sustains

/-- A check that is passed leaves the state. -/
theorem ensures_check (h : driver.Sustains holds stops) {s : Scratch σ} (hs : holds s) :
    Ensures (RunM.step StepM.check) s (fun _ t => t = s) (fun stop _ => stops stop) := by
  rw [ensures_step_iff]
  exact DeltaPipeline.ensures_check (h.check s hs) rfl

/-- What is kept when a pull of this node ends with this computation. -/
def Pulled (holds : Scratch σ → Prop) (id : NodeId) (s : Scratch σ) (c : Computed)
    (t : Scratch σ) : Prop :=
  holds t ∧ Scratch.Extends id s t ∧ t.find? id = some c

/-- What is kept when the update of this node ends with this product. -/
def Updated (driver : Driver σ) (holds : Scratch σ → Prop) (id : NodeId) (node : Node σ)
    (s : Scratch σ) (product : Product) (t : Scratch σ) : Prop :=
  t.find? id = none ∧ Scratch.Extends id s t ∧
    holds ({ t with ambient := settled id node product t.ambient }.add
      (driver.computation id product t.ended.length))

/-- Once the sources of a node are there, it is computed from their tables. -/
theorem ensures_updateFrom (h : driver.Sustains holds stops) {id : NodeId} {node : Node σ}
    {s t : Scratch σ} (hnode : driver.pipeline.node? id = some node) (ht : holds t)
    (hextends : Scratch.Extends id s t) (hnew : t.find? id = none)
    (hsources : ∀ source ∈ node.sources, (t.find? source).isSome = true) :
    Ensures (RunM.step (driver.updateFrom (Computed.tableOf t.computed) id node)) t
      (Updated driver holds id node s) (fun stop _ => stops stop) := by
  rw [ensures_step_iff]
  refine (h.update t id node ht hnode hnew hsources).mono ?_ fun _ _ hstop => hstop
  intro product a hnext
  exact ⟨hnew, hextends.trans (.of_ended rfl), hnext⟩

/-- A transform and a batch both pull one source. -/
theorem ensures_single (h : driver.Sustains holds stops) {pull : NodeId → RunM σ Computed}
    {id source : NodeId} {node : Node σ} {s : Scratch σ}
    (make : Site → Table Value → StepM σ Product)
    (hnode : driver.pipeline.node? id = some node) (hsources : node.sources = [source])
    (hmake : ∀ tables, driver.updateFrom tables id node
      = make (driver.site id 0) (tables source))
    (hpull : ∀ s, holds s → Ensures (pull source) s (Pulled holds source s)
      (fun stop _ => stops stop))
    (hs : holds s) (hnew : s.find? id = none) :
    Ensures (do
        RunM.step StepM.check
        let source ← pull source
        RunM.step (make (← driver.currentSite id) source.table)) s
      (Updated driver holds id node s) (fun stop _ => stops stop) := by
  have hbefore : source.raw < id.raw :=
    driver.pipeline.sources_lt id.raw node hnode source (by simp [hsources])
  refine Ensures.bind (h.ensures_check hs) ?_
  rintro _ _ rfl
  refine Ensures.bind (hpull _ hs) ?_
  rintro c t ⟨ht, hextends, hfind⟩
  -- What the source pulled was declared before it, so the node itself is still not there.
  have hnew' := hextends.beyond id hbefore hnew
  have hupdate := h.ensures_updateFrom hnode ht (hextends.mono (Nat.le_of_lt hbefore)) hnew'
    (by simp [hsources, hfind])
  rw [Ensures.bind_iff, ensures_currentSite hnew', ← Scratch.tableOf_of_find? hfind]
  rw [hmake] at hupdate
  exact hupdate

/-- A node's update pulls its sources, and then the node is computed from their tables. -/
theorem ensures_update (h : driver.Sustains holds stops) {pull : NodeId → RunM σ Computed}
    {id : NodeId} {node : Node σ} {s : Scratch σ}
    (hnode : driver.pipeline.node? id = some node) (hbuiltIn : node.role.isBuiltIn = true)
    (hpull : ∀ source ∈ node.sources, ∀ s, holds s →
      Ensures (pull source) s (Pulled holds source s) (fun stop _ => stops stop))
    (hs : holds s) (hnew : s.find? id = none) :
    Ensures (driver.update pull id node) s (Updated driver holds id node s)
      (fun stop _ => stops stop) := by
  unfold Driver.update
  cases hrole : node.role with
  | input =>
    refine Ensures.bind (h.ensures_check hs) ?_
    rintro _ _ rfl
    have hinput := h.ensures_updateFrom hnode hs (.of_ended rfl) hnew
      (by simp [Node.sources_of_role hrole, Role.sources])
    simp only [updateFrom, hrole] at hinput
    cases hvalues : driver.inputValues id node.element with
    | error e =>
      rw [hvalues] at hinput
      exact hinput
    | ok values =>
      rw [hvalues] at hinput
      exact hinput
  | transform source function =>
    have hmem := Node.mem_sources_of_transform hrole
    refine h.ensures_single (function.update · (driver.comparer id node) (driver.baseline id) ·)
      hnode (Node.sources_of_role hrole) (fun tables => ?_) (hpull source hmem) hs hnew
    simp only [updateFrom, hrole]
  | batch source function =>
    have hmem := Node.mem_sources_of_batch hrole
    refine h.ensures_single
      (Batch.update function · (driver.comparer id node) (driver.baseline id) ·)
      hnode (Node.sources_of_role hrole) (fun tables => ?_) (hpull source hmem) hs hnew
    simp only [updateFrom, hrole]
  | combine left right =>
    have hleft := Node.left_mem_sources hrole
    have hright := Node.right_mem_sources hrole
    have hbefore : ∀ source ∈ node.sources, source.raw < id.raw :=
      driver.pipeline.sources_lt id.raw node hnode
    refine Ensures.bind (h.ensures_check hs) ?_
    rintro _ _ rfl
    refine Ensures.bind (hpull left hleft _ hs) ?_
    rintro l t ⟨ht, hextends, hfind⟩
    refine Ensures.bind (hpull right hright _ ht) ?_
    rintro r u ⟨hu, hextends', hfind'⟩
    -- The left table stays while the right one is made.
    have hkept := hextends'.keeps left l hfind
    have hnew' := hextends'.beyond id (hbefore right hright)
      (hextends.beyond id (hbefore left hleft) hnew)
    have hboth := (hextends.mono (Nat.le_of_lt (hbefore left hleft))).trans
      (hextends'.mono (Nat.le_of_lt (hbefore right hright)))
    have hupdate := h.ensures_updateFrom hnode hu hboth hnew'
      (by simp [Node.sources_of_role hrole, Role.sources, hkept, hfind'])
    simp only [updateFrom, hrole] at hupdate
    rw [Ensures.bind_iff, ensures_currentSite hnew', ← Scratch.tableOf_of_find? hkept,
      ← Scratch.tableOf_of_find? hfind']
    exact hupdate
  | custom name turns program =>
    rw [hrole] at hbuiltIn
    cases hbuiltIn

/-- A node is computed from its sources, which are pulled first. -/
theorem ensures_compute (h : driver.Sustains holds stops) {pull : NodeId → RunM σ Computed}
    {id : NodeId} {node : Node σ} {s : Scratch σ}
    (hnode : driver.pipeline.node? id = some node) (hbuiltIn : node.role.isBuiltIn = true)
    (hpull : ∀ source ∈ node.sources, ∀ s, holds s →
      Ensures (pull source) s (Pulled holds source s) (fun stop _ => stops stop))
    (hs : holds s) (hnew : s.find? id = none) :
    Ensures (driver.compute pull id) s (Pulled holds id s) (fun stop _ => stops stop) := by
  unfold compute
  refine Ensures.bind (h.ensures_check hs) ?_
  rintro _ _ rfl
  rw [hnode]
  show Ensures (RunM.step (StepM.record (.entered id)) >>= fun _ =>
    driver.update pull id node >>= driver.settle id node) _ _ _
  rw [Ensures.bind_iff, ensures_step_iff]
  refine Ensures.bind (h.ensures_update hnode hbuiltIn hpull (h.enter _ id hs) hnew) ?_
  rintro product t ⟨hnone, hextends, hnext⟩
  have hadd := Scratch.extends_add { t with ambient := settled id node product t.ambient }
    (driver.computation id product t.ended.length) hnone
  refine ⟨hnext, ⟨fun node c hc => ?_, fun node hlt hc => ?_⟩, ?_⟩
  · exact hadd.keeps node c (hextends.keeps node c hc)
  · exact hadd.beyond node hlt (hextends.beyond node hlt hc)
  · exact (Scratch.find?_add _ _ id).trans (if_pos rfl)

/-- A pull keeps what the updates of nodes keep, whatever is there already: the node is
there when it ends, and nothing was computed that is declared after it. -/
theorem ensures_pull (h : driver.Sustains holds stops) (hbuiltIn : driver.pipeline.IsBuiltIn)
    {depth : Nat} {id : NodeId} (hcontains : driver.pipeline.contains id = true)
    (hdepth : id.raw < depth) {s : Scratch σ} (hs : holds s) :
    Ensures (driver.pull depth id) s (Pulled holds id s) (fun stop _ => stops stop) := by
  -- The sources of a node are declared before it, so a smaller depth will do for them.
  induction depth generalizing id s with
  | zero => exact absurd hdepth (Nat.not_lt_zero _)
  | succ depth ih =>
    rw [pull, ensures_memoized_iff]
    cases hfind : s.find? id with
    | some c => exact ⟨hs, .of_ended rfl, hfind⟩
    | none =>
      obtain ⟨node, hnode⟩ := (driver.pipeline.contains_iff id).mp hcontains
      refine h.ensures_compute hnode (hbuiltIn node (List.mem_of_getElem? hnode)) ?_ hs hfind
      intro source hsource t ht
      obtain ⟨hlt, hexists⟩ := Pipeline.exists_source hnode hsource
      exact ih ((driver.pipeline.contains_iff source).mpr hexists) (by omega) ht

end Sustains

/-! ### Pulls one after the other -/

/-- Pulls nodes in order and gives what each pull gave. -/
def pullAll (driver : Driver σ) : List NodeId → RunM σ (List Computed)
  | [] => return []
  | id :: ids => do
    let computed ← driver.pull driver.depth id
    return computed :: (← driver.pullAll ids)

/-- The nodes that were pulled are there in the end, each with the table that every pull of
it gave. -/
theorem Sustains.ensures_pullAll (h : driver.Sustains holds stops)
    (hbuiltIn : driver.pipeline.IsBuiltIn) {ids : List NodeId}
    (hcontains : ∀ id ∈ ids, driver.pipeline.contains id = true) {s : Scratch σ} (hs : holds s) :
    Ensures (driver.pullAll ids) s
      (fun answers t => holds t ∧ (∀ id c, s.find? id = some c → t.find? id = some c) ∧
        ids.map t.find? = answers.map some)
      (fun stop _ => stops stop) := by
  induction ids generalizing s with
  | nil => exact Ensures.of_pure ⟨hs, fun _ _ hc => hc, rfl⟩
  | cons id ids ih =>
    have hid : driver.pipeline.contains id = true := hcontains id (by simp)
    have hdepth : id.raw < driver.depth := by
      have hsize : id.raw < driver.pipeline.size := of_decide_eq_true hid
      have := driver.size_lt_depth
      omega
    refine Ensures.bind (h.ensures_pull hbuiltIn hid hdepth hs) ?_
    rintro c t ⟨ht, hextends, hfind⟩
    refine Ensures.bind (ih (fun id hmem => hcontains id (by simp [hmem])) ht) ?_
    rintro answers u ⟨hu, hkeeps, hanswers⟩
    refine Ensures.of_pure ⟨hu, fun id c hc => hkeeps id c (hextends.keeps id c hc), ?_⟩
    rw [List.map_cons, List.map_cons, hanswers, hkeeps id c hfind]

/-- The run of a pipeline pulls its nodes in order. -/
theorem run_visitAll_of_pullAll {ids : List NodeId} {s t : Scratch σ} {answers : List Computed}
    (h : (driver.pullAll ids).run.run s = (.ok answers, t)) :
    (driver.visitAll ids).run.run s = (.ok (), t) := by
  induction ids generalizing s answers with
  | nil =>
    cases h
    rfl
  | cons id ids ih =>
    obtain ⟨c, u, hpull, h⟩ := Stoppable.exists_run_of_bind h
    obtain ⟨rest, v, hrest, h⟩ := Stoppable.exists_run_of_bind h
    cases h
    rw [visitAll, Stoppable.run_bind, visit, Stoppable.run_tryCatch, Stoppable.run_discard, hpull]
    exact ih hrest

end Driver

end DeltaPipeline
