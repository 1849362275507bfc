import DeltaPipeline.Driver.Run
import DeltaPipeline.Proofs.Ensures
import Mathlib.Data.List.Nodup

/-!
# `DeltaPipeline.Proofs.Sweep`: a run goes through the nodes in order

Where all nodes are of the library's own kinds, a run computes them one after the
other in order of declaration: when a node is visited, its sources are there, so its
pulls find them and compute nothing.

* `Driver.updateFrom`: the update of a node from the tables of its sources.
* `Driver.ensures_update_iff`: what the update ensures in a run.
* `Driver.ensures_visit`: the visit of a node, its update and the bookkeeping.
* `Driver.ensures_visitAll`: what holds when a run starts and is kept by each update
  holds when the run ends.
-/

set_option autoImplicit false

namespace DeltaPipeline

variable {σ : Type}

/-- All nodes are of the library's own kinds. -/
def Pipeline.IsBuiltIn (pipeline : Pipeline σ) : Prop :=
  ∀ node ∈ pipeline.nodes, node.role.isBuiltIn = true

/-- The table of a node among computations, an empty one if there is none. -/
def Computed.tableOf (computed : List Computed) (id : NodeId) : Table Value :=
  ((Computed.find? computed id).map Computed.table).getD .empty

/-- The first nodes of a pipeline in order of declaration, so many of them. -/
def NodeId.firsts (count : Nat) : List NodeId :=
  (List.range count).map NodeId.mk

/-- The first nodes are those below their count. -/
theorem NodeId.mem_firsts {count : Nat} {id : NodeId} :
    id ∈ firsts count ↔ id.raw < count := by
  simp only [firsts, List.mem_map, List.mem_range]
  constructor
  · rintro ⟨i, hi, rfl⟩
    exact hi
  · intro h
    exact ⟨id.raw, h, rfl⟩

/-- One more of the first nodes is the next one, last. -/
theorem NodeId.firsts_succ (count : Nat) : firsts (count + 1) = firsts count ++ [⟨count⟩] := by
  simp [firsts, List.range_succ]

/-- The nodes up to this one are those before it and itself. -/
theorem NodeId.lt_or_eq {count : Nat} {id : NodeId} (h : id.raw < count + 1) :
    id.raw < count ∨ id = ⟨count⟩ := by
  rcases Nat.lt_succ_iff_lt_or_eq.mp h with hlt | rfl
  · exact .inl hlt
  · exact .inr rfl

/-- No node is twice among the first ones. -/
theorem NodeId.nodup_firsts (count : Nat) : (firsts count).Nodup :=
  List.nodup_range.map fun _ _ h => congrArg NodeId.raw h

/-- A list made of the first nodes grows by the part of the next one. -/
theorem NodeId.flatMap_firsts_update {α β : Type} (values : NodeId → α) (count : Nat) (value : α)
    (part : NodeId → α → List β) :
    (firsts (count + 1)).flatMap (fun id => part id (update values ⟨count⟩ value id))
      = (firsts count).flatMap (fun id => part id (values id)) ++ part ⟨count⟩ value := by
  have hold : ∀ id ∈ firsts count,
      part id (update values ⟨count⟩ value id) = part id (values id) := by
    intro id hid
    rw [update_of_ne]
    rintro rfl
    exact Nat.lt_irrefl _ (mem_firsts.mp hid)
  rw [firsts_succ, List.flatMap_append, List.flatMap_congr hold, List.flatMap_singleton,
    update_self]

/-! ### Computations in order -/

namespace Computed

/-- A node has a computation exactly if it is among the computed ones. -/
theorem find?_eq_none_iff {computed : List Computed} {id : NodeId} :
    find? computed id = none ↔ id ∉ computed.map Computed.node := by
  simp [find?, List.find?_eq_none]

/-- What is found for a node is of that node. -/
theorem node_of_find? {computed : List Computed} {id : NodeId} {c : Computed}
    (h : find? computed id = some c) : c.node = id := by
  simpa using List.find?_some h

/-- What is found is one of the computations. -/
theorem mem_of_find? {computed : List Computed} {id : NodeId} {c : Computed}
    (h : find? computed id = some c) : c ∈ computed :=
  List.mem_reverse.mp (List.mem_of_find?_eq_some h)

/-- Where no node is computed twice, each computation is the last of its node. -/
theorem find?_of_mem {computed : List Computed} (hnodup : (computed.map Computed.node).Nodup)
    {c : Computed} (hc : c ∈ computed) : find? computed c.node = some c := by
  cases h : find? computed c.node with
  | none => exact absurd (List.mem_map_of_mem hc) (find?_eq_none_iff.mp h)
  | some d =>
    -- Two computations of one node are the same.
    have hnode : d.node = c.node := node_of_find? h
    rw [List.inj_on_of_nodup_map hnodup (mem_of_find? h) hc hnode]

/-- Where no node is computed twice, the computations that count are all of them. -/
theorem latest_eq_self {computed : List Computed}
    (hnodup : (computed.map Computed.node).Nodup) : latest computed = computed := by
  induction computed with
  | nil => rfl
  | cons first rest ih =>
    rw [List.map_cons, List.nodup_cons] at hnodup
    have hfirst : rest.any (·.node = first.node) = false := by
      rw [List.any_eq_false]
      intro c hc hnode
      exact hnodup.1 (List.mem_map.mpr ⟨c, hc, by simpa using hnode⟩)
    rw [latest, hfirst, ih hnodup.2]
    rfl

end Computed

/-! ### Parts of a run -/

/-- A step of an update changes nothing of the run but its ambient part. -/
theorem RunM.run_step {α : Type} (action : StepM σ α) (s : Scratch σ) :
    (RunM.step action).run.run s
      = ((action.run.run s.ambient).1, { s with ambient := (action.run.run s.ambient).2 }) := by
  unfold RunM.step
  have hget : (get : RunM σ (Scratch σ)).run.run s = pure (.ok s, s) := rfl
  rw [ExceptT.run_bind, StateT.run_bind, hget, pure_bind]
  dsimp only
  rcases action.run.run s.ambient with ⟨_ | _, _⟩ <;> rfl

/-- A step of the run is a step on its ambient state. -/
theorem ensures_step_iff {α : Type} {action : StepM σ α} {s : Scratch σ}
    {answered : α → Scratch σ → Prop} {stopped : Stop → Scratch σ → Prop} :
    Ensures (RunM.step action) s answered stopped
      ↔ Ensures action s.ambient (fun answer a => answered answer { s with ambient := a })
        (fun stop a => stopped stop { s with ambient := a }) := by
  unfold Ensures
  rw [RunM.run_step]
  rcases action.run.run s.ambient with ⟨_ | _, _⟩ <;> rfl

/-- A computation whose error is handed over leaves the state that it left anyway. -/
theorem RunM.run_attempt {α : Type} (m : RunM σ α) (s : Scratch σ) :
    m.attempt.run.run s = match m.run.run s with
      | (.ok answer, t) => (.ok (.ok answer), t)
      | (.error (.error e), t) => (.ok (.error e), t)
      | (.error stop, t) => (.error stop, t) := by
  unfold RunM.attempt
  rw [Stoppable.run_tryCatch, Stoppable.run_bind]
  rcases m.run.run s with ⟨stop | answer, t⟩
  · cases stop <;> rfl
  · rfl

/-- An attempt answers where the attempted step fails with an error, and stops only where it panics.
-/
theorem ensures_attempt_iff {α : Type} {m : RunM σ α} {s : Scratch σ}
    {answered : Except Error α → Scratch σ → Prop} {stopped : Stop → Scratch σ → Prop} :
    Ensures m.attempt s answered stopped
      ↔ Ensures m s (fun answer t => answered (.ok answer) t) fun stop t =>
        match stop with
        | .error e => answered (.error e) t
        | stop => stopped stop t := by
  unfold Ensures
  rw [RunM.run_attempt]
  rcases m.run.run s with ⟨stop | answer, t⟩
  · cases stop <;> rfl
  · rfl

/-- A table that is there is given without any effect. -/
theorem Driver.run_memoized (id : NodeId) (compute : RunM σ Computed) (s : Scratch σ) :
    (Driver.memoized id compute).run.run s
      = match s.find? id with
        | some computed => (.ok computed, s)
        | none => compute.run.run s := by
  unfold Driver.memoized
  rw [Stoppable.run_bind]
  show (match s.find? id with | some c => pure c | none => compute : RunM σ Computed).run.run s = _
  cases s.find? id <;> rfl

/-- A node that is found is not computed again. -/
theorem ensures_memoized_iff {id : NodeId} {compute : RunM σ Computed} {s : Scratch σ}
    {answered : Computed → Scratch σ → Prop} {stopped : Stop → Scratch σ → Prop} :
    Ensures (Driver.memoized id compute) s answered stopped
      ↔ match s.find? id with
        | some computed => answered computed s
        | none => Ensures compute s answered stopped := by
  unfold Ensures
  rw [Driver.run_memoized]
  cases s.find? id <;> rfl

namespace Driver

variable {driver : Driver σ}

/-- A node that is there is pulled without any effect. -/
theorem ensures_pull_of_find? {depth : Nat} {id : NodeId} {c : Computed} {s : Scratch σ}
    {answered : Computed → Scratch σ → Prop} {stopped : Stop → Scratch σ → Prop}
    (hfind : s.find? id = some c) :
    Ensures (driver.pull depth id) s answered stopped ↔ answered c s := by
  cases depth <;> rw [pull, ensures_memoized_iff, hfind]

/-- The first update of a node in a run takes place at the site of its first attempt. -/
theorem ensures_currentSite {id : NodeId} {s : Scratch σ} {answered : Site → Scratch σ → Prop}
    {stopped : Stop → Scratch σ → Prop} (hnew : s.find? id = none) :
    Ensures (driver.currentSite id) s answered stopped ↔ answered (driver.site id 0) s := by
  -- No update of the node has ended, so none is counted.
  have hcount : s.ended.countP (·.node = id) = 0 := by
    rw [List.countP_eq_zero]
    exact List.find?_eq_none.mp hnew
  show answered (driver.site id (s.ended.countP (·.node = id))) s ↔ _
  rw [hcount]

/-- The update of a node from the tables of its sources. A custom node has no such
update. -/
def updateFrom (driver : Driver σ) (tables : NodeId → Table Value) (id : NodeId)
    (node : Node σ) : StepM σ Product :=
  let comparer := driver.comparer id node
  let baseline := driver.baseline id
  let site := driver.site id 0
  match node.role with
  | .input =>
    match driver.inputValues id node.element with
    | .error e => throw (.error e)
    | .ok values => Input.update id comparer baseline values
  | .transform source function => function.update site comparer baseline (tables source)
  | .batch source function => Batch.update function site comparer baseline (tables source)
  | .combine left right => Combine.update site comparer baseline (tables left) (tables right)
  | .custom _ _ _ => throw .tooDeep

/-- The steps of a node's computation from the tables of its sources. -/
def updateNode (driver : Driver σ) (tables : NodeId → Table Value) (id : NodeId)
    (node : Node σ) : StepM σ Product := do
  StepM.check
  StepM.record (.entered id)
  StepM.check
  driver.updateFrom tables id node

/-- The computation that an update of a node ends in. -/
def computation (driver : Driver σ) (id : NodeId) (product : Product) (serial : Nat) :
    Computed where
  node := id
  table := product.resolve (driver.baseline id)
  outcome := product.outcome
  serial := serial

/-- In a run a node that was not computed yet is updated from the tables that its
sources have there. -/
theorem ensures_update_iff {depth : Nat} {id : NodeId} {node : Node σ} {s : Scratch σ}
    {answered : Product → Scratch σ → Prop} {stopped : Stop → Scratch σ → Prop}
    (hbuiltIn : node.role.isBuiltIn = true) (hnew : s.find? id = none)
    (hsources : ∀ source ∈ node.sources, (s.find? source).isSome = true) :
    Ensures (driver.update (driver.pull depth) id node) s answered stopped
      ↔ Ensures (do StepM.check; driver.updateFrom (Computed.tableOf s.computed) id node)
        s.ambient (fun product a => answered product { s with ambient := a })
        (fun stop a => stopped stop { s with ambient := a }) := by
  -- A source that is there is pulled without effect and has the table listed for it.
  have hpull : ∀ source ∈ node.sources, ∃ c, s.find? source = some c ∧
      Computed.tableOf s.computed source = c.table := by
    intro source hsource
    obtain ⟨c, hc⟩ := Option.isSome_iff_exists.mp (hsources source hsource)
    refine ⟨c, hc, ?_⟩
    rw [Computed.tableOf, ← s.find?_eq, hc]
    rfl
  unfold update updateFrom
  cases hrole : node.role with
  | input =>
    simp only [Ensures.bind_iff, ensures_step_iff, ensures_check_iff]
    cases driver.inputValues id node.element with
    | error e => rfl
    | ok values => simp only [ensures_step_iff]
  | transform source function =>
    obtain ⟨c, hc, htable⟩ := hpull source (Node.mem_sources_of_transform hrole)
    simp only [Ensures.bind_iff, ensures_step_iff, ensures_check_iff,
      ensures_pull_of_find? hc, htable, ensures_currentSite hnew]
  | batch source function =>
    obtain ⟨c, hc, htable⟩ := hpull source (Node.mem_sources_of_batch hrole)
    simp only [Ensures.bind_iff, ensures_step_iff, ensures_check_iff,
      ensures_pull_of_find? hc, htable, ensures_currentSite hnew]
  | combine left right =>
    obtain ⟨cl, hcl, htablel⟩ := hpull left (Node.left_mem_sources hrole)
    obtain ⟨cr, hcr, htabler⟩ := hpull right (Node.right_mem_sources hrole)
    simp only [Ensures.bind_iff, ensures_step_iff, ensures_check_iff,
      ensures_pull_of_find? hcl, ensures_pull_of_find? hcr, htablel, htabler,
      ensures_currentSite hnew]
  | custom name turns program =>
    rw [hrole] at hbuiltIn
    cases hbuiltIn

/-- The journal after a run was abandoned at a node. -/
def abandoned (driver : Driver σ) (id : NodeId) (node : Node σ) (stop : Stop)
    (a : Ambient σ) : Ambient σ :=
  match stop with
  | .error e => a.note (.noticed (.runAbandoned (driver.runs + 1) id node.kind e))
  | _ => a

/-- The journal after a node's table was made. -/
def settled (id : NodeId) (node : Node σ) (product : Product) (a : Ambient σ) : Ambient σ :=
  a.note (.noticed (.computed id node.kind product.outcome))

/-- A node that was not computed yet is computed from the tables of its sources. -/
theorem ensures_compute_iff {depth : Nat} {id : NodeId} {node : Node σ} {s : Scratch σ}
    {answered : Computed → Scratch σ → Prop} {stopped : Stop → Scratch σ → Prop}
    (hnode : driver.pipeline.node? id = some node) (hbuiltIn : node.role.isBuiltIn = true)
    (hnew : s.find? id = none)
    (hsources : ∀ source ∈ node.sources, (s.find? source).isSome = true) :
    Ensures (driver.compute (driver.pull depth) id) s answered stopped
      ↔ Ensures (driver.updateNode (Computed.tableOf s.computed) id node) s.ambient
        (fun product a => answered (driver.computation id product s.ended.length)
          ({ s with ambient := settled id node product a }.add
            (driver.computation id product s.ended.length)))
        (fun stop a => stopped stop { s with ambient := a }) := by
  unfold compute updateNode
  rw [Ensures.bind_iff, Ensures.bind_iff, ensures_step_iff, ensures_check_iff,
    ensures_check_iff]
  by_cases hcancelled : s.ambient.env.cancelled = true
  · rw [if_pos hcancelled, if_pos hcancelled]
  · rw [if_neg hcancelled, if_neg hcancelled, hnode]
    -- The entry is in the journal before the update begins.
    show Ensures (RunM.step (StepM.record (.entered id)) >>= fun _ => _) s _ _ ↔ _
    rw [Ensures.bind_iff, ensures_step_iff, Ensures.bind_iff]
    show Ensures (driver.update (driver.pull depth) id node >>= driver.settle id node)
      { s with ambient := s.ambient.note (.entered id) } _ _ ↔ _
    rw [Ensures.bind_iff]
    exact ensures_update_iff (s := { s with ambient := s.ambient.note (.entered id) })
      hbuiltIn hnew hsources

/-- Whatever is logged, a run that is abandoned stops for the same reason, with the tables that
are there. -/
theorem exists_run_abandon (driver : Driver σ) (id : NodeId) (stop : Stop) (s : Scratch σ) :
    ∃ a, (driver.abandon id stop).run.run s = (.error stop, { s with ambient := a }) := by
  unfold abandon
  split
  · exact ⟨_, by rw [Stoppable.run_bind, RunM.run_step]; rfl⟩
  · exact ⟨s.ambient, rfl⟩

/-- The visit of a node that was not computed yet. -/
theorem ensures_visit_iff {id : NodeId} {node : Node σ} {s : Scratch σ}
    {answered : Unit → Scratch σ → Prop} {stopped : Stop → Scratch σ → Prop}
    (hnode : driver.pipeline.node? id = some node) (hbuiltIn : node.role.isBuiltIn = true)
    (hnew : s.find? id = none)
    (hsources : ∀ source ∈ node.sources, (s.find? source).isSome = true) :
    Ensures (driver.visit id) s answered stopped
      ↔ Ensures (driver.updateNode (Computed.tableOf s.computed) id node) s.ambient
        (fun product a => answered () ({ s with ambient := settled id node product a }.add
          (driver.computation id product s.ended.length)))
        (fun stop a => stopped stop { s with ambient := driver.abandoned id node stop a }) := by
  -- The depth exceeds the number of nodes, so a level of pulling is left.
  obtain ⟨depth, hdepth⟩ : ∃ depth, driver.depth = depth + 1 :=
    ⟨driver.depth - 1, by have := driver.size_lt_depth; omega⟩
  have hkind : driver.pipeline.kind? id = some node.kind := by
    rw [Pipeline.kind?, hnode]
    rfl
  unfold visit abandon
  rw [Ensures.tryCatch_iff, Ensures.discard_iff, hdepth, pull, ensures_memoized_iff, hnew,
    hkind]
  refine (ensures_compute_iff hnode hbuiltIn hnew hsources).trans ?_
  refine Ensures.congr (fun _ _ => Iff.rfl) fun stop a => ?_
  cases stop <;> rfl

/-! ### The run as a whole -/

/-- What holds when a run starts and is kept by the computation of each node in order
holds when the run ends, with all nodes computed; and if a node stops the run, what
that node then leaves holds. -/
theorem ensures_visitAll (hbuiltIn : driver.pipeline.IsBuiltIn)
    {holds : List Computed → Ambient σ → Prop}
    {stops : Stop → List Computed → Ambient σ → Prop} {env : Env σ}
    (hstart : holds [] (driver.start env).ambient)
    (hstep : ∀ (computed : List Computed) (a : Ambient σ) (node : Node σ),
      computed.map Computed.node = NodeId.firsts computed.length →
      driver.pipeline.node? ⟨computed.length⟩ = some node → holds computed a →
      Ensures (driver.updateNode (Computed.tableOf computed) ⟨computed.length⟩ node) a
        (fun product b => holds
          (computed ++ [driver.computation ⟨computed.length⟩ product computed.length])
          (settled ⟨computed.length⟩ node product b))
        (fun stop b => stops stop computed
          (driver.abandoned ⟨computed.length⟩ node stop b))) :
    Ensures (driver.visitAll driver.pipeline.ids) (driver.start env)
      (fun _ s => s.computed.map Computed.node = driver.pipeline.ids ∧
        holds s.computed s.ambient)
      (fun stop s => stops stop s.computed s.ambient) := by
  -- The induction is on the number of nodes that are left.
  suffices h : ∀ (left done : Nat) (s : Scratch σ), done + left = driver.pipeline.size →
      s.computed.length = done → s.computed.map Computed.node = NodeId.firsts done →
      holds s.computed s.ambient →
      Ensures (driver.visitAll ((List.range' done left).map NodeId.mk)) s
        (fun _ s => s.computed.map Computed.node = driver.pipeline.ids ∧
          holds s.computed s.ambient)
        (fun stop s => stops stop s.computed s.ambient) by
    have hall := h driver.pipeline.size 0 (driver.start env) (by omega) rfl rfl hstart
    rw [← List.range_eq_range'] at hall
    exact hall
  intro left
  induction left with
  | zero =>
    intro done s hdone _ hnodes hholds
    refine Ensures.of_pure ⟨?_, hholds⟩
    rw [hnodes, show done = driver.pipeline.size by omega]
    rfl
  | succ left ih =>
    intro done s hdone hlength hnodes hholds
    subst hlength
    have hlt : s.computed.length < driver.pipeline.nodes.length := by
      show s.computed.length < driver.pipeline.size
      omega
    have hnode : driver.pipeline.node? ⟨s.computed.length⟩
        = some driver.pipeline.nodes[s.computed.length] := List.getElem?_eq_getElem hlt
    -- The nodes computed so far are those before this one. So this one is not among
    -- them, and all of its sources are.
    have hnew : s.find? ⟨s.computed.length⟩ = none := by
      rw [s.find?_eq, Computed.find?_eq_none_iff, hnodes, NodeId.mem_firsts]
      exact Nat.lt_irrefl _
    have hsources : ∀ source ∈ (driver.pipeline.nodes[s.computed.length]).sources,
        (s.find? source).isSome = true := by
      intro source hsource
      have hbefore := driver.pipeline.sources_lt _ _ hnode source hsource
      rw [← Option.ne_none_iff_isSome, s.find?_eq, Ne, Computed.find?_eq_none_iff, hnodes,
        NodeId.mem_firsts]
      exact not_not_intro hbefore
    rw [List.range'_succ, List.map_cons, visitAll, Ensures.bind_iff,
      ensures_visit_iff hnode (hbuiltIn _ (List.getElem_mem hlt)) hnew hsources]
    have hended : s.ended.length = s.computed.length := by
      rw [Scratch.computed, List.length_reverse]
    refine (hstep s.computed s.ambient _ hnodes hnode hholds).mono ?_ fun _ _ h => h
    intro product a hnext
    rw [hended]
    refine ih (s.computed.length + 1) _ (by omega) ?_ ?_ ?_
    · rw [Scratch.computed_add, List.length_append]
      rfl
    · rw [Scratch.computed_add, List.map_append, NodeId.firsts_succ]
      exact congrArg (· ++ [_]) hnodes
    · rw [Scratch.computed_add]
      exact hnext

end Driver

end DeltaPipeline
