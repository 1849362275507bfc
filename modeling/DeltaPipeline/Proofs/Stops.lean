import DeltaPipeline.Proofs.Pulls

/-!
# `DeltaPipeline.Proofs.Stops`: what every run adds and why it stops

Whatever the custom nodes of a pipeline do, a run only adds to what it computed, and it has
a table for each node when it completes. If it stops, then for a reason that all runs may
stop for, or because a custom node gave that reason or pulled a node of another pipeline.

* `RunM.Adds`: what a run adds and what it stops for.
* `Program.StopsFor`, `Pipeline.StopsFor`: the reasons of custom nodes.
* `Driver.adds_pull`, `Driver.stops_of_run_error`: those of pulls and of runs.
* `Driver.table_of_owns`, `Driver.table_of_ne`: the handles that a report has a table for.
-/

set_option autoImplicit false

namespace DeltaPipeline

variable {σ : Type}

/-! ### What a run adds and stops for -/

/-- The step leaves the computations that ended, and it stops for these reasons only. -/
def RunM.Adds {α : Type} (m : RunM σ α) (stops : Stop → Prop) : Prop :=
  ∀ s : Scratch σ, Ensures m s (fun _ t => s.computed <+: t.computed)
    (fun stop t => s.computed <+: t.computed ∧ stops stop)

namespace RunM.Adds

variable {α β : Type} {stops : Stop → Prop}

/-- An answer given at once leaves what was computed. -/
theorem of_pure (answer : α) : RunM.Adds (pure answer : RunM σ α) stops :=
  fun _ => Ensures.of_pure (List.prefix_refl _)

/-- A stop that is admitted leaves what was computed. -/
theorem of_throw {stop : Stop} (h : stops stop) : RunM.Adds (throw stop : RunM σ α) stops :=
  fun _ => ⟨List.prefix_refl _, h⟩

/-- Of two steps that leave what was computed, the second goes on from the first. -/
theorem bind {m : RunM σ α} {f : α → RunM σ β} (hm : m.Adds stops)
    (hf : ∀ answer, (f answer).Adds stops) : (m >>= f).Adds stops := by
  intro s
  refine Ensures.bind (I := fun _ t => s.computed <+: t.computed) (hm s) fun answer t hextends => ?_
  exact (hf answer t).mono (fun _ _ hextends' => hextends.trans hextends')
    fun _ _ h => ⟨hextends.trans h.1, h.2⟩

/-- More stops may be admitted. -/
theorem mono {m : RunM σ α} {weaker : Stop → Prop} (h : m.Adds stops)
    (hle : ∀ stop, stops stop → weaker stop) : m.Adds weaker :=
  fun s => (h s).mono (fun _ _ h => h) fun stop _ h => ⟨h.1, hle stop h.2⟩

/-- A step of an update leaves all computations. -/
theorem of_step {action : StepM σ α}
    (h : ∀ a, Ensures action a (fun _ _ => True) (fun stop _ => stops stop)) :
    (RunM.step action).Adds stops := by
  intro s
  rw [ensures_step_iff]
  exact (h s.ambient).mono (fun _ _ _ => List.prefix_refl _)
    fun _ _ h => ⟨List.prefix_refl _, h⟩

/-- What ends alike in the same environment stops for the reasons that both may stop for. -/
theorem of_alike {action : StepM σ α} {same : α → α → Prop}
    (h : ∀ entries, Alike (Ambient.Begun entries) stops same action action) :
    (RunM.step action).Adds stops := by
  refine of_step fun a => ?_
  have hends := h (Event.entries a.journal) a a ⟨rfl, rfl, rfl⟩
  unfold Ensures
  revert hends
  rcases action.run.run a with ⟨_ | _, b⟩
  · intro hends
    cases hends with
    | stopped hstop _ => exact hstop
  · exact fun _ => trivial

/-- A step whose error is handed over, and what follows. Only the errors are asked about that
the step may stop with. -/
theorem attempt_bind {m : RunM σ α} {f : Except Error α → RunM σ β} {reasons : Stop → Prop}
    (hm : m.Adds reasons)
    (hstops : ∀ stop, reasons stop → (∀ e, stop ≠ .error e) → stops stop)
    (hf : ∀ result, (∀ e, result = .error e → reasons (.error e)) → (f result).Adds stops) :
    (m.attempt >>= f).Adds stops := by
  intro s
  refine Ensures.bind (I := fun result t => s.computed <+: t.computed ∧
    ∀ e, result = .error e → reasons (.error e)) ?_ ?_
  · rw [ensures_attempt_iff]
    refine (hm s).mono (fun answer t hextends => ⟨hextends, fun _ heq => nomatch heq⟩) ?_
    rintro stop t ⟨hextends, hreason⟩
    cases stop with
    | error e => exact ⟨hextends, fun _ heq => Except.error.inj heq ▸ hreason⟩
    | panic p => exact ⟨hextends, hstops _ hreason (by simp)⟩
    | tooDeep => exact ⟨hextends, hstops _ hreason (by simp)⟩
  · rintro result t ⟨hextends, hresult⟩
    exact (hf result hresult t).mono (fun _ _ hextends' => hextends.trans hextends')
      fun _ _ h => ⟨hextends.trans h.1, h.2⟩

end RunM.Adds

/-- The reasons are among those that every run may stop for. -/
structure Stop.Admits (stops : Stop → Prop) : Prop where
  cancelled : stops (.error .cancelled)
  typeMismatch : ∀ id type, stops (.error (.typeMismatch id type))
  panic : ∀ panic, stops (.panic panic)
  tooDeep : stops .tooDeep

/-- How a pull may stop in a run of the pipeline that stops for these reasons: for one of them,
or because the pipeline does not own the handle. -/
def Pipeline.PullStops (pipeline : Pipeline σ) (stops : Stop → Prop) (source : Handle)
    (stop : Stop) : Prop :=
  stops stop ∨ pipeline.owns source = false ∧ stop = .error (.unknownNode source.node)

/-- The program stops for these reasons only, if its pulls stop as they may. An error of a pull
that it handles is none of them. -/
def Program.StopsFor {α : Type} (pipeline : Pipeline σ) (stops : Stop → Prop) :
    Program σ α → Prop
  | .done _ => True
  | .stop reason => stops reason
  | .pull source next => ∀ result : Except Error Computed,
    (∀ e, result = .error e → pipeline.PullStops stops source (.error e)) →
      (next result).StopsFor pipeline stops
  | .input _ _ next => ∀ values, (next values).StopsFor pipeline stops
  | .override _ _ next => ∀ comparer, (next comparer).StopsFor pipeline stops
  | .env _ next => ∀ env, (next env).StopsFor pipeline stops
  | .observe _ _ next => next.StopsFor pipeline stops
  | .call _ next => next.StopsFor pipeline stops
  | .publish _ next => ∀ table, (next table).StopsFor pipeline stops

/-- The custom nodes stop for these reasons only. -/
def Pipeline.StopsFor (pipeline : Pipeline σ) (stops : Stop → Prop) : Prop :=
  ∀ node ∈ pipeline.nodes, ∀ name turns program, node.role = .custom name turns program →
    ∀ id baseline, (program id baseline).StopsFor pipeline stops

/-- Every program stops for some reason or other. -/
theorem Program.stopsFor_true {α : Type} (pipeline : Pipeline σ) (program : Program σ α) :
    program.StopsFor pipeline fun _ => True := by
  induction program with
  | done answer => exact trivial
  | stop reason => exact trivial
  | pull source next ih => exact fun result _ => ih result
  | input node type next ih => exact ih
  | override node type next ih => exact ih
  | env change next ih => exact ih
  | observe comparer pairs next ih => exact ih
  | call argument next ih => exact ih
  | publish draft next ih => exact ih

/-- A program leaves what was computed, if what it pulls does. -/
theorem Program.adds_exec {α : Type} {driver : Driver σ} {self : NodeId}
    {pull : NodeId → RunM σ Computed} {stops : Stop → Prop} (hadmits : Stop.Admits stops)
    (hpull : ∀ id, driver.pipeline.contains id = true → (pull id).Adds stops)
    {program : Program σ α} (h : program.StopsFor driver.pipeline stops) :
    (program.exec driver self (driver.pullHandle pull)).Adds stops := by
  induction program with
  | done answer => exact .of_pure answer
  | stop reason => exact .of_throw h
  | pull source next ih =>
    have hpulled : (driver.pullHandle pull source).Adds
        (driver.pipeline.PullStops stops source) := by
      unfold Driver.pullHandle
      cases howns : driver.pipeline.owns source with
      | true =>
        simp only [Pipeline.owns, Bool.and_eq_true] at howns
        exact (hpull source.node howns.2).mono fun _ => .inl
      | false => exact .of_throw (.inr ⟨howns, rfl⟩)
    refine .attempt_bind hpulled ?_ fun result hresult => ih result (h result hresult)
    rintro stop (hstop | ⟨-, rfl⟩) hnone
    · exact hstop
    · exact absurd rfl (hnone _)
  | input node type next ih => exact ih _ (h _)
  | override node type next ih => exact ih _ (h _)
  | env change next ih =>
    refine .bind (.of_step fun a => ?_) fun env => ih env (h env)
    unfold Ensures
    rw [StepM.run_changeEnv]
    trivial
  | observe comparer pairs next ih =>
    exact .bind (.of_alike fun entries =>
      (parallel_begun entries self comparer hadmits.cancelled hadmits.panic).observe pairs)
      fun _ => ih h
  | call argument next ih =>
    exact .bind (.of_step fun a => ensures_record trivial) fun _ => ih h
  | publish draft next ih =>
    exact .bind (.of_alike fun entries =>
      (parallel_begun entries self .structural hadmits.cancelled hadmits.panic).publish draft)
      fun table => ih table (h table)

namespace Driver

variable {driver : Driver σ} {stops : Stop → Prop}

/-- A check leaves what was computed, and it stops for cancellation only. -/
theorem adds_check (hcancelled : stops (.error .cancelled)) :
    (RunM.step StepM.check : RunM σ Unit).Adds stops :=
  .of_step fun _ => ensures_check (fun _ => hcancelled) trivial

/-- The values of an input can be read, unless they are of another type. -/
theorem inputValues_eq_error {id : NodeId} {type : ElementType} {e : Error}
    (h : driver.inputValues id type = .error e) : e = .typeMismatch id type := by
  unfold inputValues at h
  split at h
  · cases h
  · split at h
    · cases h
    · cases h
      rfl

/-- The update of a node leaves what was computed, if what it pulls does. -/
theorem adds_update (hadmits : Stop.Admits stops)
    (hstops : driver.pipeline.StopsFor stops) {pull : NodeId → RunM σ Computed}
    (hpull : ∀ id, driver.pipeline.contains id = true → (pull id).Adds stops) {id : NodeId}
    {node : Node σ} (hnode : driver.pipeline.node? id = some node) :
    (driver.update pull id node).Adds stops := by
  have hsource : ∀ source ∈ node.sources, (pull source).Adds stops := fun source hmem =>
    hpull source ((driver.pipeline.contains_iff source).mpr (Pipeline.exists_source hnode hmem).2)
  have hcheck : (RunM.step StepM.check : RunM σ Unit).Adds stops := adds_check hadmits.cancelled
  have hsite : (driver.currentSite id).Adds stops := fun _ => List.prefix_refl _
  have hparallel : ∀ entries self,
      Parallel Origin.forget (Ambient.Begun (σ := σ) entries) stops self
        (driver.comparer id node) (fun _ => True) :=
    fun entries self => parallel_begun entries self _ hadmits.cancelled hadmits.panic
  -- The update of an own form adds no computation, so all that counts are its pulls.
  unfold update
  cases hrole : node.role with
  | input =>
    refine hcheck.bind fun _ => ?_
    cases hvalues : driver.inputValues id node.element with
    | error e =>
      rw [inputValues_eq_error hvalues]
      exact .of_throw (hadmits.typeMismatch id node.element)
    | ok values => exact .of_alike fun entries => Input.alike_update (hparallel entries id) _ _
  | transform source function =>
    refine hcheck.bind fun _ => ?_
    refine (hsource source (Node.mem_sources_of_transform hrole)).bind fun c => ?_
    refine hsite.bind fun site => ?_
    exact .of_alike fun entries =>
      Transform.alike_update (hparallel entries site.node) (fun _ => trivial) _ rfl
  | batch source function =>
    refine hcheck.bind fun _ => ?_
    refine (hsource source (Node.mem_sources_of_batch hrole)).bind fun c => ?_
    refine hsite.bind fun site => ?_
    exact .of_alike fun entries =>
      Batch.alike_update (hparallel entries site.node) (fun _ => trivial) _ rfl
  | combine left right =>
    refine hcheck.bind fun _ => ?_
    refine (hsource left (Node.left_mem_sources hrole)).bind fun l => ?_
    refine (hsource right (Node.right_mem_sources hrole)).bind fun r => ?_
    refine hsite.bind fun site => ?_
    exact .of_alike fun entries => Combine.alike_update (hparallel entries site.node) _ rfl rfl
  | custom name turns program =>
    exact Program.adds_exec hadmits hpull
      (hstops node (List.mem_of_getElem? hnode) name turns program hrole id (driver.baseline id))

/-- A pull leaves the computations that ended. It stops for the reasons that the custom nodes
and all runs may stop for, and for no others. -/
theorem adds_pull (hadmits : Stop.Admits stops) (hstops : driver.pipeline.StopsFor stops)
    (depth : Nat) {id : NodeId} (hid : driver.pipeline.contains id = true) :
    (driver.pull depth id).Adds stops := by
  -- The nodes that this one waits for are pulled with one less.
  induction depth generalizing id with
  | zero =>
    intro s
    rw [pull, ensures_memoized_iff]
    cases s.find? id with
    | some c => exact List.prefix_refl _
    | none => exact ⟨List.prefix_refl _, hadmits.tooDeep⟩
  | succ depth ih =>
    have hcompute : (driver.compute (driver.pull depth) id).Adds stops := by
      obtain ⟨node, hnode⟩ := (driver.pipeline.contains_iff id).mp hid
      unfold compute
      refine (adds_check hadmits.cancelled).bind fun _ => ?_
      rw [hnode]
      refine RunM.Adds.bind (.of_step fun a => ensures_record trivial) fun _ => ?_
      refine (adds_update hadmits hstops (fun id hid => ih hid) hnode).bind fun product => ?_
      intro s
      show s.computed <+: (Scratch.add { s with ambient := settled id node product s.ambient }
        (driver.computation id product s.ended.length)).computed
      rw [Scratch.computed_add]
      exact List.prefix_append _ _
    intro s
    rw [pull, ensures_memoized_iff]
    cases s.find? id with
    | some c => exact List.prefix_refl _
    | none => exact hcompute s

/-- A pulled node is there. -/
theorem ensures_found (driver : Driver σ) (depth : Nat) (id : NodeId) (s : Scratch σ) :
    Ensures (driver.pull depth id) s (fun c t => t.find? id = some c) (fun _ _ => True) := by
  -- The computation is added last, so it does not matter what the steps before it do.
  have htrivial : ∀ {α : Type} (m : RunM σ α) (s : Scratch σ),
      Ensures m s (fun _ _ => True) (fun _ _ => True) :=
    fun m s => Ensures.intro (fun _ _ _ => trivial) fun _ _ _ => trivial
  cases depth with
  | zero =>
    rw [pull, ensures_memoized_iff]
    cases s.find? id with
    | some c => exact rfl
    | none => exact trivial
  | succ depth =>
    rw [pull, ensures_memoized_iff]
    cases s.find? id with
    | some c => exact rfl
    | none =>
      unfold compute
      refine Ensures.bind (htrivial _ _) fun _ t _ => ?_
      cases driver.pipeline.node? id with
      | none => exact trivial
      | some node =>
        refine Ensures.bind (htrivial _ _) fun _ u _ => ?_
        refine Ensures.bind (htrivial _ _) fun product v _ => ?_
        exact (Scratch.find?_add _ _ id).trans (if_pos rfl)

/-- A node that is there stays there. -/
theorem isSome_of_isPrefix {s t : Scratch σ} (h : s.computed <+: t.computed) {id : NodeId}
    (hid : (s.find? id).isSome = true) : (t.find? id).isSome = true := by
  rw [← Option.ne_none_iff_isSome, s.find?_eq, Ne, Computed.find?_eq_none_iff, not_not] at hid
  rw [← Option.ne_none_iff_isSome, t.find?_eq, Ne, Computed.find?_eq_none_iff, not_not]
  exact (h.map Computed.node).subset hid

/-- A run through nodes has a table of each of them in the end. -/
theorem ensures_visitAll_found (hadmits : Stop.Admits stops)
    (hstops : driver.pipeline.StopsFor stops) {ids : List NodeId}
    (hids : ∀ id ∈ ids, driver.pipeline.contains id = true) (s : Scratch σ) :
    Ensures (driver.visitAll ids) s
      (fun _ t => s.computed <+: t.computed ∧ ∀ id ∈ ids, (t.find? id).isSome = true)
      (fun stop _ => stops stop) := by
  induction ids generalizing s with
  | nil => exact Ensures.of_pure ⟨List.prefix_refl _, by simp⟩
  | cons id ids ih =>
    have hpull : Ensures (driver.pull driver.depth id) s
        (fun _ t => s.computed <+: t.computed ∧ (t.find? id).isSome = true)
        (fun stop _ => stops stop) := by
      refine ((adds_pull hadmits hstops driver.depth (hids id (by simp)) s).and
        (driver.ensures_found driver.depth id s)).mono ?_ fun _ _ h => h.1.2
      rintro c t ⟨hextends, hfind⟩
      exact ⟨hextends, by rw [hfind]; rfl⟩
    have hvisit : Ensures (driver.visit id) s
        (fun _ t => s.computed <+: t.computed ∧ (t.find? id).isSome = true)
        (fun stop _ => stops stop) := by
      unfold visit
      rw [Ensures.tryCatch_iff, Ensures.discard_iff]
      refine hpull.mono (fun _ _ h => h) fun stop t hstop => ?_
      obtain ⟨a, habandon⟩ := driver.exists_run_abandon id stop t
      unfold Ensures
      rw [habandon]
      exact hstop
    refine Ensures.bind hvisit ?_
    rintro _ t ⟨hextends, hfound⟩
    refine (ih (fun id hmem => hids id (by simp [hmem])) t).mono ?_ fun _ _ h => h
    rintro _ u ⟨hextends', hfound'⟩
    -- A table that was found is kept by all later visits.
    refine ⟨hextends.trans hextends', fun other hmem => ?_⟩
    rcases List.mem_cons.mp hmem with rfl | hmem
    · exact isSome_of_isPrefix hextends' hfound
    · exact hfound' other hmem

/-- A run stops for the reasons that its custom nodes and all runs may stop for. -/
theorem stops_of_run_error (hadmits : Stop.Admits stops) (hstops : driver.pipeline.StopsFor stops)
    {env : Env σ} {stop : Stop} (hrun : (driver.run env).result = .error stop) : stops stop := by
  have hvisit := ensures_visitAll_found hadmits hstops
    (fun id hid => (driver.pipeline.mem_ids id).mp hid) (driver.start env)
  rcases run_cases hvisit with ⟨s, -, hcompleted⟩ | ⟨stop', s, hstop, hhalted⟩
  · rw [hcompleted] at hrun
    cases hrun
  · rw [hhalted] at hrun
    cases hrun
    exact hstop

/-- The report of a run has a table for each node. -/
theorem table_of_owns {env : Env σ} {report : Report}
    (hrun : (driver.run env).result = .ok report) {handle : Handle}
    (howns : driver.pipeline.owns handle = true) : ∃ table, report.table handle = .ok table := by
  obtain ⟨s, hvisit, -, rfl⟩ := exists_visitAll hrun
  have hadmits : Stop.Admits fun _ => True :=
    ⟨trivial, fun _ _ => trivial, fun _ => trivial, trivial⟩
  have hstops : driver.pipeline.StopsFor fun _ => True := fun _ _ _ _ _ _ _ _ =>
    Program.stopsFor_true _ _
  obtain ⟨-, hfound⟩ := (ensures_visitAll_found hadmits hstops
    (fun id hid => (driver.pipeline.mem_ids id).mp hid) (driver.start env)).of_ok hvisit
  simp only [Pipeline.owns, Bool.and_eq_true, decide_eq_true_eq] at howns
  obtain ⟨c, hc⟩ := Option.isSome_iff_exists.mp
    (hfound handle.node ((driver.pipeline.mem_ids _).mpr howns.2))
  have hfind : (driver.report s.computed).find? handle.node = some c.table := by
    rw [s.find?_eq] at hc
    exact congrArg (Option.map Computed.table) hc
  refine ⟨c.table, ?_⟩
  unfold Report.table
  rw [hfind]
  exact if_pos howns.1

end Driver

end DeltaPipeline
