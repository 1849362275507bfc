import DeltaPipeline.Proofs.Histories
import DeltaPipeline.Proofs.Obtainable

/-!
# `DeltaPipeline.Proofs.Provenance`: where the tables of runs come from

A custom node may give any table that can be made, and the library's own nodes give no
others. So all tables of runs and all baselines can be made, whatever the custom nodes
pull and in whatever order. Baselines are never faulted, so a node that is reused is not
either.

* `Program.IsProper`, `Pipeline.IsProper`: custom nodes that give tables that can be made.
* `Computed.IsSound`: a computation whose table can be made and whose outcome tells of its
  fault.
* `Driver.sound_of_run`: the computations of a run.
* `Driver.isStocked_after`: the baselines after a history.
-/

set_option autoImplicit false

namespace DeltaPipeline

variable {σ : Type}

/-- The program gives a table that can be made, if those it pulls can be made. -/
def Program.IsProper : Program σ Product → Prop
  | .done product => product.Obtainable
  | .stop _ => True
  | .pull _ next => ∀ result : Except Error Computed,
    (∀ c, result = .ok c → c.table.Obtainable) → (next result).IsProper
  | .input _ _ next => ∀ values, (next values).IsProper
  | .override _ _ next => ∀ comparer, (next comparer).IsProper
  | .env _ next => ∀ env, (next env).IsProper
  | .observe _ _ next => next.IsProper
  | .call _ next => next.IsProper
  | .publish draft next => (next draft.finish).IsProper

/-- After a pull whose error is passed on, a program gives a table that can be made if it does so
from each table that can be made. -/
theorem Program.IsProper.ask {source : Handle} {next : Computed → Program σ Product}
    (h : ∀ c : Computed, c.table.Obtainable → (next c).IsProper) :
    (Program.ask source >>= next).IsProper := by
  intro result hresult
  cases result with
  | ok c => exact h c (hresult c rfl)
  | error e => exact trivial

/-- The custom nodes give tables that can be made. -/
def Pipeline.IsProper (pipeline : Pipeline σ) : Prop :=
  ∀ node ∈ pipeline.nodes, ∀ name turns program, node.role = .custom name turns program →
    ∀ id (baseline : Table Value), baseline.Obtainable → (program id baseline).IsProper

/-- The computation's table can be made, and the outcome is a fault if it is faulted. -/
structure Computed.IsSound (c : Computed) : Prop where
  obtainable : c.table.Obtainable
  faulted_iff : c.outcome = .faulted ↔ c.table.isFaulted = true

/-- The latest computations are among all. -/
theorem Computed.mem_of_mem_latest {computed : List Computed} {c : Computed}
    (h : c ∈ latest computed) : c ∈ computed := by
  induction computed with
  | nil => exact h
  | cons first rest ih =>
    rw [latest] at h
    split at h
    · exact List.mem_cons_of_mem _ (ih h)
    · rcases List.mem_cons.mp h with rfl | hmem
      · exact List.mem_cons_self
      · exact List.mem_cons_of_mem _ (ih hmem)

/-- All computations that ended are sound. -/
def Scratch.IsSound (s : Scratch σ) : Prop :=
  ∀ c ∈ s.ended, c.IsSound

/-- What is found in a sound state is sound. -/
theorem Scratch.IsSound.find? {s : Scratch σ} (h : s.IsSound) {id : NodeId} {c : Computed}
    (hfind : s.find? id = some c) : c.IsSound :=
  h c (List.mem_of_find?_eq_some hfind)

namespace Driver

variable {driver : Driver σ} {s : Scratch σ}

/-- The baselines can be made, and none of them is faulted. -/
def IsStocked (driver : Driver σ) : Prop :=
  ∀ entry ∈ driver.baselines, entry.2.Obtainable ∧ entry.2.isFaulted = false

/-- The baselines of a stocked driver are obtainable and hold no fault. -/
theorem IsStocked.baseline (h : driver.IsStocked) (id : NodeId) :
    (driver.baseline id).Obtainable ∧ (driver.baseline id).isFaulted = false := by
  unfold Driver.baseline baseline?
  cases hlookup : driver.baselines.lookup id with
  | none => exact ⟨.empty, rfl⟩
  | some table =>
    obtain ⟨before, after, hbaselines, -⟩ := List.lookup_eq_some_iff.mp hlookup
    exact h (id, table) (by simp [hbaselines])

/-! ### Steps of a run -/

/-- A step of an update leaves the tables alone. -/
theorem sound_step {α : Type} (action : StepM σ α) (hs : s.IsSound) :
    Ensures (RunM.step action) s (fun _ t => t.IsSound) (fun _ t => t.IsSound) := by
  rw [ensures_step_iff]
  exact Ensures.intro (fun _ _ _ => hs) fun _ _ _ => hs

/-- A step that gives a product of some kind does so in a run. -/
theorem sound_update {action : StepM σ Product} (hs : s.IsSound)
    (h : Ensures action s.ambient (fun product _ => product.Obtainable) (fun _ _ => True)) :
    Ensures (RunM.step action) s (fun product t => t.IsSound ∧ product.Obtainable)
      (fun _ t => t.IsSound) := by
  rw [ensures_step_iff]
  exact h.mono (fun _ _ hproduct => ⟨hs, hproduct⟩) fun _ _ _ => hs

/-- Pulling gives sound computations. -/
def PullsSoundly {ref : Type} (pull : ref → RunM σ Computed) : Prop :=
  ∀ source s, s.IsSound →
    Ensures (pull source) s (fun c t => t.IsSound ∧ c.IsSound) (fun _ t => t.IsSound)

/-- A proper program keeps the state sound and makes an obtainable table. -/
theorem sound_exec {self : NodeId} {pull : Handle → RunM σ Computed} (hpull : PullsSoundly pull)
    {program : Program σ Product} (hprogram : program.IsProper) (hs : s.IsSound) :
    Ensures (program.exec driver self pull) s (fun product t => t.IsSound ∧ product.Obtainable)
      (fun _ t => t.IsSound) := by
  induction program generalizing s with
  | done product => exact Ensures.of_pure ⟨hs, hprogram⟩
  | stop reason => exact hs
  | pull source next ih =>
    refine Ensures.bind (I := fun result t =>
      t.IsSound ∧ ∀ c, result = .ok c → c.table.Obtainable) ?_ ?_
    · rw [ensures_attempt_iff]
      refine (hpull source s hs).mono ?_ ?_
      · rintro c t ⟨ht, hc⟩
        exact ⟨ht, fun c' heq => by cases heq; exact hc.obtainable⟩
      · intro stop t ht
        cases stop with
        | error e => exact ⟨ht, fun c heq => nomatch heq⟩
        | panic p => exact ht
        | tooDeep => exact ht
    · rintro result t ⟨ht, hresult⟩
      exact ih result (hprogram result hresult) ht
  | input node type next ih => exact ih _ (hprogram _) hs
  | override node type next ih => exact ih _ (hprogram _) hs
  | env change next ih =>
    exact Ensures.bind (sound_step _ hs) fun env t ht => ih env (hprogram env) ht
  | observe comparer pairs next ih =>
    exact Ensures.bind (sound_step _ hs) fun _ t ht => ih hprogram ht
  | call argument next ih =>
    exact Ensures.bind (sound_step _ hs) fun _ t ht => ih hprogram ht
  | publish draft next ih =>
    have hpublish : Ensures (RunM.step (StepM.publish draft)) s
        (fun table t => t.IsSound ∧ table = draft.finish) (fun _ t => t.IsSound) := by
      rw [ensures_step_iff]
      unfold Ensures
      rw [StepM.run_publish]
      exact ⟨hs, rfl⟩
    refine Ensures.bind hpublish ?_
    rintro _ t ⟨ht, rfl⟩
    exact ih draft.finish hprogram ht

/-- The update of a node keeps the state sound and makes an obtainable table. -/
theorem sound_updates {pull : NodeId → RunM σ Computed} (hpull : PullsSoundly pull)
    (hproper : driver.pipeline.IsProper) (hstocked : driver.IsStocked) {id : NodeId}
    {node : Node σ} (hnode : driver.pipeline.node? id = some node) (hs : s.IsSound) :
    Ensures (driver.update pull id node) s (fun product t => t.IsSound ∧ product.Obtainable)
      (fun _ t => t.IsSound) := by
  have hbaseline := (hstocked.baseline id).1
  have hsite : ∀ s : Scratch σ, s.IsSound →
      Ensures (driver.currentSite id) s (fun _ t => t.IsSound) (fun _ t => t.IsSound) :=
    fun _ hs => hs
  -- The tables of the sources may be any: what is written over a good baseline is good.
  unfold update
  cases hrole : node.role with
  | input =>
    refine Ensures.bind (sound_step _ hs) fun _ t ht => ?_
    cases driver.inputValues id node.element with
    | error e => exact ht
    | ok values => exact sound_update ht (Input.ensures_obtainable id values hbaseline)
  | transform source function =>
    refine Ensures.bind (sound_step _ hs) fun _ t ht => ?_
    refine Ensures.bind (hpull source t ht) ?_
    rintro c u ⟨hu, -⟩
    refine Ensures.bind (hsite u hu) fun site v hv => ?_
    exact sound_update hv (Transform.ensures_obtainable function c.table hbaseline)
  | batch source function =>
    refine Ensures.bind (sound_step _ hs) fun _ t ht => ?_
    refine Ensures.bind (hpull source t ht) ?_
    rintro c u ⟨hu, -⟩
    refine Ensures.bind (hsite u hu) fun site v hv => ?_
    exact sound_update hv (Batch.ensures_obtainable function c.table hbaseline)
  | combine left right =>
    refine Ensures.bind (sound_step _ hs) fun _ t ht => ?_
    refine Ensures.bind (hpull left t ht) ?_
    rintro l u ⟨hu, -⟩
    refine Ensures.bind (hpull right u hu) ?_
    rintro r v ⟨hv, -⟩
    refine Ensures.bind (hsite v hv) fun site w hw => ?_
    exact sound_update hw (Combine.ensures_obtainable l.table r.table hbaseline)
  | custom name turns program =>
    have hprogram := hproper node (List.mem_of_getElem? hnode) name turns program hrole id
      (driver.baseline id) hbaseline
    refine sound_exec (fun handle t ht => ?_) hprogram hs
    unfold pullHandle
    split
    · exact hpull handle.node t ht
    · exact ht

/-- A product over a good baseline becomes a sound computation. -/
theorem isSound_computation (hstocked : driver.IsStocked) (id : NodeId) {product : Product}
    (hproduct : product.Obtainable) (serial : Nat) :
    (driver.computation id product serial).IsSound where
  obtainable := hproduct.resolve (hstocked.baseline id).1
  faulted_iff := by
    cases product with
    | unchanged => simp [computation, Product.outcome, Product.resolve, (hstocked.baseline id).2]
    | table t =>
      show (if t.isFaulted then Outcome.faulted else .executed) = .faulted ↔ t.isFaulted = true
      cases t.isFaulted <;> simp

/-- A node that is computed is computed soundly. -/
theorem sound_compute {pull : NodeId → RunM σ Computed} (hpull : PullsSoundly pull)
    (hproper : driver.pipeline.IsProper) (hstocked : driver.IsStocked) (id : NodeId)
    (hs : s.IsSound) :
    Ensures (driver.compute pull id) s (fun c t => t.IsSound ∧ c.IsSound)
      (fun _ t => t.IsSound) := by
  refine Ensures.bind (sound_step _ hs) fun _ t ht => ?_
  cases hnode : driver.pipeline.node? id with
  | none => exact ht
  | some node =>
    refine Ensures.bind (sound_step _ ht) fun _ u hu => ?_
    refine Ensures.bind (sound_updates hpull hproper hstocked hnode hu) ?_
    rintro product v ⟨hv, hproduct⟩
    refine Ensures.bind (sound_step _ hv) fun _ w hw => ?_
    have hlast := isSound_computation hstocked id hproduct w.ended.length
    refine ⟨fun c hc => ?_, hlast⟩
    rcases List.mem_cons.mp hc with rfl | hmem
    · exact hlast
    · exact hw c hmem

/-- Pulls are sound at every depth. -/
theorem sound_pull (hproper : driver.pipeline.IsProper) (hstocked : driver.IsStocked)
    (depth : Nat) : PullsSoundly (driver.pull depth) := by
  induction depth with
  | zero =>
    intro id s hs
    rw [pull, ensures_memoized_iff]
    cases hfind : s.find? id with
    | some c => exact ⟨hs, hs.find? hfind⟩
    | none => exact hs
  | succ depth ih =>
    intro id s hs
    rw [pull, ensures_memoized_iff]
    cases hfind : s.find? id with
    | some c => exact ⟨hs, hs.find? hfind⟩
    | none => exact sound_compute ih hproper hstocked id hs

/-- Visits of nodes keep the state sound, however they end. -/
theorem sound_visitAll (hproper : driver.pipeline.IsProper) (hstocked : driver.IsStocked)
    (ids : List NodeId) (hs : s.IsSound) :
    Ensures (driver.visitAll ids) s (fun _ t => t.IsSound) (fun _ t => t.IsSound) := by
  induction ids generalizing s with
  | nil => exact Ensures.of_pure hs
  | cons id ids ih =>
    refine Ensures.bind (I := fun _ t => t.IsSound) ?_ fun _ t ht => ih ht
    unfold visit
    rw [Ensures.tryCatch_iff, Ensures.discard_iff]
    refine (sound_pull hproper hstocked driver.depth id s hs).mono (fun _ _ h => h.1) ?_
    intro stop t ht
    obtain ⟨a, habandon⟩ := driver.exists_run_abandon id stop t
    unfold Ensures
    rw [habandon]
    exact ht

/-! ### Runs and histories -/

/-- The computations of a run that completes are sound. -/
theorem sound_of_run (hproper : driver.pipeline.IsProper) (hstocked : driver.IsStocked)
    {env : Env σ} {report : Report} (hrun : (driver.run env).result = .ok report) :
    ∀ c ∈ report.computed, c.IsSound := by
  have hstart : (driver.start env).IsSound := fun c hc => absurd hc List.not_mem_nil
  rcases run_cases (sound_visitAll hproper hstocked driver.pipeline.ids hstart) with
    ⟨s, hs, hcompleted⟩ | ⟨stop, s, -, hhalted⟩
  · rw [hcompleted] at hrun
    cases hrun
    exact fun c hc => hs c (List.mem_reverse.mp hc)
  · rw [hhalted] at hrun
    cases hrun

/-- One operation keeps the baselines good. -/
theorem IsStocked.act (h : driver.IsStocked) (hproper : driver.pipeline.IsProper)
    (op : Operation σ) : (driver.act op).IsStocked := by
  obtain ⟨-, hbaselines | hbaselines | ⟨env, report, rfl, hrun⟩⟩ := act_cases driver op
  · unfold IsStocked
    rw [hbaselines]
    exact h
  · unfold IsStocked
    rw [hbaselines]
    exact fun entry hentry => absurd hentry List.not_mem_nil
  · have hsound := sound_of_run hproper h hrun
    show (driver.run env).driver.IsStocked
    rcases driver_run driver env with hsame | ⟨report', hrun', hnext⟩
    · rw [hsame]
      exact h
    · rw [hrun, Except.ok.injEq] at hrun'
      subst hrun'
      rw [hnext]
      intro entry hentry
      obtain ⟨c, hc, rfl⟩ := List.mem_map.mp hentry
      exact ⟨.asCached (hsound c (Computed.mem_of_mem_latest hc)).obtainable,
        Table.isFaulted_asCached c.table⟩

/-- After any history all baselines can be made, and none is faulted. -/
theorem isStocked_after {pipeline : Pipeline σ} (hproper : pipeline.IsProper)
    (tracksSteps : Bool) (ops : List (Operation σ)) :
    ((fresh pipeline tracksSteps).after ops).IsStocked := by
  induction ops using List.reverseRecOn with
  | nil => exact fun entry hentry => absurd hentry List.not_mem_nil
  | append_singleton ops op ih =>
    rw [after_concat]
    exact ih.act (by rw [pipeline_after]; exact hproper) op

end Driver

end DeltaPipeline
