import DeltaPipeline.Proofs.Propagation

/-!
# `DeltaPipeline.Proofs.Cancellation`: which runs are cancelled

User code may cancel the run that it is called in, and the nodes check for it at some
points only. A run stops exactly if it was cancelled before one of them. An input and a
batch end with comparisons that no check of their own follows, so a run that these cancel
stops at the next node, and completes if there is none.

* `Driver.Turns.not_interrupts`: what cancelled a run that completed came too late.
* `Driver.Turn.eq_faulted_of_answer`: a fault is no error, whatever its cause.
* `Driver.tells_of_run`: the journal of a run tells if it was cancelled.
* `Driver.cancelled_iff`: when a run stops with a cancellation.
* `Driver.cancellation_after`: the cancellations of every run.
-/

set_option autoImplicit false

namespace DeltaPipeline

variable {σ : Type}

namespace Driver

variable {driver : Driver σ} {accepts : NodeId → Value → Value → Prop} {env : Env σ}
  {computed : List Computed} {id : NodeId}

/-- What cancelled a run that completed came after its last check. -/
theorem Turns.not_interrupts {a : Ambient σ} {calls : NodeId → List (Call σ)}
    {signaller : Signaller} (h : driver.Turns env computed a calls)
    (hcompletes : driver.Completes accepts computed)
    (hmem : .cancelled id signaller ∈ a.journal) :
    ¬ driver.pipeline.Interrupts id signaller := by
  obtain ⟨hlast, rfl, node, hnode, hends⟩ := h.ended id signaller hmem
  rw [length_of_nodes hcompletes.nodes] at hlast
  rintro (hfunction | hbefore | ⟨other, hother, hchecks⟩)
  · cases hfunction
  · omega
  · rw [hnode, Option.some.injEq] at hother
    rw [← hother, hends] at hchecks
    cases hchecks

/-- A call that gave a fault made the table of its node faulted, whatever the cause of the
fault. -/
theorem Turn.eq_faulted_of_answer {journal : List Event} {calls : List (Call σ)}
    {node : Node σ} {call : Call σ} {fault : Fault}
    (hturn : driver.Turn computed journal calls id node) (h : driver.Completes accepts computed)
    (hcoherent : driver.Coherent accepts) (hnode : driver.pipeline.node? id = some node)
    (hcall : call ∈ calls) (hanswer : call.answer = .error fault) :
    Computed.tableOf computed id = .faulted fault := by
  -- A node whose function was called has no faulted source.
  have hfaults : ∀ source ∈ node.sources,
      (Computed.tableOf computed source).isFaulted = false := by
    intro source hsource
    by_contra hfaulted
    rw [hturn.calls_eq_nil hsource (by simpa using hfaulted)] at hcall
    cases hcall
  rw [hturn.eq_faulted_iff h hcoherent hnode hfaults]
  exact .failed fault (hturn.called.eq_some_of_mem hcall hanswer)

section Run

variable (hbuiltIn : driver.pipeline.IsBuiltIn) (hcoherent : driver.Coherent accepts)
  (hadmits : driver.Admits accepts)

include hbuiltIn hcoherent hadmits

/-- A run stops only if it is cancelled or if user code gives up. -/
theorem stop_cases {stop : Stop} (hrun : (driver.run env).result = .error stop) :
    stop = .error .cancelled ∨ ∃ panic id node, stop = .panic panic ∧
      driver.pipeline.node? id = some node ∧ driver.MayPanic id node panic := by
  obtain ⟨a, hstops, -, -⟩ := stops_of_run hbuiltIn hcoherent hadmits hrun
  cases hstops with
  | panicked panic id node a hnode hpanic => exact .inr ⟨panic, id, node, rfl, hnode, hpanic⟩
  | cancelled a htells hcancelled hreason => exact .inl rfl

variable (hcalm : ∀ panic, (driver.run env).result ≠ .error (.panic panic))

include hcalm

/-- The journal of a run tells if it was cancelled, unless user code gave up. -/
theorem tells_of_run : ∃ a : Ambient σ, a.Tells env ∧ (driver.run env).journal = a.journal ∧
    (driver.run env).env = a.env := by
  cases hrun : (driver.run env).result with
  | ok report =>
    obtain ⟨-, a, calls, notice, hturns, hjournal, henv⟩ :=
      turns_of_run hbuiltIn hcoherent hadmits hrun
    refine ⟨a.note (.noticed notice), hturns.tells.note rfl, ?_, henv⟩
    rw [hjournal, Ambient.journal_note]
  | error stop =>
    obtain ⟨a, hstops, hjournal, henv⟩ := stops_of_run hbuiltIn hcoherent hadmits hrun
    cases hstops with
    | panicked panic id node a hnode hpanic => exact absurd hrun (hcalm panic)
    | cancelled a htells hcancelled hreason => exact ⟨a, htells, hjournal, henv⟩

/-- A run stops with a cancellation exactly if it was cancelled before it began, or by a
part of a node that a check comes after. -/
theorem cancelled_iff (hsize : 0 < driver.pipeline.size) :
    (driver.run env).result = .error (.error .cancelled) ↔ env.cancelled = true ∨
      ∃ id signaller, .cancelled id signaller ∈ (driver.run env).journal ∧
        driver.pipeline.Interrupts id signaller := by
  cases hrun : (driver.run env).result with
  | ok report =>
    obtain ⟨hcompletes, a, calls, notice, hturns, hjournal, -⟩ :=
      turns_of_run hbuiltIn hcoherent hadmits hrun
    refine ⟨nofun, ?_⟩
    rintro (hfirst | ⟨id, signaller, hmem, hinterrupts⟩)
    · -- The first node would have found the run cancelled.
      have hnonempty : report.computed ≠ [] :=
        List.ne_nil_of_length_pos (length_of_nodes hcompletes.nodes ▸ hsize)
      rw [hturns.started hnonempty] at hfirst
      cases hfirst
    · rw [hjournal, List.mem_append, List.mem_singleton] at hmem
      rcases hmem with hmem | hnotice
      · exact absurd hinterrupts (hturns.not_interrupts hcompletes hmem)
      · cases hnotice
  | error stop =>
    obtain ⟨a, hstops, hjournal, -⟩ := stops_of_run hbuiltIn hcoherent hadmits hrun
    cases hstops with
    | panicked panic id node a hnode hpanic => exact absurd hrun (hcalm panic)
    | cancelled a htells hcancelled hreason => exact ⟨fun _ => hjournal ▸ hreason, fun _ => rfl⟩

/-- A run that nothing stops completes. -/
theorem exists_report_of_not (hsize : 0 < driver.pipeline.size)
    (hnot : ¬ (env.cancelled = true ∨ ∃ id signaller,
      .cancelled id signaller ∈ (driver.run env).journal ∧
        driver.pipeline.Interrupts id signaller)) :
    ∃ report, (driver.run env).result = .ok report := by
  cases hrun : (driver.run env).result with
  | ok report => exact ⟨report, rfl⟩
  | error stop =>
    exfalso
    rcases stop_cases hbuiltIn hcoherent hadmits hrun with rfl | ⟨panic, _, _, rfl, -, -⟩
    · exact hnot ((cancelled_iff hbuiltIn hcoherent hadmits hcalm hsize).mp hrun)
    · exact hcalm panic hrun

end Run

/-- After any history a run of a pipeline with nodes completes, or stops as it was
cancelled, or user code gave up. In a run that completes a call that gave a fault made its
node faulted, also if the cause of the fault is a cancellation.

Where no user code gives up, the run stops exactly if it was cancelled before it began, or
during a call of a function, or by a comparer of a node that is not the last one, or of a
transform or a combine. What else cancels it lets it complete. The journal tells of every
cancellation, and after it of no call. -/
theorem cancellation_after {pipeline : Pipeline σ} (hbuiltIn : pipeline.IsBuiltIn)
    (hsize : 0 < pipeline.size) (tracksSteps : Bool) (ops : List (Operation σ)) (env : Env σ) :
    let driver := (fresh pipeline tracksSteps).after ops
    let ran := driver.run env
    (∀ stop, ran.result = .error stop → stop = .error .cancelled ∨
      ∃ panic id node, stop = .panic panic ∧ pipeline.node? id = some node ∧
        driver.MayPanic id node panic) ∧
    (∀ report, ran.result = .ok report → ∃ calls, driver.CallsOf env ran.journal calls ∧
      ∀ id node, pipeline.node? id = some node → ∀ call ∈ calls id, ∀ fault,
        call.answer = .error fault → report.find? id = some (.faulted fault)) ∧
    ((∀ panic, ran.result ≠ .error (.panic panic)) →
      (ran.result = .error (.error .cancelled) ↔ env.cancelled = true ∨
        ∃ id signaller, .cancelled id signaller ∈ ran.journal ∧
          pipeline.Interrupts id signaller) ∧
      (∀ id signaller, .cancelled id signaller ∈ ran.journal →
        ¬ pipeline.Interrupts id signaller → ∃ report, ran.result = .ok report) ∧
      (ran.env.cancelled = false → ∃ report, ran.result = .ok report) ∧
      (ran.env.cancelled = true ↔ env.cancelled = true ∨
        ∃ id signaller, .cancelled id signaller ∈ ran.journal) ∧
      (env.cancelled = true → ∀ event ∈ ran.journal, event.isNote = true) ∧
      ran.journal.Pairwise fun earlier later =>
        earlier.isCancelled = true → later.isNote = true) := by
  intro driver ran
  have hpipeline : driver.pipeline = pipeline := pipeline_after ops
  have hcoherent : driver.Coherent fun _ _ _ => True :=
    coherent_of_history hbuiltIn tracksSteps ops
  have hadmits := admits_true driver
  rw [← hpipeline] at hbuiltIn hsize ⊢
  have hstops : ∀ stop, ran.result = .error stop → _ := fun stop =>
    stop_cases hbuiltIn hcoherent hadmits
  refine ⟨hstops, ?_, fun hcalm => ?_⟩
  · intro report hrun
    obtain ⟨hcompletes, a, calls, notice, hturns, hjournal, -⟩ :=
      turns_of_run hbuiltIn hcoherent hadmits hrun
    refine ⟨calls, hjournal ▸ hturns.callsOf hcompletes notice, ?_⟩
    intro id node hnode call hcall fault hanswer
    have hturn := hturns.turn id node hnode (hcompletes.lt_length hnode)
    exact Report.find?_eq_faulted_iff.mpr
      (hturn.eq_faulted_of_answer hcompletes hcoherent hnode hcall hanswer)
  · obtain ⟨a, htells, hjournal, henv⟩ := tells_of_run hbuiltIn hcoherent hadmits hcalm
    have hcancelled := cancelled_iff hbuiltIn hcoherent hadmits hcalm hsize
    have hcompletes := exists_report_of_not hbuiltIn hcoherent hadmits hcalm hsize
    rw [hjournal] at hcancelled hcompletes
    rw [show ran.journal = a.journal from hjournal, show ran.env = a.env from henv]
    refine ⟨hcancelled, fun id signaller hmem hlate => hcompletes ?_,
      fun hlive => hcompletes ?_, htells.flag, htells.idle, htells.ordered⟩
    · -- The run was cancelled once, and this did not stop it.
      rintro (hfirst | ⟨other, signaller', hother, hinterrupts⟩)
      · cases htells.idle hfirst _ hmem
      · obtain ⟨rfl, rfl⟩ := htells.eq_of_mem hmem hother
        exact hlate hinterrupts
    · rintro (hfirst | ⟨other, signaller, hmem, -⟩)
      · rw [htells.flag.mpr (.inl hfirst)] at hlive
        cases hlive
      · rw [htells.flag.mpr (.inr ⟨other, signaller, hmem⟩)] at hlive
        cases hlive

/-- The comparer of the negations cancels a run in which one of them changed, and the run
stops. -/
theorem cancellation_after_sample :
    Sample.pipeline.IsBuiltIn ∧ 0 < Sample.pipeline.size ∧
      (∀ panic, (Sample.interrupting.run ⟨(), false⟩).result ≠ .error (.panic panic)) ∧
      .cancelled ⟨1⟩ .comparer ∈ (Sample.interrupting.run ⟨(), false⟩).journal ∧
      (Sample.interrupting.run ⟨(), false⟩).result = .error (.error .cancelled) := by
  have hcalm : ∀ panic, (Sample.interrupting.run ⟨(), false⟩).result ≠ .error (.panic panic) := by
    have hstop : (match (Sample.interrupting.run ⟨(), false⟩).result with
        | .error (.panic _) => true
        | _ => false) = false := by
      decide +kernel
    intro panic hpanic
    rw [hpanic] at hstop
    cases hstop
  have hsize : 0 < Sample.pipeline.size := by decide
  have hmem : .cancelled ⟨1⟩ .comparer ∈ (Sample.interrupting.run ⟨(), false⟩).journal := by
    decide +kernel
  obtain ⟨-, -, hcancels⟩ :=
    cancellation_after Sample.isBuiltIn hsize false Sample.interruption ⟨(), false⟩
  exact ⟨Sample.isBuiltIn, hsize, hcalm, hmem, (hcancels hcalm).1.mpr
    (.inr ⟨⟨1⟩, .comparer, hmem, .inr (.inl (by decide))⟩)⟩

end Driver

end DeltaPipeline
