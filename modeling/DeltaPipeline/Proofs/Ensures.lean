import DeltaPipeline.Proofs.Calls
import DeltaPipeline.Update.Batch
import DeltaPipeline.Update.Lemmas

/-!
# `DeltaPipeline.Proofs.Ensures`: what the steps of a run ensure

A step of an update or of a run either answers or stops, and leaves a state in
both cases. `Ensures m s answered stopped` says of the step `m` run from the state
`s` that its answer and the state it leaves are as `answered` says, or the reason
it stopped for and the state as `stopped` says.

* `Ensures.bind`, `Ensures.mono`: one step after the other, and less to ensure.
* `ensures_check`, `ensures_perform`, `ensures_observe`, `ensures_publish`: the
  single steps.
-/

set_option autoImplicit false

namespace DeltaPipeline

/-! ### Steps that answer or stop -/

namespace Stoppable

variable {S α β : Type}

/-- One step after the other. If the first one stops, so do both. -/
theorem run_bind (m : ExceptT Stop (StateM S) α) (f : α → ExceptT Stop (StateM S) β) (s : S) :
    (m >>= f).run.run s = match m.run.run s with
      | (.ok answer, t) => (f answer).run.run t
      | (.error stop, t) => (.error stop, t) := by
  simp only [ExceptT.run_bind, StateT.run_bind]
  show (match m.run.run s with | (_, _) => _) = _
  rcases m.run.run s with ⟨_ | _, _⟩ <;> rfl

/-- Where both answer, so does the first one, and then the second. -/
theorem exists_run_of_bind {m : ExceptT Stop (StateM S) α}
    {f : α → ExceptT Stop (StateM S) β} {s u : S} {answer : β}
    (h : (m >>= f).run.run s = (.ok answer, u)) :
    ∃ first t, m.run.run s = (.ok first, t) ∧ (f first).run.run t = (.ok answer, u) := by
  rw [run_bind] at h
  cases hrun : m.run.run s with
  | mk result t =>
    rw [hrun] at h
    cases result with
    | ok first => exact ⟨first, t, rfl, h⟩
    | error stop => cases h

/-- A stop is handed over together with the state it left. -/
theorem run_tryCatch (m : ExceptT Stop (StateM S) α)
    (handle : Stop → ExceptT Stop (StateM S) α) (s : S) :
    (tryCatch m handle).run.run s = match m.run.run s with
      | (.ok answer, t) => (.ok answer, t)
      | (.error stop, t) => (handle stop).run.run t := by
  show (ExceptT.tryCatch m handle).run.run s = _
  unfold ExceptT.tryCatch
  rw [ExceptT.run_mk]
  show (m.run >>= _ : StateM S (Except Stop α)).run s = _
  rw [StateT.run_bind]
  show (match m.run.run s with | (_, _) => _) = _
  rcases m.run.run s with ⟨_ | _, _⟩ <;> rfl

/-- A step whose answer is not needed. -/
theorem run_discard (m : ExceptT Stop (StateM S) α) (s : S) :
    (discard m).run.run s = match m.run.run s with
      | (.ok _, t) => (.ok (), t)
      | (.error stop, t) => (.error stop, t) := by
  show ((fun _ => ()) <$> m).run.run s = _
  rw [ExceptT.run_map, StateT.run_map]
  show (match m.run.run s with | (_, _) => _) = _
  rcases m.run.run s with ⟨_ | _, _⟩ <;> rfl

end Stoppable

/-- Run from this state, the step answers or stops as described. -/
def Ensures {S α : Type} (m : ExceptT Stop (StateM S) α) (s : S)
    (answered : α → S → Prop) (stopped : Stop → S → Prop) : Prop :=
  match m.run.run s with
  | (.ok answer, t) => answered answer t
  | (.error stop, t) => stopped stop t

namespace Ensures

variable {S α β : Type} {s : S} {stopped : Stop → S → Prop}

/-- A step that answered did so as described. -/
theorem of_ok {m : ExceptT Stop (StateM S) α} {answered : α → S → Prop} {answer : α} {t : S}
    (h : Ensures m s answered stopped) (hrun : m.run.run s = (.ok answer, t)) :
    answered answer t := by
  unfold Ensures at h
  rw [hrun] at h
  exact h

/-- A step that stopped did so as described. -/
theorem of_error {m : ExceptT Stop (StateM S) α} {answered : α → S → Prop} {stop : Stop} {t : S}
    (h : Ensures m s answered stopped) (hrun : m.run.run s = (.error stop, t)) :
    stopped stop t := by
  unfold Ensures at h
  rw [hrun] at h
  exact h

/-- What a step ensures may be read off its two ways to end. -/
theorem intro {m : ExceptT Stop (StateM S) α} {answered : α → S → Prop}
    (hok : ∀ answer t, m.run.run s = (.ok answer, t) → answered answer t)
    (herror : ∀ stop t, m.run.run s = (.error stop, t) → stopped stop t) :
    Ensures m s answered stopped := by
  unfold Ensures
  split
  · exact hok _ _ ‹_›
  · exact herror _ _ ‹_›

/-- An answer given at once leaves the state. -/
theorem of_pure {answer : α} {answered : α → S → Prop} (h : answered answer s) :
    Ensures (pure answer : ExceptT Stop (StateM S) α) s answered stopped := h

/-- A step that ensures something ensures all that follows from it. -/
theorem mono {m : ExceptT Stop (StateM S) α} {answered answered' : α → S → Prop}
    {stopped' : Stop → S → Prop} (h : Ensures m s answered stopped)
    (hok : ∀ answer t, answered answer t → answered' answer t)
    (herror : ∀ stop t, stopped stop t → stopped' stop t) :
    Ensures m s answered' stopped' :=
  intro (fun answer t hrun => hok answer t (h.of_ok hrun))
    (fun stop t hrun => herror stop t (h.of_error hrun))

/-- A step ensures together what it ensures apart. -/
theorem and {m : ExceptT Stop (StateM S) α} {answered answered' : α → S → Prop}
    {stopped' : Stop → S → Prop} (h : Ensures m s answered stopped)
    (h' : Ensures m s answered' stopped') :
    Ensures m s (fun answer t => answered answer t ∧ answered' answer t)
      (fun stop t => stopped stop t ∧ stopped' stop t) :=
  intro (fun _ _ hrun => ⟨h.of_ok hrun, h'.of_ok hrun⟩)
    fun _ _ hrun => ⟨h.of_error hrun, h'.of_error hrun⟩

/-- What is the same to say of an end of a step is the same to ensure of it. -/
theorem congr {m : ExceptT Stop (StateM S) α} {answered answered' : α → S → Prop}
    {stopped' : Stop → S → Prop} (hok : ∀ answer t, answered answer t ↔ answered' answer t)
    (herror : ∀ stop t, stopped stop t ↔ stopped' stop t) :
    Ensures m s answered stopped ↔ Ensures m s answered' stopped' :=
  ⟨fun h => h.mono (fun answer t => (hok answer t).mp) fun stop t => (herror stop t).mp,
    fun h => h.mono (fun answer t => (hok answer t).mpr) fun stop t => (herror stop t).mpr⟩

/-- One step after the other. If the first one stops, so do both. -/
theorem bind_iff {m : ExceptT Stop (StateM S) α} {f : α → ExceptT Stop (StateM S) β}
    {answered : β → S → Prop} :
    Ensures (m >>= f) s answered stopped
      ↔ Ensures m s (fun answer t => Ensures (f answer) t answered stopped) stopped := by
  unfold Ensures
  rw [Stoppable.run_bind]
  rcases m.run.run s with ⟨_ | _, _⟩ <;> rfl

/-- What holds between two steps carries the second one. -/
theorem bind {m : ExceptT Stop (StateM S) α} {f : α → ExceptT Stop (StateM S) β}
    {I : α → S → Prop} {answered : β → S → Prop}
    (hm : Ensures m s I stopped)
    (hf : ∀ answer t, I answer t → Ensures (f answer) t answered stopped) :
    Ensures (m >>= f) s answered stopped :=
  bind_iff.mpr (hm.mono hf fun _ _ h => h)

/-- A step whose stop is handled. -/
theorem tryCatch_iff {m : ExceptT Stop (StateM S) α}
    {handle : Stop → ExceptT Stop (StateM S) α} {answered : α → S → Prop} :
    Ensures (tryCatch m handle) s answered stopped
      ↔ Ensures m s answered (fun stop t => Ensures (handle stop) t answered stopped) := by
  unfold Ensures
  rw [Stoppable.run_tryCatch]
  rcases m.run.run s with ⟨_ | _, _⟩ <;> rfl

/-- A step whose answer is not needed. -/
theorem discard_iff {m : ExceptT Stop (StateM S) α} {answered : Unit → S → Prop} :
    Ensures (discard m) s answered stopped
      ↔ Ensures m s (fun _ t => answered () t) stopped := by
  unfold Ensures
  rw [Stoppable.run_discard]
  rcases m.run.run s with ⟨_ | _, _⟩ <;> rfl

end Ensures

/-! ### The steps of updates -/

section Steps

variable {σ α : Type} {a : Ambient σ} {stopped : Stop → Ambient σ → Prop}

/-- A check stops exactly where the token is cancelled. -/
theorem ensures_check_iff {answered : Unit → Ambient σ → Prop} :
    Ensures (StepM.check : StepM σ Unit) a answered stopped
      ↔ if a.env.cancelled then stopped (.error .cancelled) a else answered () a := by
  unfold Ensures
  rw [StepM.run_check]
  by_cases h : a.env.cancelled = true
  · rw [if_pos h, if_pos h]
  · rw [if_neg h, if_neg h]

/-- A check is settled by what holds on either side of the token. -/
theorem ensures_check {answered : Unit → Ambient σ → Prop}
    (hcancelled : a.env.cancelled = true → stopped (.error .cancelled) a)
    (hlive : answered () a) : Ensures (StepM.check : StepM σ Unit) a answered stopped := by
  rw [ensures_check_iff]
  by_cases h : a.env.cancelled = true
  · rw [if_pos h]
    exact hcancelled h
  · rw [if_neg h]
    exact hlive

/-- An event that is noted is noted and no more. -/
theorem ensures_record {event : Event} {answered : Unit → Ambient σ → Prop}
    (h : answered () (a.note event)) :
    Ensures (StepM.record event : StepM σ Unit) a answered stopped := h

/-- What user code answered is among what it may give. -/
theorem Ensures.perform_mayGive {node : NodeId} {code : UserCode σ α}
    {answered : α → Ambient σ → Prop}
    (h : Ensures (StepM.perform node code) a answered stopped) :
    Ensures (StepM.perform node code) a (fun answer b => answered answer b ∧ code.MayGive answer)
      stopped := by
  refine Ensures.intro (fun answer b hrun => ⟨h.of_ok hrun, ?_⟩) fun stop b => h.of_error
  -- The step answers with what the code answers in the environment of this state.
  rw [StepM.run_perform] at hrun
  cases hcode : code.run.run a.env with
  | mk result after =>
    rw [hcode] at hrun
    cases result with
    | error panic => cases hrun
    | ok given =>
      cases hrun
      exact ⟨a.env, after, hcode⟩

/-- Comparing pairs ensures what comparing each of them does. -/
theorem ensures_observe {node : NodeId} {comparer : Comparer σ} {holds : Ambient σ → Prop} :
    ∀ (pairs : List (Value × Value)) {a : Ambient σ},
      (∀ pair ∈ pairs, ∀ b, holds b →
        Ensures (StepM.observeOne node comparer pair.1 pair.2) b (fun _ => holds) stopped) →
      holds a → Ensures (StepM.observe node comparer pairs) a (fun _ => holds) stopped
  | [], _, _, ha => Ensures.of_pure ha
  | (previous, current) :: rest, a, hpairs, ha =>
    Ensures.bind (hpairs (previous, current) (by simp) a ha) fun _ _ hb =>
      ensures_observe rest (fun pair hpair => hpairs pair (by simp [hpair])) hb

/-- A draft that leaves nothing to remark on is finished without a message. -/
theorem ensures_publish {draft : Draft Value} {answered : Table Value → Ambient σ → Prop}
    (hpending : draft.pending = []) (hremarks : draft.remarks = [])
    (h : answered draft.finish a) :
    Ensures (StepM.publish draft) a answered stopped := by
  unfold Ensures
  rw [StepM.run_publish]
  simpa [Draft.finalRemarks, hpending, hremarks] using h

end Steps

/-! ### The function of a batch -/

section Apply

variable {σ : Type} (node : NodeId) (values : List Value)

/-- A function that gives one value is called for a list of one. -/
theorem Batch.run_apply_one (f : List Value → UserCode σ (Except Fault Value)) (a : Ambient σ) :
    (Batch.apply (.one f) node values).run.run a
      = (StepM.invoke node (.list values) ((Reduction.one f).call values)).run.run a := by
  unfold Batch.apply StepM.invoke
  rw [StepM.run_bind, StepM.run_bind, StepM.run_bind, StepM.run_record]
  simp only [StepM.run_perform]
  -- The function is run in the same environment either way. Only its answer is wrapped.
  have hcall : ∀ env, ((Reduction.one f).call values).run.run env
      = (((f values).run.run env).1.map (·.map ([·])), ((f values).run.run env).2) := fun env =>
    UserCode.run_map (f values) (·.map ([·])) env
  rw [hcall]
  rcases (f values).run.run _ with ⟨_ | _, _⟩ <;> rfl

end Apply

end DeltaPipeline
