import DeltaPipeline.Update.Step

/-!
# `DeltaPipeline.Update.Lemmas`: how the steps of updates run

A step is seen through what it gives and leaves when run: `m.run.run a` is its
answer, or why it stopped, and the ambient after it. One equation for each step
says what that is.

* `StepM.run_bind`: one step after the other.
* `StepM.run_check`, `StepM.run_record`, `StepM.run_changeEnv`, `StepM.run_work`,
  `StepM.run_observe_of_spares`, `StepM.run_reviseOrAdd_of_spares`, `StepM.run_publish`,
  `StepM.run_failWith`: the single steps.
-/

set_option autoImplicit false

namespace DeltaPipeline

namespace StepM

variable {σ α β : Type}

/-- A step that stops keeps the next one from running. -/
theorem run_bind (m : StepM σ α) (f : α → StepM σ β) (a : Ambient σ) :
    (m >>= f).run.run a = match m.run.run a with
      | (.ok answer, b) => (f answer).run.run b
      | (.error stop, b) => (.error stop, b) := by
  simp only [ExceptT.run_bind, StateT.run_bind]
  show (match m.run.run a with | (_, _) => _) = _
  rcases m.run.run a with ⟨_ | _, _⟩ <;> rfl

/-- A check changes nothing and stops exactly if the run is cancelled. -/
@[simp] theorem run_check (a : Ambient σ) :
    (check : StepM σ Unit).run.run a
      = (if a.env.cancelled then .error (.error .cancelled) else .ok (), a) := by
  unfold check
  rw [run_bind]
  show (if a.env.cancelled = true then throw (.error .cancelled) else pure () :
    StepM σ Unit).run.run a = _
  split <;> rfl

/-- An event is noted and no more. -/
@[simp] theorem run_record (event : Event) (a : Ambient σ) :
    (record event : StepM σ Unit).run.run a
      = (.ok (), a.note event) := rfl

/-- The journal after a part of a node has worked: it tells if the run was
cancelled meanwhile. -/
def watched (node : NodeId) (signaller : Signaller) (before : Env σ) (a : Ambient σ) :
    Ambient σ :=
  if !before.cancelled && a.env.cancelled then a.note (.cancelled node signaller) else a

/-- An entry of the journal changes nothing else. -/
@[simp] theorem env_watched (node : NodeId) (signaller : Signaller) (before : Env σ)
    (a : Ambient σ) : (watched node signaller before a).env = a.env := by
  unfold watched
  split <;> rfl

/-- Watching never stops. -/
@[simp] theorem run_watch (node : NodeId) (signaller : Signaller) (before : Env σ)
    (a : Ambient σ) :
    (watch node signaller before : StepM σ Unit).run.run a
      = (.ok (), watched node signaller before a) := by
  unfold watch watched
  rw [run_bind]
  show (if !before.cancelled && a.env.cancelled then record (.cancelled node signaller)
    else pure () : StepM σ Unit).run.run a = _
  split <;> rfl

/-- A change of the environment gives it as it was before. -/
theorem run_changeEnv (node : NodeId) (change : Env σ → Env σ) (a : Ambient σ) :
    (changeEnv node change).run.run a
      = (.ok a.env, watched node .program a.env { a with env := change a.env }) := by
  unfold changeEnv
  rw [run_bind]
  show (modify (fun _ => _) >>= fun _ => _ : StepM σ (Env σ)).run.run a = _
  rw [run_bind]
  show (watch node .program a.env >>= fun _ => _ : StepM σ (Env σ)).run.run
    { a with env := change a.env } = _
  rw [run_bind, run_watch]
  rfl

/-- Host code works on the environment alone. -/
theorem run_work (node : NodeId) (signaller : Signaller) (code : UserCode σ α) (a : Ambient σ) :
    (work node signaller code).run.run a
      = ((code.run.run a.env).1.mapError .panic,
          watched node signaller a.env { a with env := (code.run.run a.env).2 }) := by
  unfold work
  rw [run_bind]
  show (modify (fun _ => _) >>= fun _ => _ : StepM σ α).run.run a = _
  rw [run_bind]
  show (watch node signaller a.env >>= fun _ => _ : StepM σ α).run.run
    { a with env := (code.run.run a.env).2 } = _
  rw [run_bind, run_watch]
  dsimp only
  split
  · next value hvalue =>
    have hanswer : (code.run.run a.env).1 = .ok value := hvalue
    rw [hanswer]
    rfl
  · next panic hpanic =>
    have hanswer : (code.run.run a.env).1 = .error panic := hpanic
    rw [hanswer]
    rfl

/-- User code runs in the environment and is watched, also where it panics. -/
theorem run_perform (node : NodeId) (code : UserCode σ α) (a : Ambient σ) :
    (perform node code).run.run a
      = ((code.run.run a.env).1.mapError .panic,
          watched node .function a.env { a with env := (code.run.run a.env).2 }) :=
  run_work node .function code a

/-- A comparison runs in the environment and is watched, also where it panics. -/
theorem run_observeOne (node : NodeId) (comparer : Comparer σ) (previous current : Value)
    (a : Ambient σ) :
    (observeOne node comparer previous current).run.run a
      = (((comparer.effect previous current).run.run a.env).1.mapError .panic,
          watched node .comparer a.env
            { a with env := ((comparer.effect previous current).run.run a.env).2 }) :=
  run_work node .comparer (comparer.effect previous current) a

/-- Where the flag stays as it was, there is nothing to tell of it. -/
theorem watched_of_spares {a : Ambient σ} {env : Env σ} (h : env.cancelled = a.env.cancelled)
    (node : NodeId) (signaller : Signaller) :
    watched node signaller a.env { a with env } = { a with env } := by
  unfold watched
  dsimp only
  rw [h, Bool.not_and_self, if_neg Bool.false_ne_true]

/-- Comparing pairs none of which cancels the run changes the environment only. It goes on
unless it gives up at one of them. -/
theorem run_observe_of_spares (node : NodeId) (comparer : Comparer σ)
    {pairs : List (Value × Value)} (hspares : ∀ pair ∈ pairs, comparer.SparesRun pair)
    (a : Ambient σ) :
    (observe node comparer pairs).run.run a
      = (((comparer.effects pairs).run.run a.env).1.mapError .panic,
          { a with env := ((comparer.effects pairs).run.run a.env).2 }) := by
  induction pairs generalizing a with
  | nil => rfl
  | cons pair pairs ih =>
    have hfirst := watched_of_spares (hspares pair (by simp) a.env) node .comparer
    have hrest := ih fun later hlater => hspares later (by simp [hlater])
    show (observeOne node comparer pair.1 pair.2 >>= fun _ => observe node comparer pairs).run.run
      a = _
    rw [run_bind, run_observeOne, hfirst, Comparer.run_effects_cons]
    rcases (comparer.effect pair.1 pair.2).run.run a.env with ⟨panic | _, env⟩
    · rfl
    · exact hrest { a with env }

/-- Revising by pairs none of which cancels the run compares them, and then revises the draft. -/
theorem run_reviseOrAdd_of_spares (node : NodeId) (comparer : Comparer σ) (draft : Draft Value)
    (values : List Value)
    (hspares : ∀ pair ∈ draft.comparisons values, comparer.SparesRun pair) (a : Ambient σ) :
    (reviseOrAdd node comparer draft values).run.run a
      = match (comparer.effects (draft.comparisons values)).run.run a.env with
        | (.ok (), env) => (.ok (draft.reviseOrAdd comparer.equals values), { a with env })
        | (.error panic, env) => (.error (.panic panic), { a with env }) := by
  unfold reviseOrAdd
  rw [run_bind, run_observe_of_spares node comparer hspares]
  rcases (comparer.effects (draft.comparisons values)).run.run a.env with ⟨panic | _, env⟩ <;> rfl

/-- Finishing a draft gives its table and logs its remarks. -/
theorem run_publish (draft : Draft Value) (a : Ambient σ) :
    (publish draft : StepM σ (Table Value)).run.run a
      = (.ok draft.finish,
          draft.finalRemarks.foldl (fun b remark => b.note (.noticed (.written remark))) a) := by
  have hforM : ∀ (remarks : List Draft.Remark) (a : Ambient σ),
      (remarks.forM fun remark => notice (.written remark) : StepM σ PUnit).run.run a
        = (.ok PUnit.unit,
            remarks.foldl (fun b remark => b.note (.noticed (.written remark))) a) := by
    intro remarks
    induction remarks with
    | nil => intro a; rfl
    | cons remark remarks ih =>
      intro a
      show (notice (.written remark) >>= fun _ =>
        remarks.forM fun remark => notice (.written remark) : StepM σ PUnit).run.run a = _
      rw [run_bind]
      exact ih (a.note (.noticed (.written remark)))
  unfold publish
  rw [run_bind, hforM]
  rfl

/-- A failure is reported unless the run is cancelled. -/
theorem run_failWith (node : NodeId) (fault : Fault) (a : Ambient σ) :
    (failWith node fault : StepM σ Product).run.run a
      = if a.env.cancelled then (.error (.error .cancelled), a)
        else (.ok (.table (.faulted fault)), a.note (.noticed (.raised node fault))) := by
  unfold failWith
  rw [run_bind, run_check]
  by_cases h : a.env.cancelled = true
  · simp only [h, if_true]
  · rw [if_neg h, if_neg h]
    rfl

end StepM

end DeltaPipeline
