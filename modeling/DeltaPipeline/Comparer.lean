import DeltaPipeline.Node.UserCode
import DeltaPipeline.Value.Basic

/-!
# `DeltaPipeline.Comparer`: when an output counts as unchanged

A comparer decides whether a new value counts as the value its node had before.
Which values count as unchanged is a relation between the two, whatever relation
the host likes: a comparer that accepts only equal values is sound, but nothing
here asks for that. What comparing does besides deciding is host code, which may
keep a state of its own, cancel the run or give up, but not take a cancellation
back.

* `Comparer.structural`: equality.
* `Comparer.Sound`: the comparer accepts equal values only.
* `Comparer.Quiet`: comparing neither cancels a run nor gives up.
* `Comparer.effects`: what comparing several pairs does besides deciding.
* `Comparer.Leads`: an environment that comparisons lead to.
-/

set_option autoImplicit false

namespace DeltaPipeline

/-- Decides whether a value counts as unchanged. The value of the run before
comes first. -/
structure Comparer (σ : Type) where
  equals : Value → Value → Bool
  /-- What comparing the two does besides deciding. -/
  effect : Value → Value → UserCode σ Unit := fun _ _ => return ()
  /-- A run that was cancelled stays so. -/
  cancelled_effect : ∀ previous current env, env.cancelled = true →
    ((effect previous current).run.run env).2.cancelled = true := by exact fun _ _ _ h => h

namespace Comparer

variable {σ : Type}

/-- Values are unchanged if they are equal. -/
def structural : Comparer σ where
  equals previous current := previous == current

/-- The comparer accepts no two different values. -/
def Sound (comparer : Comparer σ) : Prop :=
  ∀ previous current, comparer.equals previous current = true → previous = current

/-- Structural comparison is sound. -/
theorem structural_sound : (structural : Comparer σ).Sound := fun previous current h => by
  simpa [structural] using h

/-- Comparing these two leaves the cancellation flag alone. -/
def SparesRun (comparer : Comparer σ) (pair : Value × Value) : Prop :=
  ∀ env, ((comparer.effect pair.1 pair.2).run.run env).2.cancelled = env.cancelled

/-- Comparing leaves the cancellation flag alone. -/
def NeverCancels (comparer : Comparer σ) : Prop :=
  ∀ pair, comparer.SparesRun pair

/-- Comparing never gives up. -/
def NeverPanics (comparer : Comparer σ) : Prop :=
  ∀ previous current env, ((comparer.effect previous current).run.run env).1 = .ok ()

/-- Whether comparing two values gives up, and how, depends on the two alone. -/
def PanicsAlike (comparer : Comparer σ) : Prop :=
  ∀ previous current env env', ((comparer.effect previous current).run.run env).1
    = ((comparer.effect previous current).run.run env').1

/-- A comparer that never gives up does so everywhere. -/
theorem NeverPanics.panicsAlike {comparer : Comparer σ} (h : comparer.NeverPanics) :
    comparer.PanicsAlike := fun previous current env env' =>
  (h previous current env).trans (h previous current env').symm

/-- Comparing neither cancels a run nor gives up. -/
structure Quiet (comparer : Comparer σ) : Prop where
  neverCancels : comparer.NeverCancels
  neverPanics : comparer.NeverPanics

/-- Structural comparison is quiet. -/
theorem structural_quiet : (structural : Comparer σ).Quiet :=
  ⟨fun _ _ => rfl, fun _ _ _ => rfl⟩

/-! ### Several pairs -/

/-- What comparing these pairs in order does besides deciding. -/
def effects (comparer : Comparer σ) : List (Value × Value) → UserCode σ Unit
  | [] => return ()
  | (previous, current) :: pairs => do
    comparer.effect previous current
    comparer.effects pairs

/-- Nothing compared changes nothing. -/
@[simp] theorem run_effects_nil (comparer : Comparer σ) (env : Env σ) :
    (comparer.effects []).run.run env = (.ok (), env) := rfl

/-- The first pair is compared first, and may end it. -/
theorem run_effects_cons (comparer : Comparer σ) (pair : Value × Value)
    (pairs : List (Value × Value)) (env : Env σ) :
    (comparer.effects (pair :: pairs)).run.run env
      = match (comparer.effect pair.1 pair.2).run.run env with
        | (.ok (), after) => (comparer.effects pairs).run.run after
        | (.error panic, after) => (.error panic, after) := by
  show (comparer.effect pair.1 pair.2 >>= fun _ => comparer.effects pairs).run.run env = _
  rw [ExceptT.run_bind, StateT.run_bind]
  show (match (comparer.effect pair.1 pair.2).run.run env with | (_, _) => _) = _
  rcases (comparer.effect pair.1 pair.2).run.run env with ⟨_ | _, _⟩ <;> rfl

/-- A single pair is compared as it is. -/
theorem run_effects_singleton (comparer : Comparer σ) (pair : Value × Value) (env : Env σ) :
    (comparer.effects [pair]).run.run env = (comparer.effect pair.1 pair.2).run.run env := by
  rw [run_effects_cons]
  rcases (comparer.effect pair.1 pair.2).run.run env with ⟨_ | _, _⟩ <;> rfl

/-- A run is live before a comparison if it is after it. -/
theorem live_of_run (comparer : Comparer σ) {previous current : Value} {env after : Env σ}
    {answer : Except Panic Unit}
    (hrun : (comparer.effect previous current).run.run env = (answer, after))
    (hlive : after.cancelled = false) : env.cancelled = false := by
  cases hflag : env.cancelled with
  | false => rfl
  | true =>
    have hafter := comparer.cancelled_effect previous current env hflag
    rw [hrun, hlive] at hafter
    cases hafter

/-- Comparisons in two parts go on from where the first part leads. -/
theorem run_effects_append (comparer : Comparer σ) (first rest : List (Value × Value))
    {env between : Env σ} (hfirst : (comparer.effects first).run.run env = (.ok (), between)) :
    (comparer.effects (first ++ rest)).run.run env = (comparer.effects rest).run.run between := by
  induction first generalizing env with
  | nil =>
    cases hfirst
    rfl
  | cons pair first ih =>
    rw [run_effects_cons] at hfirst
    rw [List.cons_append, run_effects_cons]
    rcases hrun : (comparer.effect pair.1 pair.2).run.run env with ⟨_ | _, after⟩
    · rw [hrun] at hfirst
      cases hfirst
    · rw [hrun] at hfirst
      exact ih hfirst

/-- Comparisons lead from the first environment to the second. -/
def Leads (comparer : Comparer σ) (env after : Env σ) : Prop :=
  ∃ pairs, (comparer.effects pairs).run.run env = (.ok (), after)

/-- No comparisons lead to the same environment. -/
theorem Leads.refl (comparer : Comparer σ) (env : Env σ) : comparer.Leads env env :=
  ⟨[], rfl⟩

/-- Comparisons after comparisons lead on. -/
theorem Leads.trans {comparer : Comparer σ} {env between after : Env σ}
    (h : comparer.Leads env between) (h' : comparer.Leads between after) :
    comparer.Leads env after := by
  obtain ⟨first, hfirst⟩ := h
  obtain ⟨rest, hrest⟩ := h'
  exact ⟨first ++ rest, (comparer.run_effects_append first rest hfirst).trans hrest⟩

/-- One comparison leads to what it leaves. -/
theorem Leads.of_run {comparer : Comparer σ} {previous current : Value} {env after : Env σ}
    (hrun : (comparer.effect previous current).run.run env = (.ok (), after)) :
    comparer.Leads env after := by
  refine ⟨[(previous, current)], ?_⟩
  rw [run_effects_cons, hrun]
  rfl

end Comparer

end DeltaPipeline
