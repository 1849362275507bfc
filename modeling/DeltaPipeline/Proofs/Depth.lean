import DeltaPipeline.Proofs.Sweep

/-!
# `DeltaPipeline.Proofs.Depth`: how many nodes may wait for one another

A run gives up when too many nodes wait for one another, and `Driver.depth` says how many
are too many. That number is a matter of the model only: a run that does not give up for
this reason goes as it does with any greater number. So the turns of custom nodes, which
nothing but the number depends on, may be put too high, and never change what a run gives.

* `Refines`: all but what is too deep goes as before.
* `Driver.pull_of_le`: pulls with a greater number.
* `Driver.visitWithin`, `Driver.visitAllWithin`: the visits of a run, with any number.
* `Driver.visitAllWithin_of_le`: greater numbers give the same visits.
* `Driver.visitAll_eq_visitAllWithin`: the visits of a run depend on its number in no other way.
-/

set_option autoImplicit false

namespace DeltaPipeline

variable {σ α β : Type}

/-- The second computation goes as the first one, unless that gives up as too deep. -/
def Refines {S : Type} (m m' : ExceptT Stop (StateM S) α) : Prop :=
  ∀ s, (m.run.run s).1 = .error .tooDeep ∨ m'.run.run s = m.run.run s

namespace Refines

variable {S : Type} {m m' : ExceptT Stop (StateM S) α}

/-- The first computation gives up as too deep, or both go the same. -/
theorem run_cases (h : Refines m m') (s : S) :
    (∃ t, m.run.run s = (.error .tooDeep, t)) ∨ m'.run.run s = m.run.run s := by
  rcases h s with hdeep | hsame
  · exact .inl ⟨(m.run.run s).2, Prod.ext hdeep rfl⟩
  · exact .inr hsame

/-- Every computation goes as itself. -/
theorem refl (m : ExceptT Stop (StateM S) α) : Refines m m :=
  fun _ => .inr rfl

/-- What gives up as too deep may go on in any way. -/
theorem of_tooDeep (m' : ExceptT Stop (StateM S) α) : Refines (throw .tooDeep) m' :=
  fun _ => .inl rfl

/-- Two steps that each go as others go together as those. -/
theorem bind {f f' : α → ExceptT Stop (StateM S) β} (h : Refines m m')
    (hf : ∀ answer, Refines (f answer) (f' answer)) : Refines (m >>= f) (m' >>= f') := by
  intro s
  rw [Stoppable.run_bind, Stoppable.run_bind]
  rcases h.run_cases s with ⟨t, hdeep⟩ | hsame
  · rw [hdeep]
    exact .inl rfl
  · rw [hsame]
    rcases m.run.run s with ⟨stop | answer, t⟩
    · exact .inr rfl
    · exact hf answer t

/-- What is too deep may be looked at on its way, but not held back. -/
theorem tryCatch {handle : Stop → ExceptT Stop (StateM S) α} (h : Refines m m')
    (hdeep : ∀ s, ((handle .tooDeep).run.run s).1 = .error .tooDeep) :
    Refines (tryCatch m handle) (MonadExcept.tryCatch m' handle) := by
  intro s
  show ((MonadExcept.tryCatch m handle).run.run s).1 = _ ∨
    (MonadExcept.tryCatch m' handle).run.run s = (MonadExcept.tryCatch m handle).run.run s
  rw [Stoppable.run_tryCatch, Stoppable.run_tryCatch]
  rcases h.run_cases s with ⟨t, hfirst⟩ | hsame
  · rw [hfirst]
    exact .inl (hdeep t)
  · exact .inr (by rw [hsame])

/-- The answer may be thrown away on both sides. -/
theorem discard (h : Refines m m') : Refines (discard m) (Functor.discard m') := by
  intro s
  show ((Functor.discard m).run.run s).1 = _ ∨
    (Functor.discard m').run.run s = (Functor.discard m).run.run s
  rw [Stoppable.run_discard, Stoppable.run_discard]
  rcases h.run_cases s with ⟨t, hdeep⟩ | hsame
  · rw [hdeep]
    exact .inl rfl
  · exact .inr (by rw [hsame])

/-- Attempts catch errors, and that a pull is too deep is none of them. -/
theorem attempt {m m' : RunM σ Computed} (h : Refines m m') : Refines m.attempt m'.attempt :=
  tryCatch (h.bind fun _ => refl _) fun _ => rfl

end Refines

/-- A program goes as it does with pulls that go on where they were too deep. -/
theorem Program.exec_refines (driver : Driver σ) (self : NodeId)
    {pull pull' : Handle → RunM σ Computed} (hpull : ∀ handle, Refines (pull handle) (pull' handle))
    (program : Program σ α) :
    Refines (program.exec driver self pull) (program.exec driver self pull') := by
  -- By induction on the program. Only its pulls are others.
  induction program with
  | done answer => exact .refl _
  | stop reason => exact .refl _
  | pull source next ih => exact (hpull source).attempt.bind ih
  | input node type next ih => exact ih _
  | override node type next ih => exact ih _
  | env change next ih => exact (Refines.refl _).bind ih
  | observe comparer pairs next ih => exact (Refines.refl _).bind fun _ => ih
  | call argument next ih => exact (Refines.refl _).bind fun _ => ih
  | publish draft next ih => exact (Refines.refl _).bind ih

namespace Driver

variable {driver : Driver σ}

section Pulls

variable {pull pull' : NodeId → RunM σ Computed}

/-- The handle is looked at before the pull, in the same way. -/
theorem pullHandle_refines (hpull : ∀ id, Refines (pull id) (pull' id)) (handle : Handle) :
    Refines (driver.pullHandle pull handle) (driver.pullHandle pull' handle) := by
  unfold pullHandle
  split
  · exact hpull handle.node
  · exact .refl _

/-- The update of a node goes as it does with pulls that go on where they were too deep. -/
theorem update_refines (hpull : ∀ id, Refines (pull id) (pull' id)) (id : NodeId)
    (node : Node σ) : Refines (driver.update pull id node) (driver.update pull' id node) := by
  unfold update
  dsimp only
  cases node.role with
  | input => exact .refl _
  | transform source function =>
    exact (Refines.refl _).bind fun _ => (hpull source).bind fun _ => .refl _
  | batch source function =>
    exact (Refines.refl _).bind fun _ => (hpull source).bind fun _ => .refl _
  | combine left right =>
    exact (Refines.refl _).bind fun _ => (hpull left).bind fun _ => (hpull right).bind fun _ =>
      .refl _
  | custom name turns program =>
    exact Program.exec_refines driver id (pullHandle_refines hpull) _

/-- A node is computed as it is with pulls that go on where they were too deep. -/
theorem compute_refines (hpull : ∀ id, Refines (pull id) (pull' id)) (id : NodeId) :
    Refines (driver.compute pull id) (driver.compute pull' id) := by
  refine (Refines.refl _).bind fun _ => ?_
  cases driver.pipeline.node? id with
  | none => exact .refl _
  | some node =>
    exact (Refines.refl _).bind fun _ => (update_refines hpull id node).bind fun _ => .refl _

end Pulls

/-- What is remembered is read in the same way on both sides. -/
theorem memoized_refines {id : NodeId} {compute compute' : RunM σ Computed}
    (h : Refines compute compute') : Refines (memoized id compute) (memoized id compute') := by
  refine (Refines.refl _).bind fun s => ?_
  cases s.find? id with
  | none => exact h
  | some computed => exact .refl _

/-- A pull goes as it does where more nodes may wait for one another. -/
theorem pull_of_le {depth depth' : Nat} (h : depth ≤ depth') (id : NodeId) :
    Refines (driver.pull depth id) (driver.pull depth' id) := by
  induction depth generalizing depth' id with
  | zero =>
    cases depth' with
    | zero => exact .refl _
    | succ depth' => exact memoized_refines (.of_tooDeep _)
  | succ depth ih =>
    obtain ⟨more, rfl⟩ := Nat.exists_eq_add_of_lt h
    have hpull : ∀ source, Refines (driver.pull depth source) (driver.pull (depth + more) source) :=
      fun source => ih (Nat.le_add_right depth more) source
    exact memoized_refines (compute_refines hpull id)

/-! ### Runs -/

/-- The visit of a node, with so many nodes that may wait for one another. -/
def visitWithin (driver : Driver σ) (depth : Nat) (id : NodeId) : RunM σ Unit :=
  tryCatch (discard (driver.pull depth id)) (driver.abandon id)

/-- The visits of nodes in order. -/
def visitAllWithin (driver : Driver σ) (depth : Nat) : List NodeId → RunM σ Unit
  | [] => return ()
  | id :: ids => do
    driver.visitWithin depth id
    driver.visitAllWithin depth ids

/-- A run visits its nodes with the number of the driver. -/
theorem visitAllWithin_depth (driver : Driver σ) (ids : List NodeId) :
    driver.visitAllWithin driver.depth ids = driver.visitAll ids := by
  induction ids with
  | nil => rfl
  | cons id ids ih =>
    rw [visitAllWithin, visitAll, ih]
    rfl

/-- Visits go as they do where more nodes may wait for one another. -/
theorem visitAllWithin_of_le {depth depth' : Nat} (h : depth ≤ depth') (ids : List NodeId) :
    Refines (driver.visitAllWithin depth ids) (driver.visitAllWithin depth' ids) := by
  induction ids with
  | nil => exact .refl _
  | cons id ids ih =>
    refine Refines.bind (Refines.tryCatch (pull_of_le h id).discard fun s => ?_) fun _ => ih
    obtain ⟨a, habandon⟩ := driver.exists_run_abandon id .tooDeep s
    rw [habandon]

/-- Two numbers give the same visits, unless they are too deep for one of them. -/
theorem visitAllWithin_eq (depth depth' : Nat) (ids : List NodeId) (s : Scratch σ) :
    ((driver.visitAllWithin depth ids).run.run s).1 = .error .tooDeep ∨
      ((driver.visitAllWithin depth' ids).run.run s).1 = .error .tooDeep ∨
      (driver.visitAllWithin depth ids).run.run s
        = (driver.visitAllWithin depth' ids).run.run s := by
  rcases visitAllWithin_of_le (Nat.le_max_left depth depth') ids s with hdeep | hsame
  · exact .inl hdeep
  rcases visitAllWithin_of_le (Nat.le_max_right depth depth') ids s with hdeep | hsame'
  · exact .inr (.inl hdeep)
  · exact .inr (.inr (hsame.symm.trans hsame'))

/-- The visits of a driver's run go as with any other number, unless they are too deep for one
of the two. So the turns of the custom nodes, on which only the number of the driver depends,
say nothing else of its runs. -/
theorem visitAll_eq_visitAllWithin (driver : Driver σ) (depth : Nat) (ids : List NodeId)
    (s : Scratch σ) :
    ((driver.visitAll ids).run.run s).1 = .error .tooDeep ∨
      ((driver.visitAllWithin depth ids).run.run s).1 = .error .tooDeep ∨
      (driver.visitAll ids).run.run s = (driver.visitAllWithin depth ids).run.run s := by
  rw [← visitAllWithin_depth]
  exact visitAllWithin_eq driver.depth depth ids s

end Driver

end DeltaPipeline
