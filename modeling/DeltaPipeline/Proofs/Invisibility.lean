import DeltaPipeline.Proofs.Drift
import DeltaPipeline.Proofs.Resemblance

/-!
# `DeltaPipeline.Proofs.Invisibility`: what failed leaves no trace

A run that stopped and a change that was refused leave the driver as it was, so a history
may be told without them. What they left is the host's own state. Where the code of the host
does not depend on that, runs that start with the same cancellation flag end alike.

* `UserCode.IsStateless`, `Comparer.IsStateless`, `Pipeline.IsStateless`: the code does by its
  arguments and the cancellation flag.
* `Driver.Reply`, `Driver.replies`: what a host learns from a history.
* `Driver.kept`: the operations of a history that did not fail, with their replies.
* `Driver.failures_invisible`: these operations alone are replied to alike and leave the
  same driver.
-/

set_option autoImplicit false

namespace DeltaPipeline

variable {σ : Type}

/-! ### Code without a state -/

/-- What the code answers, up to the raising that a fault goes back to, and how it leaves
the cancellation flag follow from the flag it finds. -/
def UserCode.IsStateless {α : Type} (code : UserCode σ (Except Fault α)) : Prop :=
  ∀ env env' : Env σ, env.cancelled = env'.cancelled →
    (code.run.run env).1.map (Except.mapError Fault.cause)
        = (code.run.run env').1.map (Except.mapError Fault.cause) ∧
      (code.run.run env).2.cancelled = (code.run.run env').2.cancelled

/-- Whether comparing two values gives up and how it leaves the cancellation flag follow from
the flag it finds. -/
def Comparer.IsStateless (comparer : Comparer σ) : Prop :=
  ∀ previous current env env', Env.cancelled env = env'.cancelled →
    ((comparer.effect previous current).run.run env).1
        = ((comparer.effect previous current).run.run env').1 ∧
      ((comparer.effect previous current).run.run env).2.cancelled
        = ((comparer.effect previous current).run.run env').2.cancelled

/-- The functions and the comparers of all nodes are stateless. -/
structure Pipeline.IsStateless (pipeline : Pipeline σ) : Prop where
  calls : ∀ node ∈ pipeline.nodes, ∀ code, node.role.Calls code → code.IsStateless
  comparers : ∀ node ∈ pipeline.nodes, node.comparer.IsStateless

/-- Pure functions are stateless. -/
theorem Pipeline.IsPure.calls_isStateless {pipeline : Pipeline σ} (hpure : pipeline.IsPure)
    {node : Node σ} (hnode : node ∈ pipeline.nodes)
    {code : UserCode σ (Except Fault (List Value))} (hcalls : node.role.Calls code) :
    code.IsStateless := by
  intro env env' hflag
  obtain ⟨answer, hgives⟩ := hpure node hnode code hcalls
  obtain ⟨given, after, hrun, hafter, hgiven⟩ := hgives env
  obtain ⟨given', after', hrun', hafter', hgiven'⟩ := hgives env'
  rw [hrun, hrun']
  show Except.ok _ = Except.ok _ ∧ after.cancelled = after'.cancelled
  rw [hgiven, hgiven', hafter, hafter']
  exact ⟨rfl, hflag⟩

/-- A comparer that never cancels and never gives up is stateless. -/
theorem Comparer.Quiet.isStateless {comparer : Comparer σ} (h : comparer.Quiet) :
    comparer.IsStateless := by
  intro previous current env env' hflag
  have hspares := h.neverCancels (previous, current)
  exact ⟨h.neverPanics.panicsAlike previous current env env',
    (hspares env).trans (hflag.trans (hspares env').symm)⟩

/-- Stateless code cannot tell states of the host apart. -/
theorem UserCode.IsStateless.respects {code : UserCode σ (Except Fault (List Value))}
    (h : code.IsStateless) : code.Respects .blind := by
  intro env env' henv
  obtain ⟨hanswer, hafter⟩ := h env env' henv.cancelled
  refine ⟨?_, .blind hafter⟩
  have hcause : ∀ answer : Except Panic (Except Fault (List Value)),
      answer.map (Except.mapError (Fault.relabel Origin.forget))
        = (answer.map (Except.mapError Fault.cause)).map
            (Except.mapError fun cause => ⟨cause, .host 0⟩) := by
    rintro (panic | fault | values) <;> rfl
  show Except.map (Except.mapError (Fault.relabel Origin.forget)) _ = Except.map _ _
  rw [hcause, hanswer, ← hcause]
  rfl

/-- A stateless comparer cannot either. -/
theorem Comparer.IsStateless.respects {comparer : Comparer σ} (h : comparer.IsStateless) :
    comparer.Respects .blind := by
  intro previous current env env' henv
  obtain ⟨hanswer, hafter⟩ := h previous current env env' henv.cancelled
  exact ⟨hanswer, .blind hafter⟩

/-- Nor can a driver all of whose code is stateless. -/
theorem Driver.respects_of_isStateless {driver : Driver σ} (hbuiltIn : driver.pipeline.IsBuiltIn)
    (hstateless : driver.pipeline.IsStateless)
    (hset : ∀ id comparer, driver.overrides id = some comparer → comparer.IsStateless) :
    driver.Respects .blind where
  pipeline := by
    intro node hnode
    have hrole : node.role.Respects .blind := Role.respects_of_isBuiltIn (hbuiltIn node hnode)
      fun code hcalls => (hstateless.calls node hnode code hcalls).respects
    exact ⟨hrole, (hstateless.comparers node hnode).respects⟩
  overrides := fun id comparer hcomparer => (hset id comparer hcomparer).respects

namespace Driver

variable {driver : Driver σ}

/-! ### Histories without what failed -/

/-- What a host learns from an operation. -/
inductive Reply (σ : Type) where
  | changed (result : Except Error Unit)
  | ran (ran : Ran σ)

/-- What a host learns from an operation on the driver. -/
def reply (driver : Driver σ) : Operation σ → Reply σ
  | .change change => .changed ((driver.change change).map fun _ => ())
  | .run env => .ran (driver.run env)

/-- What a host learns from a history. -/
def replies (driver : Driver σ) : List (Operation σ) → List (Reply σ)
  | [] => []
  | op :: ops => driver.reply op :: (driver.act op).replies ops

/-- Does the driver reject the change? It takes nothing back for a handle of another
pipeline, and says nothing of it. -/
def rejects (driver : Driver σ) : Change σ → Bool
  | .setInput handle values => !(driver.setInput handle values).isOk
  | .clearInput handle => !driver.pipeline.owns handle
  | .setComparer handle comparer => !(driver.setComparer handle comparer).isOk
  | .clearComparer handle => !driver.pipeline.owns handle
  | .reset => false

/-- Does the operation fail? Then it is a run that stops, or a change that is rejected. -/
def fails (driver : Driver σ) : Operation σ → Bool
  | .change change => driver.rejects change
  | .run env => !(driver.run env).result.isOk

/-- The operations of a history that do not fail, with what a host learns from them. -/
def kept (driver : Driver σ) : List (Operation σ) → List (Operation σ × Reply σ)
  | [] => []
  | op :: ops =>
    if driver.fails op then (driver.act op).kept ops
    else (op, driver.reply op) :: (driver.act op).kept ops

/-- The same operation, but a run may find another state of the host. -/
inductive Operation.SameStart : Operation σ → Operation σ → Prop where
  | change (change : Change σ) : SameStart (.change change) (.change change)
  | run {env env' : Env σ} : env.cancelled = env'.cancelled → SameStart (.run env) (.run env')

/-- The same reply, but for the raising of faults and the state of the host. -/
inductive Reply.Resembles : Reply σ → Reply σ → Prop where
  | changed (result : Except Error Unit) : Resembles (.changed result) (.changed result)
  | ran {ran ran' : Ran σ} : ran.Resembles .blind ran' → Resembles (.ran ran) (.ran ran')

/-- An operation that fails leaves the driver as it was. -/
theorem act_of_fails {op : Operation σ} (h : driver.fails op = true) : driver.act op = driver := by
  cases op with
  | run env =>
    cases hrun : (driver.run env).result with
    | error stop => exact driver_run_of_error hrun
    | ok report =>
      rw [fails, hrun] at h
      cases h
  | change change =>
    cases hchange : driver.change change with
    | error e => exact act_of_error hchange
    | ok next =>
      rw [act_of_ok hchange]
      -- It was not refused, so nothing was to be taken back.
      have hto := changesTo_of_change hchange
      cases hto with
      | clearNoInput handle howns => rfl
      | clearNoComparer handle howns => rfl
      | setInput handle values howns hkind hname =>
        have hset : driver.setInput handle values = .ok _ := hchange
        rw [fails, rejects, hset] at h
        cases h
      | setComparer handle comparer howns =>
        have hset : driver.setComparer handle comparer = .ok _ := hchange
        rw [fails, rejects, hset] at h
        cases h
      | clearInput handle howns =>
        rw [fails, rejects, howns] at h
        cases h
      | clearComparer handle howns =>
        rw [fails, rejects, howns] at h
        cases h
      | reset => cases h

/-- An operation that is started alike is replied to alike, and has the same effect. -/
theorem resembles_reply (hrespects : driver.Respects .blind) {op op' : Operation σ}
    (h : op.SameStart op') :
    (driver.reply op).Resembles (driver.reply op') ∧ driver.act op = driver.act op' := by
  cases h with
  | change change => exact ⟨.changed _, rfl⟩
  | run hflag =>
    have hrun := resembles_run hrespects (.blind hflag)
    exact ⟨.ran hrun, hrun.driver⟩

/-- The comparers that the operation sets are stateless. -/
def Operation.SetsStateless (op : Operation σ) : Prop :=
  ∀ handle comparer, op = .change (.setComparer handle comparer) → comparer.IsStateless

/-- Code that cannot tell states of the host apart does not see what failed. -/
theorem invisible_of_respects (hrespects : driver.Respects .blind) (ops ops' : List (Operation σ))
    (hops : ∀ op ∈ ops, op.SetsStateless)
    (hsame : List.Forall₂ Operation.SameStart ((driver.kept ops).map Prod.fst) ops') :
    List.Forall₂ Reply.Resembles ((driver.kept ops).map Prod.snd) (driver.replies ops') ∧
      driver.after ops' = driver.after ops := by
  induction ops generalizing driver ops' with
  | nil =>
    cases hsame
    exact ⟨.nil, rfl⟩
  | cons op ops ih =>
    have hact : (driver.act op).Respects .blind := hrespects.act fun handle comparer hset =>
      (hops op (by simp) handle comparer hset).respects
    have hrest : ∀ other ∈ ops, other.SetsStateless :=
      fun other hother => hops other (by simp [hother])
    rw [kept] at hsame ⊢
    rw [after_cons]
    by_cases hfails : driver.fails op = true
    · rw [if_pos hfails] at hsame ⊢
      rw [act_of_fails hfails] at hact hsame ⊢
      exact ih hact ops' hrest hsame
    · rw [if_neg hfails] at hsame ⊢
      cases hsame with
      | cons hop hsame =>
        obtain ⟨hreply, hnext⟩ := resembles_reply hrespects hop
        obtain ⟨hreplies, hafter⟩ := ih hact _ hrest hsame
        rw [replies, after_cons, ← hnext]
        exact ⟨.cons hreply hreplies, hafter⟩

/-- The operations of a history that do not fail, carried out without the others and from
any states of the host that are cancelled or not as before, are replied to as before, and
leave the driver that the whole history leaves. -/
theorem failures_invisible (hbuiltIn : driver.pipeline.IsBuiltIn)
    (hstateless : driver.pipeline.IsStateless)
    (hset : ∀ id comparer, driver.overrides id = some comparer → comparer.IsStateless)
    (ops ops' : List (Operation σ)) (hops : ∀ op ∈ ops, op.SetsStateless)
    (hsame : List.Forall₂ Operation.SameStart ((driver.kept ops).map Prod.fst) ops') :
    List.Forall₂ Reply.Resembles ((driver.kept ops).map Prod.snd) (driver.replies ops') ∧
      driver.after ops' = driver.after ops :=
  invisible_of_respects (respects_of_isStateless hbuiltIn hstateless hset) ops ops' hops hsame

/-- Some operations of this history fail: a run is cancelled by a comparer, a value is set
on a node that is no input, and a comparer for a node of another pipeline. -/
def Sample.mishaps : List (Operation Unit) :=
  Sample.interruption ++ [.run ⟨(), false⟩,
    .change (.setInput ⟨0, ⟨1⟩, .value⟩ [.null]),
    .change (.setComparer ⟨1, ⟨0⟩, .value⟩ Sample.strict),
    .change (.clearComparer ⟨0, ⟨1⟩, .value⟩),
    .run ⟨(), false⟩]

/-- The comparers that are set in the meantime accept nothing, or cancel whatever they find. -/
theorem Sample.mishaps_setsStateless : ∀ op ∈ Sample.mishaps, op.SetsStateless := by
  have hsignalling : Sample.signalling.IsStateless := fun _ _ _ _ _ => ⟨rfl, rfl⟩
  have hstrict : Sample.strict.IsStateless := fun _ _ _ _ hflag => ⟨rfl, hflag⟩
  intro op hmem handle comparer hop
  subst hop
  simp only [Sample.mishaps, Sample.interruption, List.cons_append, List.nil_append, List.mem_cons,
    List.not_mem_nil, or_false, Operation.change.injEq, Change.setComparer.injEq, reduceCtorEq,
    false_or] at hmem
  rcases hmem with ⟨-, rfl⟩ | ⟨-, rfl⟩
  · exact hsignalling
  · exact hstrict

/-- In the small pipeline three of nine operations fail, and leave no trace. -/
theorem failures_invisible_sample :
    Sample.pipeline.IsBuiltIn ∧ Sample.pipeline.IsStateless ∧
      (∀ op ∈ Sample.mishaps, op.SetsStateless) ∧
      ∃ kept, (fresh Sample.pipeline true).kept Sample.mishaps = kept ∧ kept.length = 6 ∧
        List.Forall₂ Reply.Resembles (kept.map Prod.snd)
          ((fresh Sample.pipeline true).replies (kept.map Prod.fst)) ∧
        (fresh Sample.pipeline true).after (kept.map Prod.fst)
          = (fresh Sample.pipeline true).after Sample.mishaps := by
  have hsame : ∀ op : Operation Unit, op.SameStart op := by
    intro op
    cases op with
    | change change => exact .change change
    | run env => exact .run rfl
  have hstateless : Sample.pipeline.IsStateless := by
    refine ⟨fun node hnode code hcalls => Sample.isPure.calls_isStateless hnode hcalls, ?_⟩
    intro node hnode
    simp only [Sample.pipeline, List.mem_cons, List.not_mem_nil, or_false] at hnode
    rcases hnode with rfl | rfl | rfl | rfl <;> exact Comparer.structural_quiet.isStateless
  -- No comparer is set on a fresh driver.
  have hset : ∀ id comparer, (fresh Sample.pipeline true).overrides id = some comparer →
      comparer.IsStateless := by
    intro id comparer hcomparer
    cases hcomparer
  exact ⟨Sample.isBuiltIn, hstateless, Sample.mishaps_setsStateless, _, rfl, by decide +kernel,
    failures_invisible Sample.isBuiltIn hstateless hset Sample.mishaps _
      Sample.mishaps_setsStateless (List.forall₂_same.mpr fun op _ => hsame op)⟩

end Driver

end DeltaPipeline
