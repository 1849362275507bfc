import DeltaPipeline.Driver.Run
import DeltaPipeline.Proofs.Parallel

/-!
# `DeltaPipeline.Proofs.Likeness`: host code that does not tell two states apart

Two runs of one driver may find the host in different states. A likeness says which states
count as alike, and what is told of where faults were raised. Code respects it if it does
alike in environments that are alike: it answers alike and leaves environments that are
alike again.

* `Likeness`, `Env.Alike`: the environments that count as alike.
* `UserCode.Respects`, `Comparer.Respects`, `Program.Respects`: the code that does alike.
* `Role.Respects`, `Node.Respects`, `Pipeline.Respects`, `Driver.Respects`: all code of a
  node, of a pipeline and of a driver does.
* `Ambient.Resembles`: updates in progress that are alike.
* `Node.Respects.parallel`: the steps of a node's update keep them alike.
-/

set_option autoImplicit false

namespace DeltaPipeline

variable {σ : Type}

/-- Which states of the host count as alike, and what is told of where faults were raised. -/
structure Likeness (σ : Type) where
  host : σ → σ → Prop
  told : Origin → Origin

/-- All states of the host count as alike, and nothing is told of where faults were raised. -/
def Likeness.blind : Likeness σ where
  host _ _ := True
  told := Origin.forget

/-- Both environments are cancelled or neither is, and the states of the host are alike. -/
structure Env.Alike (likeness : Likeness σ) (env env' : Env σ) : Prop where
  cancelled : env.cancelled = env'.cancelled
  host : likeness.host env.host env'.host

/-- Where all states of the host count as alike, only the flag matters. -/
theorem Env.Alike.blind {env env' : Env σ} (h : env.cancelled = env'.cancelled) :
    env.Alike .blind env' :=
  ⟨h, trivial⟩

/-! ### Code that does alike -/

section Code

variable (likeness : Likeness σ)

/-- From environments that are alike the code answers the same, but for what is not told of
faults, or gives up for one reason, and leaves environments that are alike. -/
def UserCode.Respects {α : Type} (code : UserCode σ (Except Fault α)) : Prop :=
  ∀ env env' : Env σ, env.Alike likeness env' →
    (code.run.run env).1.map (Except.mapError (Fault.relabel likeness.told))
        = (code.run.run env').1.map (Except.mapError (Fault.relabel likeness.told)) ∧
      (code.run.run env).2.Alike likeness (code.run.run env').2

/-- In environments that are alike comparing two values goes on, or gives up for one reason,
and leaves environments that are alike. -/
def Comparer.Respects (comparer : Comparer σ) : Prop :=
  ∀ previous current env env', Env.Alike likeness env env' →
    ((comparer.effect previous current).run.run env).1
        = ((comparer.effect previous current).run.run env').1 ∧
      ((comparer.effect previous current).run.run env).2.Alike likeness
        ((comparer.effect previous current).run.run env').2

/-- The programs ask for the same, and go on alike from what is alike. -/
inductive Program.Alike {α : Type} (same : α → α → Prop) : Program σ α → Program σ α → Prop where
  | done {answer answer' : α} : same answer answer' → Alike same (.done answer) (.done answer')
  | stop (reason : Stop) : Alike same (.stop reason) (.stop reason)
  /-- computations may differ in what is not told of their faults -/
  | pull (source : Handle) {next next' : Except Error Computed → Program σ α} :
    (∀ result result', result.map (Computed.relabel likeness.told)
      = result'.map (Computed.relabel likeness.told) → Alike same (next result) (next' result')) →
    Alike same (.pull source next) (.pull source next')
  | input (node : NodeId) (type : ElementType)
    {next next' : Except Error (List Value) → Program σ α} :
    (∀ values, Alike same (next values) (next' values)) →
    Alike same (.input node type next) (.input node type next')
  /-- the comparers set on a driver do alike -/
  | override (node : NodeId) (type : ElementType)
    {next next' : Option (Comparer σ) → Program σ α} :
    (∀ comparer, (∀ c, comparer = some c → c.Respects likeness) →
      Alike same (next comparer) (next' comparer)) →
    Alike same (.override node type next) (.override node type next')
  | env {change change' : Env σ → Env σ} {next next' : Env σ → Program σ α} :
    (∀ env env', Env.Alike likeness env env' →
      Env.Alike likeness (change env) (change' env')) →
    (∀ env env', Env.Alike likeness env env' → Alike same (next env) (next' env')) →
    Alike same (.env change next) (.env change' next')
  | observe (comparer : Comparer σ) (pairs : List (Value × Value)) {next next' : Program σ α} :
    comparer.Respects likeness → Alike same next next' →
    Alike same (.observe comparer pairs next) (.observe comparer pairs next')
  | call (argument : Value) {next next' : Program σ α} : Alike same next next' →
    Alike same (.call argument next) (.call argument next')
  | publish (draft : Draft Value) {next next' : Table Value → Program σ α} :
    (∀ table, Alike same (next table) (next' table)) →
    Alike same (.publish draft next) (.publish draft next')

/-- In runs that are alike the program does alike, and gives products that are the same but
for what is not told of faults. -/
def Program.Respects (program : Program σ Product) : Prop :=
  Program.Alike likeness
    (fun product product' => product.relabel likeness.told = product'.relabel likeness.told)
    program program

/-- The code of a node in this role does alike. -/
structure Role.Respects {ref : Type} (role : Role σ ref) : Prop where
  calls : ∀ code, role.Calls code → code.Respects likeness
  program : ∀ name turns program, role = .custom name turns program →
    ∀ id baseline, (program id baseline).Respects likeness

/-- The code of the node does alike, its comparer included. -/
structure Node.Respects (node : Node σ) : Prop where
  role : node.role.Respects likeness
  comparer : node.comparer.Respects likeness

/-- The code of all nodes does alike. -/
def Pipeline.Respects (pipeline : Pipeline σ) : Prop :=
  ∀ node ∈ pipeline.nodes, node.Respects likeness

/-- The code of all nodes does alike, and so do the comparers that are set. -/
structure Driver.Respects (driver : Driver σ) : Prop where
  pipeline : driver.pipeline.Respects likeness
  overrides : ∀ id comparer, driver.overrides id = some comparer → comparer.Respects likeness

end Code

variable {likeness : Likeness σ}

/-- Structural comparison does nothing but decide. -/
theorem Comparer.structural_respects : (structural : Comparer σ).Respects likeness :=
  fun _ _ _ _ henv => ⟨rfl, henv⟩

/-- Of the library's own roles only the functions are code of the host. -/
theorem Role.respects_of_isBuiltIn {ref : Type} {role : Role σ ref}
    (hbuiltIn : role.isBuiltIn = true) (hcalls : ∀ code, role.Calls code → code.Respects likeness) :
    role.Respects likeness where
  calls := hcalls
  program := by
    rintro name turns program rfl
    cases hbuiltIn

/-- An input has no code of the host. -/
theorem Role.respects_input {ref : Type} : (input : Role σ ref).Respects likeness :=
  respects_of_isBuiltIn rfl fun _ hcalls => hcalls.elim

/-- The nodes of a pipeline have the code that was declared. -/
theorem Role.Respects.map {ref ref' : Type} {role : Role σ ref} (h : role.Respects likeness)
    (f : ref → ref') : (role.map f).Respects likeness := by
  cases role with
  | input => exact respects_input
  | transform source function => exact respects_of_isBuiltIn rfl h.calls
  | batch source function => exact respects_of_isBuiltIn rfl h.calls
  | combine left right => exact respects_of_isBuiltIn rfl fun _ hcalls => hcalls.elim
  | custom name turns program =>
    refine ⟨fun code hcalls => hcalls.elim, fun name' turns' program' hrole => ?_⟩
    cases hrole
    exact h.program name turns program rfl

namespace Driver.Respects

variable {driver : Driver σ} {id : NodeId} {node : Node σ}

/-- The comparer in effect does alike, be it set or declared. -/
theorem comparer (h : driver.Respects likeness) (hnode : driver.pipeline.node? id = some node) :
    (driver.comparer id node).Respects likeness := by
  unfold Driver.comparer
  cases hoverride : driver.overrides id with
  | none => exact (h.pipeline node (List.mem_of_getElem? hnode)).comparer
  | some comparer => exact h.overrides id comparer hoverride

/-- So does the comparer that a program is given. -/
theorem override (h : driver.Respects likeness) {type : ElementType} {comparer : Comparer σ}
    (hoverride : driver.override? id type = some comparer) : comparer.Respects likeness := by
  unfold override? at hoverride
  split at hoverride
  · exact h.overrides id comparer hoverride
  · cases hoverride

end Driver.Respects

/-! ### Updates in progress -/

/-- The environments are alike, and the journals tell the same but for what is not told of
faults. -/
structure Ambient.Resembles (likeness : Likeness σ) (a a' : Ambient σ) : Prop where
  env : a.env.Alike likeness a'.env
  trail : a.trail.map (Event.relabel likeness.told) = a'.trail.map (Event.relabel likeness.told)

namespace Ambient.Resembles

variable {a a' : Ambient σ}

/-- Entries that are told alike may be made in both. -/
theorem note {event event' : Event} (h : a.Resembles likeness a')
    (hevent : event.relabel likeness.told = event'.relabel likeness.told) :
    (a.note event).Resembles likeness (a'.note event') where
  env := h.env
  trail := by
    show event.relabel _ :: a.trail.map _ = event'.relabel _ :: a'.trail.map _
    rw [hevent, h.trail]

/-- Where code leaves environments that are alike, the journals tell alike whether the run was
cancelled. -/
theorem watched (h : a.Resembles likeness a') {env env' : Env σ} (hafter : env.Alike likeness env')
    (node : NodeId) (signaller : Signaller) :
    (StepM.watched node signaller a.env { a with env }).Resembles likeness
      (StepM.watched node signaller a'.env { a' with env := env' }) := by
  have hnext : Resembles likeness { a with env } { a' with env := env' } := ⟨hafter, h.trail⟩
  unfold StepM.watched
  rw [← h.env.cancelled, show ({ a' with env := env' } : Ambient σ).env.cancelled
    = env.cancelled from hafter.cancelled.symm]
  split
  · exact hnext.note rfl
  · exact hnext

end Ambient.Resembles

/-- A change that keeps environments alike is made alike. -/
theorem resembles_changeEnv (node : NodeId) {change change' : Env σ → Env σ}
    (h : ∀ env env', Env.Alike likeness env env' →
      Env.Alike likeness (change env) (change' env')) :
    Alike (Ambient.Resembles likeness) (fun _ => True) (Env.Alike likeness)
      (StepM.changeEnv node change) (StepM.changeEnv node change') := by
  intro a a' hR
  rw [StepM.run_changeEnv, StepM.run_changeEnv]
  exact .answered hR.env (hR.watched (h a.env a'.env hR.env) node .program)

/-- Code that respects the likeness answers alike in updates that are alike. -/
theorem UserCode.Respects.perform {code : UserCode σ (Except Fault (List Value))}
    (h : code.Respects likeness) (node : NodeId) :
    Alike (Ambient.Resembles likeness) (fun _ => True) (Fault.Agree likeness.told)
      (StepM.perform node code) (StepM.perform node code) := by
  intro a a' hR
  rw [StepM.run_perform, StepM.run_perform]
  obtain ⟨hanswer, hafter⟩ := h a.env a'.env hR.env
  have hwatched := hR.watched hafter node .function
  -- As the answers agree, both ran to an end or both gave up.
  cases hrun : (code.run.run a.env).1 with
  | ok given =>
    cases hrun' : (code.run.run a'.env).1 with
    | ok given' =>
      rw [hrun, hrun'] at hanswer
      exact .answered (Fault.agree_of_mapError (Except.ok.inj hanswer)) hwatched
    | error panic' =>
      rw [hrun, hrun'] at hanswer
      cases hanswer
  | error panic =>
    cases hrun' : (code.run.run a'.env).1 with
    | ok given' =>
      rw [hrun, hrun'] at hanswer
      cases hanswer
    | error panic' =>
      rw [hrun, hrun'] at hanswer
      cases hanswer
      exact .stopped trivial hwatched

/-- A comparer that respects the likeness does alike in updates that are alike. -/
theorem Comparer.Respects.observeOne {comparer : Comparer σ} (h : comparer.Respects likeness)
    (node : NodeId) (previous current : Value) :
    Alike (Ambient.Resembles likeness) (fun _ => True) (fun _ _ => True)
      (StepM.observeOne node comparer previous current)
      (StepM.observeOne node comparer previous current) := by
  intro a a' hR
  rw [StepM.run_observeOne, StepM.run_observeOne]
  obtain ⟨hanswer, hafter⟩ := h previous current a.env a'.env hR.env
  have hwatched := hR.watched hafter node .comparer
  rw [← hanswer]
  rcases ((comparer.effect previous current).run.run a.env).1 with panic | _
  · exact .stopped trivial hwatched
  · exact .answered trivial hwatched

/-- The updates of a node whose code respects the likeness keep runs alike. -/
theorem Role.Respects.parallel {role : Role σ NodeId} (h : role.Respects likeness)
    {comparer : Comparer σ} (hcomparer : comparer.Respects likeness) (id : NodeId) :
    Parallel likeness.told (Ambient.Resembles likeness) (fun _ => True) id comparer
      role.Calls where
  cancelled_eq := fun _ _ hR => hR.env.cancelled
  stops_of_cancelled := fun _ _ _ _ => trivial
  note := fun _ _ _ _ _ hevent hR => hR.note hevent
  perform := fun code hcalls => (h.calls code hcalls).perform id
  compare := fun previous current => hcomparer.observeOne id previous current

end DeltaPipeline
