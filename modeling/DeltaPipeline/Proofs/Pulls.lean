import DeltaPipeline.Proofs.OnDemand
import DeltaPipeline.Proofs.Parallel
import Mathlib.Data.List.Perm.Basic
import Mathlib.Logic.Relation

/-!
# `DeltaPipeline.Proofs.Pulls`: what pulls what in a run

A custom node decides in a run which nodes it pulls. So the pulls of a run are told from
the run itself: which node pulls which, and in what state. If no node waits for itself,
each node is computed once at most, and every pull of it finds that computation.

* `Program.Asks`, `Driver.Asks`: the pulls that a program and a node's update make.
* `Driver.Pulls`, `Driver.Draws`, `Driver.Acyclic`: the pulls of a run.
* `Pipeline.PassesOn`: custom nodes that pass on the errors of their pulls.
* `Role.PullsOnly`, `Driver.acyclic_of_rank`: a run without cycles, told from the nodes.
* `Scratch.Grows`: what is added to a run where no node is computed twice.
* `Scratch.Served`: a pull that is answered with what is there from then on.
* `Driver.Pulls.grows`: a pull adds nodes that the pulled one draws on, and itself.
* `Driver.perm_of_visitAll`, `Driver.Pulls.served`: the nodes and the pulls of a run that
  completes.
-/

set_option autoImplicit false

namespace DeltaPipeline

variable {σ : Type}

/-- What a run ensures may be told together with the run itself. -/
theorem Ensures.with_run {S α : Type} {m : ExceptT Stop (StateM S) α} {s : S}
    {answered : α → S → Prop} {stopped : Stop → S → Prop} (h : Ensures m s answered stopped) :
    Ensures m s (fun answer t => m.run.run s = (.ok answer, t) ∧ answered answer t) stopped :=
  Ensures.intro (fun _ _ hrun => ⟨hrun, h.of_ok hrun⟩) fun _ _ hrun => h.of_error hrun

/-! ### Pulls -/

/-- From this state the step answers, and then what is asked holds. -/
def RunM.Leads {α : Type} (m : RunM σ α) (s : Scratch σ) (asked : α → Scratch σ → Prop) : Prop :=
  ∃ answer t, m.run.run s = (.ok answer, t) ∧ asked answer t

/-- Carried out from the first state, the program comes to pull the node of this handle in
the second. -/
def Program.Asks {α : Type} (driver : Driver σ) (self : NodeId)
    (pull : Handle → RunM σ Computed) :
    Program σ α → Scratch σ → Handle → Scratch σ → Prop
  | .done _, _, _, _ => False
  | .stop _, _, _, _ => False
  | .pull source next, s, handle, u => (handle = source ∧ u = s) ∨
    (pull source).attempt.Leads s fun result t => (next result).Asks driver self pull t handle u
  | .input node type next, s, handle, u =>
    (next (driver.inputValues node type)).Asks driver self pull s handle u
  | .override node type next, s, handle, u =>
    (next (driver.override? node type)).Asks driver self pull s handle u
  | .env change next, s, handle, u => (RunM.step (StepM.changeEnv self change)).Leads s
    fun env t => (next env).Asks driver self pull t handle u
  | .observe comparer pairs next, s, handle, u =>
    (RunM.step (StepM.observe self comparer pairs)).Leads s
      fun _ t => next.Asks driver self pull t handle u
  | .call argument next, s, handle, u => (RunM.step (StepM.record (.called self argument))).Leads s
    fun _ t => next.Asks driver self pull t handle u
  | .publish draft next, s, handle, u => (RunM.step (StepM.publish draft)).Leads s
    fun table t => (next table).Asks driver self pull t handle u

/-- The program pulls no other nodes than these, whatever it is answered. -/
def Program.PullsOnly {α : Type} (allowed : NodeId → Prop) : Program σ α → Prop
  | .done _ => True
  | .stop _ => True
  | .pull source next => allowed source.node ∧ ∀ result, (next result).PullsOnly allowed
  | .input _ _ next => ∀ values, (next values).PullsOnly allowed
  | .override _ _ next => ∀ comparer, (next comparer).PullsOnly allowed
  | .env _ next => ∀ env, (next env).PullsOnly allowed
  | .observe _ _ next => next.PullsOnly allowed
  | .call _ next => next.PullsOnly allowed
  | .publish _ next => ∀ table, (next table).PullsOnly allowed

/-- A pull whose error is passed on pulls one node, and then what the rest pulls. -/
theorem Program.PullsOnly.ask {β : Type} {allowed : NodeId → Prop} {source : Handle}
    {next : Computed → Program σ β} (hsource : allowed source.node)
    (hnext : ∀ c, (next c).PullsOnly allowed) :
    (Program.ask source >>= next).PullsOnly allowed := by
  refine ⟨hsource, fun result => ?_⟩
  cases result with
  | ok c => exact hnext c
  | error e => exact trivial

/-- What a program asks for is among what it pulls only. -/
theorem Program.Asks.allowed {α : Type} {driver : Driver σ} {self : NodeId}
    {pull : Handle → RunM σ Computed} {allowed : NodeId → Prop} {program : Program σ α}
    {s u : Scratch σ} {handle : Handle} (h : program.Asks driver self pull s handle u)
    (honly : program.PullsOnly allowed) : allowed handle.node := by
  induction program generalizing s with
  | done answer => exact h.elim
  | stop reason => exact h.elim
  | pull source next ih =>
    rcases h with ⟨rfl, -⟩ | ⟨result, t, -, hasks⟩
    · exact honly.1
    · exact ih result hasks (honly.2 result)
  | input node type next ih => exact ih _ h (honly _)
  | override node type next ih => exact ih _ h (honly _)
  | env change next ih =>
    obtain ⟨env, t, -, hasks⟩ := h
    exact ih env hasks (honly env)
  | observe comparer pairs next ih =>
    obtain ⟨_, t, -, hasks⟩ := h
    exact ih hasks honly
  | call argument next ih =>
    obtain ⟨_, t, -, hasks⟩ := h
    exact ih hasks honly
  | publish draft next ih =>
    obtain ⟨table, t, -, hasks⟩ := h
    exact ih table hasks (honly table)

/-- The program passes on the errors of its pulls. -/
def Program.PassesOn {α : Type} : Program σ α → Prop
  | .done _ => True
  | .stop _ => True
  | .pull _ next => (∀ e, next (.error e) = .stop (.error e)) ∧ ∀ c, (next (.ok c)).PassesOn
  | .input _ _ next => ∀ values, (next values).PassesOn
  | .override _ _ next => ∀ comparer, (next comparer).PassesOn
  | .env _ next => ∀ env, (next env).PassesOn
  | .observe _ _ next => next.PassesOn
  | .call _ next => next.PassesOn
  | .publish _ next => ∀ table, (next table).PassesOn

/-- A program that asks first passes errors on if what it does with each answer does. -/
theorem Program.PassesOn.ask {β : Type} {source : Handle} {next : Computed → Program σ β}
    (hnext : ∀ c, (next c).PassesOn) : (Program.ask source >>= next).PassesOn :=
  ⟨fun _ => rfl, hnext⟩

/-- The custom nodes pass on the errors of their pulls. -/
def Pipeline.PassesOn (pipeline : Pipeline σ) : Prop :=
  ∀ node ∈ pipeline.nodes, ∀ name turns program, node.role = .custom name turns program →
    ∀ id baseline, (program id baseline).PassesOn

/-- Where an error is passed on, a program goes on after a pull that gives a table only. -/
theorem Program.exec_pull {α : Type} {driver : Driver σ} {self : NodeId}
    {pull : Handle → RunM σ Computed} {source : Handle}
    {next : Except Error Computed → Program σ α}
    (hnext : ∀ e, next (.error e) = .stop (.error e)) :
    (Program.pull source next).exec driver self pull
      = pull source >>= fun c => (next (.ok c)).exec driver self pull := by
  refine ExceptT.ext (StateT.ext fun s => ?_)
  show ((pull source).attempt >>= fun result => (next result).exec driver self pull).run.run s
    = (pull source >>= fun c => (next (.ok c)).exec driver self pull).run.run s
  rw [Stoppable.run_bind, Stoppable.run_bind, RunM.run_attempt]
  rcases (pull source).run.run s with ⟨stop | c, t⟩
  · cases stop with
    | error e =>
      dsimp only
      rw [hnext]
      rfl
    | panic p => rfl
    | tooDeep => rfl
  · rfl

/-- A node in this role pulls no other nodes than these. -/
def Role.PullsOnly (allowed : NodeId → Prop) (role : Role σ NodeId) : Prop :=
  (∀ source ∈ role.sources, allowed source) ∧ ∀ name turns program,
    role = .custom name turns program → ∀ id baseline, (program id baseline).PullsOnly allowed

namespace Driver

/-- Updated from the first state, the node comes to pull this one in the second. A handle of
another pipeline pulls no node. -/
def Asks (driver : Driver σ) (pull : NodeId → RunM σ Computed) (id : NodeId) (node : Node σ)
    (s : Scratch σ) (source : NodeId) (u : Scratch σ) : Prop :=
  match node.role with
  | .input => False
  | .transform first _ => source = first ∧ u = s
  | .batch first _ => source = first ∧ u = s
  | .combine left right => (source = left ∧ u = s) ∨
    (pull left).Leads s fun _ t => source = right ∧ u = t
  | .custom _ _ program => ∃ handle, driver.pipeline.owns handle = true ∧ source = handle.node ∧
    (program id (driver.baseline id)).Asks driver id (driver.pullHandle pull) s handle u

/-- In the run from this environment the node is pulled in this state, by another node or
by the run itself. The number tells how many nodes may wait for it and for one another. -/
inductive Pulls (driver : Driver σ) (env : Env σ) : Option NodeId → Nat → NodeId → Scratch σ →
    Prop where
  | visited {before after : List NodeId} {id : NodeId} {s : Scratch σ} :
    driver.pipeline.ids = before ++ id :: after →
    (driver.visitAll before).run.run (driver.start env) = (.ok (), s) →
    Pulls driver env none driver.depth id s
  | asked {puller : Option NodeId} {depth : Nat} {id source : NodeId} {node : Node σ}
    {s t : Scratch σ} : Pulls driver env puller (depth + 1) id s → s.find? id = none →
    s.ambient.env.cancelled = false → driver.pipeline.node? id = some node →
    driver.Asks (driver.pull depth) id node (s.enter id) source t →
    Pulls driver env (some id) depth source t

/-- In the run the first node pulls the second. -/
def Draws (driver : Driver σ) (env : Env σ) (id source : NodeId) : Prop :=
  ∃ depth s, driver.Pulls env (some id) depth source s

/-- In the run no node waits for itself, directly or through others. -/
def Acyclic (driver : Driver σ) (env : Env σ) : Prop :=
  ∀ id, ¬Relation.TransGen (driver.Draws env) id id

variable {driver : Driver σ} {env : Env σ}

/-- What a node pulls is one of its sources, or what its program pulls. -/
theorem Asks.cases {pull : NodeId → RunM σ Computed} {id source : NodeId} {node : Node σ}
    {s u : Scratch σ} (h : driver.Asks pull id node s source u) :
    source ∈ node.sources ∨ ∃ name turns program handle, node.role = .custom name turns program ∧
      driver.pipeline.owns handle = true ∧ source = handle.node ∧
      (program id (driver.baseline id)).Asks driver id (driver.pullHandle pull) s handle u := by
  unfold Asks at h
  cases hrole : node.role with
  | input =>
    rw [hrole] at h
    exact h.elim
  | transform first function =>
    rw [hrole] at h
    exact .inl (h.1 ▸ Node.mem_sources_of_transform hrole)
  | batch first function =>
    rw [hrole] at h
    exact .inl (h.1 ▸ Node.mem_sources_of_batch hrole)
  | combine left right =>
    rw [hrole] at h
    rcases h with ⟨rfl, -⟩ | ⟨c, t, -, rfl, -⟩
    · exact .inl (Node.left_mem_sources hrole)
    · exact .inl (Node.right_mem_sources hrole)
  | custom name turns program =>
    rw [hrole] at h
    obtain ⟨handle, howns, hsource, hasks⟩ := h
    exact .inr ⟨name, turns, program, handle, rfl, howns, hsource, hasks⟩

/-- What a node asks for is among what its role pulls only. -/
theorem Asks.allowed {pull : NodeId → RunM σ Computed} {id source : NodeId} {node : Node σ}
    {s u : Scratch σ} {allowed : NodeId → Prop} (h : driver.Asks pull id node s source u)
    (honly : node.role.PullsOnly allowed) : allowed source := by
  obtain hmem | ⟨name, turns, program, handle, hrole, -, rfl, hasks⟩ := h.cases
  · exact honly.1 source hmem
  · exact hasks.allowed (honly.2 name turns program hrole id (driver.baseline id))

/-- What a node of the pipeline asks for is a node of the pipeline. -/
theorem Asks.contains {pull : NodeId → RunM σ Computed} {id source : NodeId} {node : Node σ}
    {s u : Scratch σ} (hnode : driver.pipeline.node? id = some node)
    (h : driver.Asks pull id node s source u) : driver.pipeline.contains source = true := by
  obtain hmem | ⟨name, turns, program, handle, hrole, howns, rfl, hasks⟩ := h.cases
  · exact (driver.pipeline.contains_iff source).mpr (Pipeline.exists_source hnode hmem).2
  · simp only [Pipeline.owns, Bool.and_eq_true] at howns
    exact howns.2

/-- What is pulled is a node of the pipeline. -/
theorem Pulls.contains {puller : Option NodeId} {depth : Nat} {id : NodeId} {s : Scratch σ}
    (h : driver.Pulls env puller depth id s) : driver.pipeline.contains id = true := by
  cases h with
  | visited hids hrun =>
    rw [← Pipeline.mem_ids, hids]
    simp
  | asked hpulls hnew hlive hnode hasks => exact hasks.contains hnode

/-- Where every node pulls only nodes of a lower rank, none waits for itself. -/
theorem acyclic_of_rank (rank : NodeId → Nat)
    (hrank : ∀ id node, driver.pipeline.node? id = some node →
      node.role.PullsOnly fun source => rank source < rank id) : driver.Acyclic env := by
  have hdraws : ∀ id source, driver.Draws env id source → rank source < rank id := by
    rintro id source ⟨depth, s, hpulls⟩
    cases hpulls with
    | asked hpulls hnew hlive hnode hasks => exact hasks.allowed (hrank id _ hnode)
  intro id hcycle
  have hlt : ∀ other, Relation.TransGen (driver.Draws env) id other → rank other < rank id := by
    intro other hother
    induction hother with
    | single hdraw => exact hdraws _ _ hdraw
    | tail _ hdraw ih => exact Nat.lt_trans (hdraws _ _ hdraw) ih
  exact Nat.lt_irrefl _ (hlt id hcycle)

end Driver

/-! ### What is added to a run -/

/-- Computations of nodes that were not there are added, one for each, all of them nodes
within `reach`, and the updates that began meanwhile are theirs. -/
def Scratch.Grows (reach : NodeId → Prop) (s t : Scratch σ) : Prop :=
  ∃ added : List Computed, t.computed = s.computed ++ added ∧
    (added.map Computed.node).Nodup ∧
    (∀ c ∈ added, s.find? c.node = none ∧ reach c.node) ∧
    (Event.entries t.ambient.journal).Perm
      (Event.entries s.ambient.journal ++ added.map Computed.node)

namespace Scratch.Grows

variable {reach reach' : NodeId → Prop} {s t u : Scratch σ}

/-- Where nothing is computed, nothing is added. -/
theorem of_same (hended : t.ended = s.ended)
    (hentries : Event.entries t.ambient.journal = Event.entries s.ambient.journal) :
    Grows reach s t :=
  ⟨[], by simp [computed, hended], List.nodup_nil, by simp, by simp [hentries]⟩

/-- A wider reach allows what a narrower one does. -/
theorem mono (h : Grows reach s t) (hle : ∀ id, reach id → reach' id) : Grows reach' s t := by
  obtain ⟨added, hcomputed, hnodup, hadded, hentries⟩ := h
  exact ⟨added, hcomputed, hnodup, fun c hc => ⟨(hadded c hc).1, hle _ (hadded c hc).2⟩, hentries⟩

/-- What is there already is found again, as nothing that is added is of the same node. -/
theorem find?_eq_some (h : Grows reach s t) {id : NodeId} {c : Computed}
    (hfind : s.find? id = some c) : t.find? id = some c := by
  obtain ⟨added, hcomputed, -, hadded, -⟩ := h
  have hnone : Computed.find? added id = none := by
    rw [Computed.find?_eq_none_iff]
    intro hmem
    obtain ⟨d, hd, rfl⟩ := List.mem_map.mp hmem
    rw [(hadded d hd).1] at hfind
    cases hfind
  rw [find?_eq, Computed.find?, hcomputed, List.reverse_append, List.find?_append]
  rw [Computed.find?] at hnone
  rw [hnone, Option.none_or, ← Computed.find?, ← find?_eq, hfind]

/-- What was computed stays, in its place. -/
theorem isPrefix (h : Grows reach s t) : s.computed <+: t.computed := by
  obtain ⟨added, hcomputed, -⟩ := h
  exact ⟨added, hcomputed.symm⟩

/-- A run that grows twice grows. -/
theorem trans (h : Grows reach s t) (h' : Grows reach t u) : Grows reach s u := by
  have hnone : ∀ {id : NodeId}, t.find? id = none → s.find? id = none := by
    intro id ht
    cases hs : s.find? id with
    | none => rfl
    | some c =>
      rw [h.find?_eq_some hs] at ht
      cases ht
  obtain ⟨first, hfirst, hnodup, hadded, hentries⟩ := h
  obtain ⟨rest, hrest, hnodup', hadded', hentries'⟩ := h'
  refine ⟨first ++ rest, ?_, ?_, ?_, ?_⟩
  · rw [hrest, hfirst, List.append_assoc]
  · rw [List.map_append, List.nodup_append]
    refine ⟨hnodup, hnodup', ?_⟩
    -- What is added later was not there, so it is not among what was added first.
    intro id hid id' hid' heq
    obtain ⟨c, hc, rfl⟩ := List.mem_map.mp hid'
    have hnew := (hadded' c hc).1
    rw [find?_eq, Computed.find?_eq_none_iff, hfirst, List.map_append, List.mem_append] at hnew
    exact hnew (.inr (heq ▸ hid))
  · intro c hc
    rcases List.mem_append.mp hc with hmem | hmem
    · exact hadded c hmem
    · exact ⟨hnone (hadded' c hmem).1, (hadded' c hmem).2⟩
  · rw [List.map_append, ← List.append_assoc]
    exact hentries'.trans (hentries.append_right _)

/-- A node whose update began, and that is not there when the update ends, is added. -/
theorem add {id : NodeId} (h : Grows reach (s.enter id) t) (hid : ¬reach id)
    (hnew : s.find? id = none) {last : Computed} (hlast : last.node = id) {a : Ambient σ}
    (ha : Event.entries a.journal = Event.entries t.ambient.journal) :
    Grows (fun node => reach node ∨ node = id) s ({ t with ambient := a }.add last) := by
  obtain ⟨added, hcomputed, hnodup, hadded, hentries⟩ := h
  refine ⟨added ++ [last], ?_, ?_, ?_, ?_⟩
  · rw [computed_add]
    show t.computed ++ [last] = _
    rw [hcomputed, List.append_assoc]
    rfl
  · rw [List.map_append, List.map_singleton, hlast, List.nodup_append]
    refine ⟨hnodup, List.nodup_singleton _, ?_⟩
    intro node hnode other hother heq
    obtain ⟨c, hc, rfl⟩ := List.mem_map.mp hnode
    rw [List.mem_singleton.mp hother] at heq
    exact hid (heq ▸ (hadded c hc).2)
  · intro c hc
    rcases List.mem_append.mp hc with hmem | hmem
    · exact ⟨(hadded c hmem).1, .inl (hadded c hmem).2⟩
    · rw [List.mem_singleton.mp hmem, hlast]
      exact ⟨hnew, .inr rfl⟩
  · have henter : Event.entries (s.enter id).ambient.journal
        = Event.entries s.ambient.journal ++ [id] := by
      simp [enter, Event.entries]
    show (Event.entries a.journal).Perm _
    rw [henter] at hentries
    rw [ha, List.map_append, List.map_singleton, hlast]
    -- The update of the node itself began before those of the others, and ended after.
    refine hentries.trans ?_
    rw [List.append_assoc]
    exact List.Perm.append_left _ List.perm_append_comm

end Scratch.Grows

/-! ### Steps in which no update begins -/

/-- Both have the same environment, and these are the updates that began. -/
def Ambient.Begun (entries : List NodeId) (a a' : Ambient σ) : Prop :=
  a.env = a'.env ∧ Event.entries a.journal = entries ∧ Event.entries a'.journal = entries

/-- An event within a computation is no entry of a node. -/
theorem Event.entries_note_of_isWithin {a : Ambient σ} {event : Event} {node : NodeId}
    (h : event.isWithin node = true) :
    Event.entries (a.note event).journal = Event.entries a.journal := by
  cases event with
  | entered id => cases h
  | called id argument => simp [Event.entries]
  | cancelled id signaller => simp [Event.entries]
  | noticed notice => simp [Event.entries]

/-- What is noted of a cancellation is no entry of a node. -/
theorem Event.entries_watched (node : NodeId) (signaller : Signaller) (before : Env σ)
    (a : Ambient σ) :
    Event.entries (StepM.watched node signaller before a).journal = Event.entries a.journal := by
  unfold StepM.watched
  split
  · have hwithin : isWithin node (.cancelled node signaller) = true := by simp [isWithin]
    exact entries_note_of_isWithin hwithin
  · rfl

/-- Whether the journal tells of a cancellation or not, it tells of no other update. -/
theorem Ambient.Begun.watched {entries : List NodeId} {a a' : Ambient σ}
    (h : a.Begun entries a') (node : NodeId) (signaller : Signaller) (env : Env σ) :
    Ambient.Begun entries (StepM.watched node signaller a.env { a with env })
      (StepM.watched node signaller a'.env { a' with env }) := by
  obtain ⟨henv, hentries, hentries'⟩ := h
  refine ⟨?_, ?_, ?_⟩
  · rw [StepM.env_watched, StepM.env_watched]
  · rw [Event.entries_watched]
    exact hentries
  · rw [Event.entries_watched]
    exact hentries'

/-- None of the steps of an update begins another one. They stop where the run is cancelled
or host code gives up. -/
theorem parallel_begun (entries : List NodeId) (node : NodeId) (comparer : Comparer σ)
    {stops : Stop → Prop} (hcancelled : stops (.error .cancelled))
    (hpanic : ∀ panic, stops (.panic panic)) :
    Parallel Origin.forget (Ambient.Begun (σ := σ) entries) stops node comparer
      (fun _ => True) where
  cancelled_eq := fun _ _ hR => congrArg Env.cancelled hR.1
  stops_of_cancelled := fun _ _ _ _ => hcancelled
  note := by
    rintro a a' event event' hwithin hevent ⟨henv, hentries, hentries'⟩
    have hwithin' : event'.isWithin node = true :=
      (Event.isWithin_of_relabel hevent node).trans hwithin
    exact ⟨henv, (Event.entries_note_of_isWithin hwithin).trans hentries,
      (Event.entries_note_of_isWithin hwithin').trans hentries'⟩
  perform := by
    rintro code - a a' hR
    rw [StepM.run_perform, StepM.run_perform, hR.1]
    have hafter := hR.watched node .function (code.run.run a'.env).2
    rw [hR.1] at hafter
    rcases (code.run.run a'.env).1 with panic | fault | outputs
    · exact .stopped (hpanic panic) hafter
    · exact .answered (.error rfl) hafter
    · exact .answered (.ok outputs) hafter
  compare := by
    rintro previous current a a' hR
    rw [StepM.run_observeOne, StepM.run_observeOne, hR.1]
    have hafter := hR.watched node .comparer
      ((comparer.effect previous current).run.run a'.env).2
    rw [hR.1] at hafter
    rcases ((comparer.effect previous current).run.run a'.env).1 with panic | _
    · exact .stopped (hpanic panic) hafter
    · exact .answered trivial hafter

/-- What keeps all updates that began keeps them in a run. -/
theorem Alike.ensures_grows {α : Type} {action : StepM σ α} {same : α → α → Prop}
    {s : Scratch σ}
    (h : Alike (Ambient.Begun (Event.entries s.ambient.journal)) (fun _ => True) same
      action action) (reach : NodeId → Prop) :
    Ensures (RunM.step action) s (fun _ t => Scratch.Grows reach s t) (fun _ _ => True) := by
  rw [ensures_step_iff]
  refine Ensures.intro (fun answer b hrun => ?_) fun _ _ _ => trivial
  have hends := h s.ambient s.ambient ⟨rfl, rfl, rfl⟩
  rw [hrun] at hends
  cases hends with
  | answered _ hR => exact .of_same rfl hR.2.1

/-- The single steps of programs begin no update. -/
theorem ensures_grows_changeEnv (self : NodeId) (change : Env σ → Env σ) (s : Scratch σ)
    (reach : NodeId → Prop) :
    Ensures (RunM.step (StepM.changeEnv self change)) s (fun _ t => Scratch.Grows reach s t)
      (fun _ _ => True) := by
  rw [ensures_step_iff]
  unfold Ensures
  rw [StepM.run_changeEnv]
  exact .of_same rfl (Event.entries_watched self .program s.ambient.env _)

/-- Comparisons compute no node. -/
theorem ensures_grows_observe (self : NodeId) (comparer : Comparer σ)
    (pairs : List (Value × Value)) (s : Scratch σ) (reach : NodeId → Prop) :
    Ensures (RunM.step (StepM.observe self comparer pairs)) s
      (fun _ t => Scratch.Grows reach s t) (fun _ _ => True) :=
  ((parallel_begun _ self comparer trivial fun _ => trivial).observe pairs).ensures_grows reach

/-- A call that is noted computes no node. -/
theorem ensures_grows_called (self : NodeId) (argument : Value) (s : Scratch σ)
    (reach : NodeId → Prop) :
    Ensures (RunM.step (StepM.record (.called self argument))) s
      (fun _ t => Scratch.Grows reach s t) (fun _ _ => True) := by
  rw [ensures_step_iff]
  exact ensures_record (.of_same rfl (Event.entries_note_of_isWithin (decide_eq_true rfl)))

/-- A table that is published computes no node. -/
theorem ensures_grows_publish (draft : Draft Value) (s : Scratch σ) (reach : NodeId → Prop) :
    Ensures (RunM.step (StepM.publish draft)) s (fun _ t => Scratch.Grows reach s t)
      (fun _ _ => True) :=
  ((parallel_begun _ ⟨0⟩ .structural trivial fun _ => trivial).publish draft).ensures_grows reach

/-- A check lets a run go on that is not cancelled, and changes nothing. -/
theorem ensures_live (s : Scratch σ) :
    Ensures (RunM.step StepM.check) s (fun _ t => t = s ∧ s.ambient.env.cancelled = false)
      (fun _ _ => True) := by
  rw [ensures_step_iff, ensures_check_iff]
  cases s.ambient.env.cancelled with
  | true => exact trivial
  | false => exact ⟨rfl, rfl⟩

/-! ### Pulls that are answered -/

/-- The pull of the node in state `u` gives a computation of it, which is there from then
on until state `t`. -/
def Scratch.Served (t : Scratch σ) (pull : RunM σ Computed) (id : NodeId) (u : Scratch σ) :
    Prop :=
  ∃ c v, pull.run.run u = (.ok c, v) ∧ v.find? id = some c ∧ v.computed <+: t.computed

/-- A step that no update begins in, and then what is answered after it. -/
theorem Ensures.bind_grows {α β : Type} {m : RunM σ β} {f : β → RunM σ α}
    {pull : Handle → RunM σ Computed} {reach : NodeId → Prop} {s : Scratch σ}
    {asks : β → Scratch σ → Handle → Scratch σ → Prop}
    (hm : Ensures m s (fun _ t => Scratch.Grows reach s t) (fun _ _ => True))
    (hf : ∀ answer t, m.run.run s = (.ok answer, t) → Ensures (f answer) t
      (fun _ v => Scratch.Grows reach t v ∧ ∀ handle u, asks answer t handle u →
        v.Served (pull handle) handle.node u) (fun _ _ => True)) :
    Ensures (m >>= f) s
      (fun _ v => Scratch.Grows reach s v ∧
        ∀ handle u, RunM.Leads m s (fun answer t => asks answer t handle u) →
          v.Served (pull handle) handle.node u)
      (fun _ _ => True) := by
  refine Ensures.bind hm.with_run ?_
  rintro answer t ⟨hrun, hgrows⟩
  refine (hf answer t hrun).mono ?_ fun _ _ h => h
  rintro _ v ⟨hgrows', hserved⟩
  refine ⟨hgrows.trans hgrows', ?_⟩
  rintro handle u ⟨answer', t', hrun', hasks⟩
  rw [hrun] at hrun'
  cases hrun'
  exact hserved handle u hasks

/-- A program adds to a run what the nodes add that it pulls, and each of its pulls is
answered. -/
theorem Program.grows_exec {α : Type} {driver : Driver σ} {self : NodeId}
    {pull : Handle → RunM σ Computed} {program : Program σ α} {reach : NodeId → Prop}
    {s : Scratch σ} (hpasses : program.PassesOn)
    (hpull : ∀ handle u, program.Asks driver self pull s handle u →
      Ensures (pull handle) u (fun c v => Scratch.Grows reach u v ∧ v.find? handle.node = some c)
        (fun _ _ => True)) :
    Ensures (program.exec driver self pull) s
      (fun _ t => Scratch.Grows reach s t ∧ ∀ handle u, program.Asks driver self pull s handle u →
        t.Served (pull handle) handle.node u)
      (fun _ _ => True) := by
  -- A pull is served at once, and what the rest adds leaves it served.
  induction program generalizing s with
  | done answer => exact Ensures.of_pure ⟨.of_same rfl rfl, fun _ _ hasks => hasks.elim⟩
  | stop reason => exact trivial
  | pull source next ih =>
    rw [exec_pull hpasses.1]
    refine Ensures.bind (hpull source s (.inl ⟨rfl, rfl⟩)).with_run ?_
    rintro c t ⟨hrun, hgrows, hfind⟩
    have hattempt : (pull source).attempt.run.run s = (.ok (.ok c), t) := by
      rw [RunM.run_attempt, hrun]
    refine (ih (.ok c) (hpasses.2 c) fun handle u hasks =>
      hpull handle u (.inr ⟨.ok c, t, hattempt, hasks⟩)).mono ?_ fun _ _ h => h
    rintro answer v ⟨hgrows', hserved⟩
    refine ⟨hgrows.trans hgrows', ?_⟩
    rintro handle u (⟨rfl, rfl⟩ | ⟨result, t', hrun', hasks⟩)
    · exact ⟨c, t, hrun, hfind, hgrows'.isPrefix⟩
    · rw [hattempt] at hrun'
      cases hrun'
      exact hserved handle u hasks
  | input node type next ih => exact ih _ (hpasses _) hpull
  | override node type next ih => exact ih _ (hpasses _) hpull
  | env change next ih =>
    exact .bind_grows (ensures_grows_changeEnv self change s reach) fun env t hrun =>
      ih env (hpasses env) fun handle u hasks => hpull handle u ⟨env, t, hrun, hasks⟩
  | observe comparer pairs next ih =>
    exact .bind_grows (ensures_grows_observe self comparer pairs s reach) fun _ t hrun =>
      ih hpasses fun handle u hasks => hpull handle u ⟨(), t, hrun, hasks⟩
  | call argument next ih =>
    exact .bind_grows (ensures_grows_called self argument s reach) fun _ t hrun =>
      ih hpasses fun handle u hasks => hpull handle u ⟨(), t, hrun, hasks⟩
  | publish draft next ih =>
    exact .bind_grows (ensures_grows_publish draft s reach) fun table t hrun =>
      ih table (hpasses table) fun handle u hasks => hpull handle u ⟨table, t, hrun, hasks⟩

namespace Driver

variable {driver : Driver σ} {env : Env σ}

/-- A transform and a batch both pull one source. -/
theorem grows_single {pull : NodeId → RunM σ Computed} {id first : NodeId}
    {reach : NodeId → Prop} {s : Scratch σ} (make : Site → Table Value → StepM σ Product)
    (hfirst : Ensures (pull first) s
      (fun c t => Scratch.Grows reach s t ∧ t.find? first = some c) (fun _ _ => True))
    (hmake : ∀ attempt table (t : Scratch σ), Alike
      (Ambient.Begun (Event.entries t.ambient.journal)) (fun _ => True)
      (fun product product' => product.bare = product'.bare)
      (make (driver.site id attempt) table) (make (driver.site id attempt) table)) :
    Ensures (do
        RunM.step StepM.check
        let source ← pull first
        RunM.step (make (← driver.currentSite id) source.table)) s
      (fun _ t => Scratch.Grows reach s t ∧
        ∀ source u, source = first ∧ u = s → t.Served (pull source) source u)
      (fun _ _ => True) := by
  refine Ensures.bind (ensures_live s) ?_
  rintro _ t ⟨rfl, -⟩
  refine Ensures.bind hfirst.with_run ?_
  rintro c u ⟨hrun, hgrows, hfind⟩
  refine ((hmake _ c.table u).ensures_grows reach).mono ?_ fun _ _ h => h
  intro product v hgrows'
  refine ⟨hgrows.trans hgrows', ?_⟩
  rintro source _ ⟨rfl, rfl⟩
  exact ⟨c, u, hrun, hfind, hgrows'.isPrefix⟩

/-- A custom node pulls by handle, and only nodes of the pipeline. -/
theorem grows_custom {pull : NodeId → RunM σ Computed} {id : NodeId}
    {program : Program σ Product} {reach : NodeId → Prop} {s : Scratch σ}
    (hpasses : program.PassesOn)
    (hpull : ∀ handle u, driver.pipeline.owns handle = true →
      program.Asks driver id (driver.pullHandle pull) s handle u →
      Ensures (pull handle.node) u
        (fun c v => Scratch.Grows reach u v ∧ v.find? handle.node = some c) (fun _ _ => True)) :
    Ensures (program.exec driver id (driver.pullHandle pull)) s
      (fun _ t => Scratch.Grows reach s t ∧ ∀ handle u, driver.pipeline.owns handle = true →
        program.Asks driver id (driver.pullHandle pull) s handle u →
        t.Served (pull handle.node) handle.node u)
      (fun _ _ => True) := by
  have hpullHandle : ∀ handle u, program.Asks driver id (driver.pullHandle pull) s handle u →
      Ensures (driver.pullHandle pull handle) u
        (fun c v => Scratch.Grows reach u v ∧ v.find? handle.node = some c)
        (fun _ _ => True) := by
    intro handle u hasks
    -- Handles of other pipelines are refused, and nothing is asked of such a pull.
    unfold pullHandle
    split
    · next howns => exact hpull handle u howns hasks
    · exact trivial
  refine (Program.grows_exec hpasses hpullHandle).mono ?_ fun _ _ h => h
  rintro product t ⟨hgrows, hserved⟩
  refine ⟨hgrows, fun handle u howns hasks => ?_⟩
  have hpulled := hserved handle u hasks
  rw [pullHandle, if_pos howns] at hpulled
  exact hpulled

/-- An update adds to a run what the nodes add that it pulls, and each of its pulls is
answered. -/
theorem grows_update {pull : NodeId → RunM σ Computed} {id : NodeId} {node : Node σ}
    {reach : NodeId → Prop} {s : Scratch σ} (hpasses : driver.pipeline.PassesOn)
    (hnode : driver.pipeline.node? id = some node)
    (hpull : ∀ source u, driver.Asks pull id node s source u →
      Ensures (pull source) u (fun c v => Scratch.Grows reach u v ∧ v.find? source = some c)
        (fun _ _ => True)) :
    Ensures (driver.update pull id node) s
      (fun _ t => Scratch.Grows reach s t ∧
        ∀ source u, driver.Asks pull id node s source u → t.Served (pull source) source u)
      (fun _ _ => True) := by
  -- The steps of the library's own updates begin none.
  have hparallel : ∀ t : Scratch σ, Parallel Origin.forget
      (Ambient.Begun (σ := σ) (Event.entries t.ambient.journal)) (fun _ => True) id
      (driver.comparer id node) (fun _ => True) :=
    fun t => parallel_begun _ id _ trivial fun _ => trivial
  unfold update
  unfold Asks at hpull ⊢
  cases hrole : node.role with
  | input =>
    refine Ensures.bind (ensures_live s) ?_
    rintro _ t ⟨rfl, -⟩
    cases driver.inputValues id node.element with
    | error e => exact trivial
    | ok values =>
      have hinput := Input.alike_update (hparallel t) (driver.baseline id) values
      exact (hinput.ensures_grows reach).mono
        (fun _ v hgrows => ⟨hgrows, fun _ _ hasks => hasks.elim⟩) fun _ _ h => h
  | transform first function =>
    rw [hrole] at hpull
    exact grows_single (function.update · (driver.comparer id node) (driver.baseline id) ·)
      (hpull first s ⟨rfl, rfl⟩)
      fun attempt table t => Transform.alike_update (hparallel t) (fun _ => trivial) _ rfl
  | batch first function =>
    rw [hrole] at hpull
    exact grows_single
      (Batch.update function · (driver.comparer id node) (driver.baseline id) ·)
      (hpull first s ⟨rfl, rfl⟩)
      fun attempt table t => Batch.alike_update (hparallel t) (fun _ => trivial) _ rfl
  | combine left right =>
    rw [hrole] at hpull
    refine Ensures.bind (ensures_live s) ?_
    rintro _ t ⟨rfl, -⟩
    refine Ensures.bind (hpull left t (.inl ⟨rfl, rfl⟩)).with_run ?_
    rintro l v ⟨hrun, hgrows, hfind⟩
    refine Ensures.bind (hpull right v (.inr ⟨l, v, hrun, rfl, rfl⟩)).with_run ?_
    rintro r w ⟨hrun', hgrows', hfind'⟩
    have hsite : Parallel Origin.forget (Ambient.Begun (Event.entries w.ambient.journal))
        (fun _ => True) (driver.site id (w.ended.countP (·.node = id))).node
        (driver.comparer id node) (fun _ => True) := hparallel w
    have hcombine := Combine.alike_update hsite (driver.baseline id) (@rfl _ l.table.bare)
      (@rfl _ r.table.bare)
    refine (hcombine.ensures_grows reach).mono ?_ fun _ _ h => h
    intro product x hgrows''
    refine ⟨(hgrows.trans hgrows').trans hgrows'', ?_⟩
    rintro source u (⟨rfl, rfl⟩ | ⟨l', v', hrun'', rfl, rfl⟩)
    · exact ⟨l, v, hrun, hfind, (hgrows'.trans hgrows'').isPrefix⟩
    · rw [hrun] at hrun''
      cases hrun''
      exact ⟨r, w, hrun', hfind', hgrows''.isPrefix⟩
  | custom name turns program =>
    rw [hrole] at hpull
    have hprogram := hpasses node (List.mem_of_getElem? hnode) name turns program hrole id
      (driver.baseline id)
    refine (grows_custom hprogram fun handle u howns hasks =>
      hpull handle.node u ⟨handle, howns, rfl, hasks⟩).mono ?_ fun _ _ h => h
    rintro product t ⟨hgrows, hserved⟩
    refine ⟨hgrows, ?_⟩
    rintro source u ⟨handle, howns, rfl, hasks⟩
    exact hserved handle u howns hasks

/-- A node's computation adds what its update adds, and then itself. -/
theorem grows_compute {pull : NodeId → RunM σ Computed} {id : NodeId} {node : Node σ}
    {reach : NodeId → Prop} {s : Scratch σ} (hpasses : driver.pipeline.PassesOn)
    (hnode : driver.pipeline.node? id = some node) (hnew : s.find? id = none) (hid : ¬reach id)
    (hpull : s.ambient.env.cancelled = false → ∀ source u,
      driver.Asks pull id node (s.enter id) source u →
      Ensures (pull source) u (fun c v => Scratch.Grows reach u v ∧ v.find? source = some c)
        (fun _ _ => True)) :
    Ensures (driver.compute pull id) s
      (fun c t => Scratch.Grows (fun other => reach other ∨ other = id) s t ∧ t.find? id = some c ∧
        s.ambient.env.cancelled = false ∧ ∃ u : Scratch σ, t.computed = u.computed ++ [c] ∧
          c.node = id ∧ ∀ source v, driver.Asks pull id node (s.enter id) source v →
            u.Served (pull source) source v)
      (fun _ _ => True) := by
  unfold compute
  refine Ensures.bind (ensures_live s) ?_
  rintro _ t ⟨rfl, hlive⟩
  rw [hnode]
  show Ensures (RunM.step (StepM.record (.entered id)) >>= fun _ =>
    driver.update pull id node >>= driver.settle id node) _ _ _
  rw [Ensures.bind_iff, ensures_step_iff]
  refine Ensures.bind (grows_update (s := t.enter id) hpasses hnode (hpull hlive)) ?_
  rintro product u ⟨hgrows, hserved⟩
  -- That the node was computed is noted, and no update begins with that.
  have hentries : Event.entries (settled id node product u.ambient).journal
      = Event.entries u.ambient.journal :=
    Event.entries_note_of_isWithin (show Event.isWithin id (.noticed _) = true from rfl)
  have hadd : Scratch.Grows (fun other => reach other ∨ other = id) t
      ({ u with ambient := settled id node product u.ambient }.add
        (driver.computation id product u.ended.length)) := hgrows.add hid hnew rfl hentries
  refine ⟨hadd, (Scratch.find?_add _ _ id).trans (if_pos rfl), hlive, u, ?_, rfl, hserved⟩
  exact Scratch.computed_add _ _

/-! ### Pulls of a run without cycles -/

/-- What a node pulls adds only what the node draws on. -/
theorem Pulls.grows_within {depth : Nat} {id source : NodeId} {s : Scratch σ}
    (hpulls : driver.Pulls env (some id) depth source s)
    (h : Ensures (driver.pull depth source) s
      (fun c t => Scratch.Grows (Relation.ReflTransGen (driver.Draws env) source) s t ∧
        t.find? source = some c) (fun _ _ => True)) :
    Ensures (driver.pull depth source) s
      (fun c t => Scratch.Grows (Relation.TransGen (driver.Draws env) id) s t ∧
        t.find? source = some c) (fun _ _ => True) := by
  refine h.mono ?_ fun _ _ h => h
  rintro c t ⟨hgrows, hfound⟩
  exact ⟨hgrows.mono fun _ hreach => .head' ⟨depth, s, hpulls⟩ hreach, hfound⟩

/-- A pull adds nodes that the pulled one draws on, and itself, once each. -/
theorem Pulls.grows (hpasses : driver.pipeline.PassesOn)
    (hacyclic : driver.Acyclic env) {puller : Option NodeId} {depth : Nat}
    {id : NodeId} {s : Scratch σ} (h : driver.Pulls env puller depth id s) :
    Ensures (driver.pull depth id) s
      (fun c t => Scratch.Grows (Relation.ReflTransGen (driver.Draws env) id) s t ∧
        t.find? id = some c)
      (fun _ _ => True) := by
  induction depth generalizing puller id s with
  | zero =>
    rw [pull, ensures_memoized_iff]
    cases s.find? id with
    | some c => exact ⟨.of_same rfl rfl, rfl⟩
    | none => exact trivial
  | succ depth ih =>
    rw [pull, ensures_memoized_iff]
    cases hfind : s.find? id with
    | some c => exact ⟨.of_same rfl rfl, rfl⟩
    | none =>
      obtain ⟨node, hnode⟩ := (driver.pipeline.contains_iff id).mp h.contains
      -- What the update adds is drawn on by the node, and the node is not.
      refine (grows_compute hpasses hnode hfind (hacyclic id) ?_).mono ?_ fun _ _ h => h
      · intro hlive source u hasks
        have hpulls := h.asked hfind hlive hnode hasks
        exact hpulls.grows_within (ih hpulls)
      · rintro c t ⟨hgrows, hfound, -⟩
        refine ⟨hgrows.mono fun other hother => ?_, hfound⟩
        rcases hother with hreach | rfl
        · exact hreach.to_reflTransGen
        · exact .refl

/-- All that a node of the pipeline draws on is in the pipeline. -/
theorem contains_of_reflTransGen {id source : NodeId}
    (hid : driver.pipeline.contains id = true)
    (h : Relation.ReflTransGen (driver.Draws env) id source) :
    driver.pipeline.contains source = true := by
  cases h with
  | refl => exact hid
  | tail _ hdraws =>
    obtain ⟨depth, s, hpulls⟩ := hdraws
    exact hpulls.contains

/-- Visits that succeed are followed by the visits of the rest. -/
theorem run_visitAll_append {first rest : List NodeId} {s t : Scratch σ}
    (h : (driver.visitAll first).run.run s = (.ok (), t)) :
    (driver.visitAll (first ++ rest)).run.run s = (driver.visitAll rest).run.run t := by
  induction first generalizing s with
  | nil =>
    cases h
    rfl
  | cons id first ih =>
    obtain ⟨_, u, hvisit, hrest⟩ := Stoppable.exists_run_of_bind h
    rw [List.cons_append, visitAll, Stoppable.run_bind, hvisit]
    exact ih hrest

/-- A visit that succeeds after others makes one longer list of visits. -/
theorem run_visitAll_concat {ids : List NodeId} {id : NodeId} {s t u : Scratch σ}
    (h : (driver.visitAll ids).run.run s = (.ok (), t))
    (hvisit : (driver.visit id).run.run t = (.ok (), u)) :
    (driver.visitAll (ids ++ [id])).run.run s = (.ok (), u) := by
  rw [run_visitAll_append h, visitAll, Stoppable.run_bind, hvisit]
  rfl

/-- A visit that does not stop is a pull. -/
theorem run_pull_of_visit {id : NodeId} {s t : Scratch σ}
    (h : (driver.visit id).run.run s = (.ok (), t)) :
    ∃ c, (driver.pull driver.depth id).run.run s = (.ok c, t) := by
  unfold visit at h
  rw [Stoppable.run_tryCatch, Stoppable.run_discard] at h
  cases hpull : (driver.pull driver.depth id).run.run s with
  | mk result u =>
    cases result with
    | ok c =>
      rw [hpull] at h
      cases h
      exact ⟨c, rfl⟩
    | error stop =>
      obtain ⟨a, habandon⟩ := driver.exists_run_abandon id stop u
      rw [hpull] at h
      dsimp only at h
      rw [habandon] at h
      cases h

/-- The visits of the remaining nodes add nodes of the pipeline, theirs among them. -/
theorem grows_visitAll (hpasses : driver.pipeline.PassesOn)
    (hacyclic : driver.Acyclic env) {before rest : List NodeId}
    {s t : Scratch σ} (hids : driver.pipeline.ids = before ++ rest)
    (hbefore : (driver.visitAll before).run.run (driver.start env) = (.ok (), s))
    (hrun : (driver.visitAll rest).run.run s = (.ok (), t)) :
    Scratch.Grows (driver.pipeline.contains · = true) s t ∧
      ∀ id ∈ rest, (t.find? id).isSome = true := by
  induction rest generalizing before s with
  | nil =>
    cases hrun
    exact ⟨.of_same rfl rfl, by simp⟩
  | cons id rest ih =>
    obtain ⟨_, u, hvisit, hrun⟩ := Stoppable.exists_run_of_bind hrun
    have hpulls : driver.Pulls env none driver.depth id s := .visited hids hbefore
    obtain ⟨c, hpull⟩ := run_pull_of_visit hvisit
    obtain ⟨hgrows, hfind⟩ := (hpulls.grows hpasses hacyclic).of_ok hpull
    obtain ⟨hgrows', hfound⟩ := ih (by rw [hids, List.append_assoc]; rfl)
      (run_visitAll_concat hbefore hvisit) hrun
    -- All that the node draws on is of the pipeline, so what its pull added is too.
    have hwithin : Scratch.Grows (driver.pipeline.contains · = true) s u :=
      hgrows.mono fun _ hreach => contains_of_reflTransGen hpulls.contains hreach
    refine ⟨hwithin.trans hgrows', fun other hmem => ?_⟩
    rcases List.mem_cons.mp hmem with rfl | hmem
    · rw [hgrows'.find?_eq_some hfind]
      rfl
    · exact hfound other hmem

/-- In a run that completes each node is computed once, and begun once. -/
theorem perm_of_visitAll (hpasses : driver.pipeline.PassesOn)
    (hacyclic : driver.Acyclic env) {s : Scratch σ}
    (hrun : (driver.visitAll driver.pipeline.ids).run.run (driver.start env) = (.ok (), s)) :
    (s.computed.map Computed.node).Perm driver.pipeline.ids ∧
      (Event.entries s.ambient.journal).Perm driver.pipeline.ids := by
  have hids : driver.pipeline.ids = [] ++ driver.pipeline.ids := rfl
  obtain ⟨⟨added, hcomputed, hnodup, hadded, hentries⟩, hfound⟩ :=
    grows_visitAll hpasses hacyclic hids rfl hrun
  have hall : s.computed = added := hcomputed
  rw [← hall] at hnodup hadded hentries
  have hnodes : (s.computed.map Computed.node).Perm driver.pipeline.ids := by
    have hdistinct : driver.pipeline.ids.Nodup := NodeId.nodup_firsts _
    rw [List.perm_ext_iff_of_nodup hnodup hdistinct]
    intro id
    constructor
    · intro hid
      obtain ⟨c, hc, rfl⟩ := List.mem_map.mp hid
      exact (driver.pipeline.mem_ids _).mpr (hadded c hc).2
    · intro hid
      obtain ⟨c, hc⟩ := Option.isSome_iff_exists.mp (hfound id hid)
      obtain ⟨hmem, rfl⟩ := Scratch.mem_of_find? hc
      exact List.mem_map_of_mem hmem
  exact ⟨hnodes, hentries.trans hnodes⟩

/-- In a run that completes every pull gives the computation that its node has in the end,
and the node that pulls ends after the one that it pulls. -/
theorem Pulls.served (hpasses : driver.pipeline.PassesOn)
    (hacyclic : driver.Acyclic env) {final : Scratch σ}
    (hrun : (driver.visitAll driver.pipeline.ids).run.run (driver.start env) = (.ok (), final))
    {puller : Option NodeId} {depth : Nat} {id : NodeId} {s : Scratch σ}
    (h : driver.Pulls env puller depth id s) :
    ∃ c t, (driver.pull depth id).run.run s = (.ok c, t) ∧ t.find? id = some c ∧
      t.computed <+: final.computed ∧
      ∀ other, puller = some other → [id, other].Sublist (final.computed.map Computed.node) := by
  induction h with
  | @visited before after id s hids hbefore =>
    have hpulls : driver.Pulls env none driver.depth id s := .visited hids hbefore
    rw [hids, run_visitAll_append hbefore] at hrun
    obtain ⟨_, u, hvisit, hrun⟩ := Stoppable.exists_run_of_bind hrun
    obtain ⟨c, hpull⟩ := run_pull_of_visit hvisit
    obtain ⟨hgrows, -⟩ := grows_visitAll hpasses hacyclic (by rw [hids, List.append_assoc]; rfl)
      (run_visitAll_concat hbefore hvisit) hrun
    exact ⟨c, u, hpull, ((hpulls.grows hpasses hacyclic).of_ok hpull).2, hgrows.isPrefix, by simp⟩
  | @asked puller depth id source node s u hpulls hnew hlive hnode hasks ih =>
    obtain ⟨c, t, hpull, -, hextends, -⟩ := ih
    have hcompute := grows_compute hpasses hnode hnew (hacyclic id) fun _ source u hasks =>
      have hsource := hpulls.asked hnew hlive hnode hasks
      hsource.grows_within (hsource.grows hpasses hacyclic)
    rw [pull, run_memoized, hnew] at hpull
    obtain ⟨-, -, -, w, hcomputed, hc, hserved⟩ := hcompute.of_ok hpull
    obtain ⟨d, v, hrun', hfind, hserved⟩ := hserved source u hasks
    have hlast : w.computed ++ [c] <+: final.computed := hcomputed ▸ hextends
    refine ⟨d, v, hrun', hfind, hserved.trans ((List.prefix_append _ _).trans hlast), ?_⟩
    rintro other hother
    cases hother
    -- The node that is pulled was there before the other one was added.
    obtain ⟨hmem, hd⟩ := Scratch.mem_of_find? hfind
    have hbefore : [source].Sublist (w.computed.map Computed.node) := by
      rw [List.singleton_sublist, ← hd]
      exact List.mem_map_of_mem (hserved.subset hmem)
    have hboth : [source, id].Sublist ((w.computed ++ [c]).map Computed.node) := by
      rw [List.map_append, List.map_singleton, hc]
      exact hbefore.append (List.Sublist.refl [id])
    exact hboth.trans (hlast.sublist.map _)

end Driver

end DeltaPipeline
