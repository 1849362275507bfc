import DeltaPipeline.Proofs.Alignment
import DeltaPipeline.Proofs.Conduct

/-!
# `DeltaPipeline.Proofs.Turns`: a run, turn by turn

In a run each node takes one turn: it makes a table of those of its sources, and its
function is called for the arguments that it has then. `Driver.Turn` records the turn of
a node, `Driver.Turns` the turns taken so far and the calls that were made in them, and
`Driver.Stops` why a run stopped.

* `Ambient.Tells`: the journal tells if the run is cancelled.
* `Driver.Turn`, `Driver.Turns`: the turn of one node, and all turns so far.
* `Driver.Turns.step`: what a turn adds.
* `Driver.turns_of_run`, `Driver.stops_of_run`: runs that complete and runs that stop.
-/

set_option autoImplicit false

namespace DeltaPipeline

variable {σ : Type}

/-! ### The journal tells of cancellation -/

/-- Does the entry tell that the run was cancelled? -/
def Event.isCancelled : Event → Bool
  | .cancelled _ _ => true
  | _ => false

/-- A run that began in this environment is cancelled exactly if it was then or if the
journal tells so. After that the journal tells of no call and of no cancellation. -/
structure Ambient.Tells (env : Env σ) (a : Ambient σ) : Prop where
  flag : a.env.cancelled = true ↔
    env.cancelled = true ∨ ∃ id signaller, .cancelled id signaller ∈ a.journal
  idle : env.cancelled = true → ∀ event ∈ a.journal, event.isNote = true
  ordered : a.journal.Pairwise fun earlier later =>
    earlier.isCancelled = true → later.isNote = true

/-- What tells of a cancellation names the node and who cancelled. -/
theorem Event.isCancelled_eq_true_iff {event : Event} :
    event.isCancelled = true ↔ ∃ id signaller, event = .cancelled id signaller := by
  cases event <;> simp [isCancelled]

namespace Ambient.Tells

variable {env : Env σ} {a b : Ambient σ} {id : NodeId}

/-- Where the run is not cancelled, no entry tells that it was. -/
theorem not_isCancelled (h : a.Tells env) (hlive : a.env.cancelled = false) :
    env.cancelled = false ∧ ∀ event ∈ a.journal, event.isCancelled = false := by
  have hnone := mt h.flag.mpr (by simp [hlive])
  rw [not_or] at hnone
  refine ⟨by simpa using hnone.1, fun event hevent => ?_⟩
  rw [Bool.eq_false_iff, ne_eq, Event.isCancelled_eq_true_iff]
  rintro ⟨culprit, signaller, rfl⟩
  exact hnone.2 ⟨culprit, signaller, hevent⟩

/-- A run is cancelled once. -/
theorem eq_of_mem (h : a.Tells env) {id' : NodeId} {signaller signaller' : Signaller}
    (hmem : .cancelled id signaller ∈ a.journal) (hmem' : .cancelled id' signaller' ∈ a.journal) :
    id = id' ∧ signaller = signaller' := by
  -- Of two entries one is later, and what is later tells of no cancellation.
  obtain ⟨before, after, hjournal⟩ := List.append_of_mem hmem
  have hordered := h.ordered
  rw [hjournal, List.pairwise_append, List.pairwise_cons] at hordered
  obtain ⟨-, ⟨hafter, -⟩, hbefore⟩ := hordered
  rw [hjournal] at hmem'
  rcases List.mem_append.mp hmem' with hearlier | hmem'
  · cases hbefore _ hearlier _ List.mem_cons_self rfl
  · rcases List.mem_cons.mp hmem' with heq | hlater
    · cases heq
      exact ⟨rfl, rfl⟩
    · cases hafter _ hlater rfl

/-- Once the run is cancelled, only notes are added. -/
theorem append {events : List Event} (h : a.Tells env)
    (hjournal : b.journal = a.journal ++ events)
    (hnotes : a.env.cancelled = true → ∀ event ∈ events, event.isNote = true)
    (hordered : events.Pairwise fun earlier later =>
      earlier.isCancelled = true → later.isNote = true)
    (hflag : b.env.cancelled = true ↔
      a.env.cancelled = true ∨ ∃ id signaller, .cancelled id signaller ∈ events) :
    b.Tells env := by
  constructor
  · rw [hflag, h.flag, hjournal]
    simp only [List.mem_append, exists_or, or_assoc]
  · intro hcancelled event hevent
    rw [hjournal] at hevent
    rcases List.mem_append.mp hevent with hmem | hmem
    · exact h.idle hcancelled event hmem
    · exact hnotes (h.flag.mpr (.inl hcancelled)) event hmem
  · rw [hjournal, List.pairwise_append]
    refine ⟨h.ordered, hordered, fun earlier hearlier later hlater hcancelled => ?_⟩
    obtain ⟨culprit, signaller, rfl⟩ := Event.isCancelled_eq_true_iff.mp hcancelled
    exact hnotes (h.flag.mpr (.inr ⟨culprit, signaller, hearlier⟩)) later hlater

/-- A note leaves what is told of the token. -/
theorem note (h : a.Tells env) {event : Event} (hnote : event.isNote = true) :
    (a.note event).Tells env := by
  refine h.append (journal_note a event) ?_ (List.pairwise_singleton _ _) ?_
  · intro _ other hother
    rw [List.mem_singleton.mp hother]
    exact hnote
  · have hnone : ∀ id signaller, .cancelled id signaller ∉ [event] := by
      intro id signaller hmem
      rw [← List.mem_singleton.mp hmem] at hnote
      cases hnote
    simp [hnone]

/-- A call comes before the entry that tells that it cancelled the run. -/
theorem called (h : a.Tells env) (hlive : a.env.cancelled = false) (call : Call σ) :
    (a.called id call).Tells env := by
  refine h.append (journal_called a id call) ?_ ?_ ?_
  · intro hcancelled
    rw [hlive] at hcancelled
    cases hcancelled
  · refine List.pairwise_cons.mpr ⟨fun later _ hcancelled => ?_, pairwise_told⟩
    cases hcancelled
  · simp [mem_told, hlive]

/-- A comparison may cancel the run, and then the journal tells so. -/
theorem compared (h : a.Tells env) {comparer : Comparer σ} {previous current : Value}
    {after : Env σ} (hrun : (comparer.effect previous current).run.run a.env = (.ok (), after)) :
    (a.compared id after).Tells env := by
  refine h.append (journal_compared a id after) ?_ pairwise_told ?_
  · intro hcancelled event hevent
    rw [(mem_told.mp hevent).1] at hcancelled
    cases hcancelled
  · rw [env_compared]
    cases hflag : a.env.cancelled with
    | true =>
      -- What was cancelled stays so.
      have hafter := comparer.cancelled_effect previous current a.env hflag
      rw [hrun] at hafter
      simpa using hafter
    | false => simp [mem_told]

/-- Every trace tells of the token what the journal says, act by act. -/
theorem traces {role : Role σ NodeId} {comparer : Comparer σ} {acts : List (Act σ)}
    (h : a.Tells env) (htraces : Traces id role comparer a acts b) : b.Tells env := by
  induction htraces with
  | nil => exact h
  | noted event hrest hnote ih => exact ih.note hnote
  | called call hrest hlive hbefore hanswers ih => exact ih.called hlive call
  | compared previous current hrest hrun ih => exact ih.compared hrun

end Ambient.Tells

/-! ### The end of an update -/

namespace Concludes

variable {id : NodeId} {role : Role σ NodeId} {comparer : Comparer σ} {a b : Ambient σ}
  {acts : List (Act σ)}

/-- The run is not cancelled when an update begins. -/
theorem live (h : Concludes id role comparer a acts b) : a.env.cancelled = false := by
  obtain ⟨early, late, between, -, hearly, hlive, -, -, -⟩ := h
  exact hearly.live hlive

/-- Only comparisons that end the update can have cancelled the run. -/
theorem ended {env : Env σ} {culprit : NodeId} {signaller : Signaller}
    (h : Concludes id role comparer a acts b) (htells : a.Tells env)
    (hmem : .cancelled culprit signaller ∈ b.journal) :
    culprit = id ∧ signaller = .comparer ∧ role.endsComparing = true := by
  obtain ⟨early, late, between, -, hearly, hlive, hlate, hcompared, hquiet⟩ := h
  obtain ⟨-, hnone⟩ := (htells.traces hearly).not_isCancelled hlive
  rcases hlate.mem_cancelled hmem with hbefore | ⟨rfl, act, hact, rfl⟩
  · cases hnone _ hbefore
  · refine ⟨rfl, by rw [hcompared act hact]; rfl, ?_⟩
    by_contra hends
    rw [hquiet (by simpa using hends)] at hact
    cases hact

end Concludes

/-! ### The turn of a node -/

/-- A run that is cancelled by this part of this node stops. It does so unless it was the
comparer of the last node, and that is an input or a batch. -/
def Pipeline.Interrupts (pipeline : Pipeline σ) (id : NodeId) (signaller : Signaller) : Prop :=
  signaller = .function ∨ id.raw + 1 < pipeline.size ∨
    ∃ node, pipeline.node? id = some node ∧ node.role.endsComparing = false

namespace Driver

variable {driver : Driver σ} {accepts : NodeId → Value → Value → Prop} {env : Env σ}
  {computed : List Computed}

/-- The turn that a node took in a run: what it made of its sources, and the calls of its
function. -/
structure Turn (driver : Driver σ) (computed : List Computed) (journal : List Event)
    (calls : List (Call σ)) (id : NodeId) (node : Node σ) : Prop where
  made : ∃ product, driver.Makes (Computed.tableOf computed) id node product ∧
    Computed.find? computed id = some (driver.computation id product id.raw)
  answered : ∀ call ∈ calls, node.role.Answers call
  called : UpToFault (driver.arguments (Computed.tableOf computed) id node) calls
    (calls.findSome? Call.fault?)
  raised : (∀ source ∈ node.sources, (Computed.tableOf computed source).isFaulted = false) →
    (∀ left right, node.role ≠ .combine left right) →
    (Computed.tableOf computed id).fault? = calls.findSome? Call.fault?
  carried : ∀ source ∈ node.sources, (Computed.tableOf computed source).isFaulted = true →
    ∃ before after, journal = before ++
      [.entered id, .noticed (.computed id node.kind .faulted)] ++ after

/-- What a node makes of a faulted source carries the first fault on. -/
theorem Makes.of_isFaulted {tables : NodeId → Table Value} {id source : NodeId} {node : Node σ}
    {product : Product} (h : driver.Makes tables id node product) (hsource : source ∈ node.sources)
    (hfaulted : (tables source).isFaulted = true) :
    ∃ first fault, node.sources.find? (fun source => (tables source).isFaulted) = some first ∧
      tables first = .faulted fault ∧ product = .table (.faulted fault) := by
  have hnone : ¬ ∀ source ∈ node.sources, (tables source).isFaulted = false := by
    intro hall
    rw [hall source hsource] at hfaulted
    cases hfaulted
  cases h with
  | carried first fault hfirst hfault => exact ⟨first, fault, hfirst, hfault, rfl⟩
  | reused hsources hcompacted hempty =>
    exact absurd (fun s hs => Table.isFaulted_of_isCompacted (hcompacted s hs)) hnone
  | settled hrole hfeeds hwritten hcached hempty =>
    rw [Node.sources_of_role hrole] at hsource
    cases hsource
  | refused left right hrole hfaults hstale hsingle => exact absurd hfaults hnone
  | failed fault hfeeds hfaults hstale hfailed => exact absurd hfaults hnone
  | written hfeeds hfaults hstale hchanged hwritten => exact absurd hfaults hnone

/-- A baseline carries no fault, so the table of a node carries that of its update. -/
theorem Founded.fault?_resolve {id : NodeId} {node : Node σ}
    (h : driver.Founded accepts id node) (product : Product) :
    (product.resolve (driver.baseline id)).fault? = product.fault? := by
  cases product with
  | table t => rfl
  | unchanged =>
    rcases h.isBaseline with hempty | ⟨groups, hgroups⟩
    · rw [Product.resolve, hempty]
      rfl
    · rw [Product.resolve, hgroups]
      rfl

/-- Later turns change nothing of it. -/
theorem Turn.append {journal : List Event} {calls : List (Call σ)} {id : NodeId} {node : Node σ}
    {last : Computed} (h : driver.Turn computed journal calls id node)
    (hnode : driver.pipeline.node? id = some node) (hlt : id.raw < computed.length)
    (hlast : last.node = ⟨computed.length⟩) (events : List Event) :
    driver.Turn (computed ++ [last]) (journal ++ events) calls id node := by
  have hself := Computed.tableOf_append_of_lt hlast hlt
  have hsame : ∀ source ∈ node.sources,
      Computed.tableOf computed source = Computed.tableOf (computed ++ [last]) source := by
    intro source hsource
    have hbefore := Nat.lt_trans (Pipeline.exists_source hnode hsource).1 hlt
    exact (Computed.tableOf_append_of_lt hlast hbefore).symm
  constructor
  · obtain ⟨product, hmakes, hfind⟩ := h.made
    exact ⟨product, hmakes.congr hsame, by rw [Computed.find?_append_of_lt hlast hlt, hfind]⟩
  · exact h.answered
  · rw [← arguments_congr hsame]
    exact h.called
  · intro hfaults
    rw [hself]
    exact h.raised fun source hsource => by rw [hsame source hsource, hfaults source hsource]
  · intro source hsource hfaulted
    rw [← hsame source hsource] at hfaulted
    obtain ⟨before, after, hjournal⟩ := h.carried source hsource hfaulted
    exact ⟨before, after ++ events, by rw [hjournal, List.append_assoc]⟩

/-- The turn that a node takes is one that it should. -/
theorem turn_of_performs {a b : Ambient σ} {node : Node σ} {product : Product}
    {acts : List (Act σ)} (hcoherent : driver.Coherent accepts)
    (hnode : driver.pipeline.node? ⟨computed.length⟩ = some node)
    (hmakes : driver.Makes (Computed.tableOf computed) ⟨computed.length⟩ node product)
    {comparer : Comparer σ} (htraces : Traces ⟨computed.length⟩ node.role comparer a acts b)
    (hperforms : driver.Performs (Computed.tableOf computed) ⟨computed.length⟩ node
      (a.note (.entered ⟨computed.length⟩)) product acts b) :
    driver.Turn
      (computed ++ [driver.computation ⟨computed.length⟩ product computed.length])
      (settled ⟨computed.length⟩ node product b).journal (Act.calls acts) ⟨computed.length⟩
      node := by
  -- The sources come before the node, so its own table changes nothing of theirs.
  have hsame : ∀ source ∈ node.sources, Computed.tableOf computed source = Computed.tableOf
      (computed ++ [driver.computation ⟨computed.length⟩ product computed.length]) source := by
    intro source hsource
    exact (Computed.tableOf_append_of_lt rfl (Pipeline.exists_source hnode hsource).1).symm
  have hfind : Computed.find?
      (computed ++ [driver.computation ⟨computed.length⟩ product computed.length])
      ⟨computed.length⟩ = some (driver.computation ⟨computed.length⟩ product computed.length) := by
    rw [Computed.find?_append_singleton, computation, if_pos rfl]
  obtain ⟨fault?, hcalled, hraised⟩ := hperforms.called
  constructor
  · exact ⟨product, hmakes.congr hsame, hfind⟩
  · exact htraces.answers
  · rw [hcalled.findSome?_eq, ← arguments_congr hsame]
    exact hcalled
  · intro hfaults hcombine
    have hproduct := hraised
      (fun source hsource => by rw [hsame source hsource, hfaults source hsource]) hcombine
    rw [Computed.tableOf, hfind, hcalled.findSome?_eq, ← hproduct]
    exact (hcoherent _ node hnode).fault?_resolve product
  · intro source hsource hfaulted
    rw [← hsame source hsource] at hfaulted
    obtain ⟨first, fault, -, -, rfl⟩ := hmakes.of_isFaulted hsource hfaulted
    refine ⟨a.journal, [], ?_⟩
    rw [settled, hperforms.carried source hsource hfaulted, Ambient.journal_note,
      Ambient.journal_note, List.append_nil, List.append_assoc]
    rfl

/-! ### All turns so far -/

/-- Comparisons of nodes lead from the first environment to the second. -/
def Leads (driver : Driver σ) : Env σ → Env σ → Prop :=
  Relation.ReflTransGen fun env after => ∃ id node, driver.pipeline.node? id = some node ∧
    (driver.comparer id node).Leads env after

/-- The turns that nodes took so far in a run that began in this environment, and the calls
of their functions. If the run is cancelled, then by comparisons that ended the last
turn. -/
structure Turns (driver : Driver σ) (env : Env σ) (computed : List Computed) (a : Ambient σ)
    (calls : NodeId → List (Call σ)) : Prop where
  turn : ∀ id node, driver.pipeline.node? id = some node → id.raw < computed.length →
    driver.Turn computed a.journal (calls id) id node
  listed : Event.calls a.journal = (NodeId.firsts computed.length).flatMap fun id =>
    (calls id).map fun call => (id, call.argument)
  threaded : Threads driver.Leads env ((NodeId.firsts computed.length).flatMap calls) a.env
  tells : a.Tells env
  started : computed ≠ [] → env.cancelled = false
  ended : ∀ id signaller, .cancelled id signaller ∈ a.journal → id.raw + 1 = computed.length ∧
    signaller = .comparer ∧
    ∃ node, driver.pipeline.node? id = some node ∧ node.role.endsComparing = true

/-- Why a run stops that began in this environment: user code gave up, or the run was
cancelled where it could not go on. -/
inductive Stops (driver : Driver σ) (env : Env σ) : Stop → Ambient σ → Prop where
  | panicked (panic : Panic) (id : NodeId) (node : Node σ) (a : Ambient σ) :
    driver.pipeline.node? id = some node → driver.MayPanic id node panic →
    Stops driver env (.panic panic) a
  | cancelled (a : Ambient σ) : a.Tells env → a.env.cancelled = true →
    (env.cancelled = true ∨ ∃ id signaller, .cancelled id signaller ∈ a.journal ∧
      driver.pipeline.Interrupts id signaller) →
    Stops driver env (.error .cancelled) a

/-- Before the first node no turn was taken. -/
theorem turns_start (driver : Driver σ) (env : Env σ) :
    driver.Turns env [] (driver.start env).ambient fun _ => [] where
  turn := fun _ _ _ hlt => absurd hlt (Nat.not_lt_zero _)
  listed := rfl
  threaded := .nil .refl
  tells := by
    constructor
    · simp [start, Ambient.journal]
    · simp [start, Ambient.journal, Event.isNote]
    · simp [start, Ambient.journal]
  started := fun h => absurd rfl h
  ended := by simp [start, Ambient.journal]

namespace Turns

variable {a b : Ambient σ} {calls : NodeId → List (Call σ)} {node : Node σ}

/-- What a turn adds: the calls of its node come after those of the nodes before. -/
theorem step {product : Product} {acts : List (Act σ)} (h : driver.Turns env computed a calls)
    (hcoherent : driver.Coherent accepts)
    (hnode : driver.pipeline.node? ⟨computed.length⟩ = some node)
    (hmakes : driver.Makes (Computed.tableOf computed) ⟨computed.length⟩ node product)
    (hperforms : driver.Performs (Computed.tableOf computed) ⟨computed.length⟩ node
      (a.note (.entered ⟨computed.length⟩)) product acts b)
    (hconcludes : Concludes ⟨computed.length⟩ node.role
      (driver.comparer ⟨computed.length⟩ node) a acts b) :
    driver.Turns env
      (computed ++ [driver.computation ⟨computed.length⟩ product computed.length])
      (settled ⟨computed.length⟩ node product b)
      (NodeId.update calls ⟨computed.length⟩ (Act.calls acts)) := by
  have htraces := hconcludes.traces
  have hlive := hconcludes.live
  have hjournal : (settled ⟨computed.length⟩ node product b).journal
      = b.journal ++ [.noticed (.computed ⟨computed.length⟩ node.kind product.outcome)] :=
    Ambient.journal_note b _
  constructor
  · intro id node' hnode' hlt
    rw [List.length_append] at hlt
    -- A node before keeps its turn; the last one has just taken it.
    rcases NodeId.lt_or_eq hlt with hbefore | rfl
    · have hne : id ≠ ⟨computed.length⟩ := by
        rintro rfl
        exact Nat.lt_irrefl _ hbefore
      obtain ⟨events, hevents⟩ := htraces.exists_journal
      rw [NodeId.update_of_ne _ _ hne, hjournal, hevents, List.append_assoc]
      exact (h.turn id node' hnode' hbefore).append hnode' hbefore rfl _
    · rw [hnode, Option.some.injEq] at hnode'
      subst hnode'
      rw [NodeId.update_self]
      exact turn_of_performs hcoherent hnode hmakes htraces hperforms
  · have hlisted : Event.calls (settled ⟨computed.length⟩ node product b).journal
        = Event.calls b.journal := by
      rw [hjournal, Event.calls_append]
      exact List.append_nil _
    rw [hlisted, htraces.calls_journal, h.listed, List.length_append, List.length_singleton,
      NodeId.flatMap_firsts_update calls _ _ fun id calls =>
        calls.map fun call => (id, call.argument)]
  · rw [List.length_append, List.length_singleton,
      NodeId.flatMap_firsts_update calls _ _ fun _ calls => calls]
    refine h.threaded.append .trans (htraces.threads.mono fun _ _ hleads => ?_)
    exact .single ⟨_, node, hnode, hleads⟩
  · exact (h.tells.traces htraces).note rfl
  -- What is told last is no cancellation, as the run goes on.
  · exact fun _ => (h.tells.not_isCancelled hlive).1
  · intro culprit signaller hmem
    rw [hjournal, List.mem_append, List.mem_singleton] at hmem
    rcases hmem with hmem | hnotice
    · obtain ⟨rfl, hsignaller, hends⟩ := hconcludes.ended h.tells hmem
      exact ⟨by simp, hsignaller, node, hnode, hends⟩
    · cases hnotice

/-- A turn in which the node halts stops the run. -/
theorem stops {stop : Stop} (h : driver.Turns env computed a calls)
    (hnode : driver.pipeline.node? ⟨computed.length⟩ = some node)
    (hhalts : driver.Halts ⟨computed.length⟩ node a stop b) :
    driver.Stops env stop (driver.abandoned ⟨computed.length⟩ node stop b) := by
  cases hhalts with
  | panicked panic b hpanic => exact .panicked panic _ node _ hnode hpanic
  | @cancelled acts b htraces hcancelled hquiet =>
    have htells := h.tells.traces htraces
    refine .cancelled _ (htells.note rfl) hcancelled ?_
    refine (htells.flag.mp hcancelled).imp_right ?_
    rintro ⟨culprit, signaller, hmem⟩
    refine ⟨culprit, signaller, ?_, ?_⟩
    · show _ ∈ (b.note _).journal
      rw [Ambient.journal_note]
      exact List.mem_append_left _ hmem
    rcases htraces.mem_cancelled hmem with hbefore | ⟨rfl, act, hact, rfl⟩
    · -- The node before this one ended with comparisons, so it is not the last one.
      have hlength := (h.ended culprit signaller hbefore).1
      have hlt : computed.length < driver.pipeline.size :=
        (List.getElem?_eq_some_iff.mp hnode).1
      exact .inr (.inl (by omega))
    · cases act with
      | called call => exact .inl rfl
      | compared =>
        refine .inr (.inr ⟨node, hnode, ?_⟩)
        by_contra hends
        exact hquiet (by simpa using hends) hact

end Turns

/-! ### A run as a whole -/

/-- Where the baselines fit together, the update of a node performs what it should. -/
theorem ends_of_coherent {tables : NodeId → Table Value} {id : NodeId} {node : Node σ}
    {a : Ambient σ} (hbuiltIn : driver.pipeline.IsBuiltIn) (hcoherent : driver.Coherent accepts)
    (hnode : driver.pipeline.node? id = some node)
    (hfollows : ∀ source ∈ node.sources, (tables source).Follows (driver.baseline source)) :
    driver.Ends id node (driver.updateNode tables id node) a
      (driver.Performs tables id node (a.note (.entered id))) := by
  have hfounded := hcoherent id node hnode
  refine ends_updateNode hnode (hbuiltIn node (List.mem_of_getElem? hnode)) ?_ ?_
  · intro source function hrole hfault hempty
    refine (Feeds.transform source function hrole).length_le_groups hfounded hfollows ?_ hempty
    simpa [Node.sources, hrole, Role.sources] using hfault
  · exact fun _ _ hrole hempty => hfounded.length_groups_batch hrole hempty

/-- The nodes of a run take their turns until one of them stops the run. -/
theorem ensures_run (hbuiltIn : driver.pipeline.IsBuiltIn) (hcoherent : driver.Coherent accepts)
    (hadmits : driver.Admits accepts) (env : Env σ) :
    Ensures (driver.visitAll driver.pipeline.ids) (driver.start env)
      (fun _ s => (∃ calls, driver.Turns env s.computed s.ambient calls) ∧
        driver.Completes accepts s.computed)
      (fun stop s => driver.Stops env stop s.ambient) := by
  refine @ensures_turns σ driver accepts
    (fun computed a => ∃ calls, driver.Turns env computed a calls)
    (fun stop _ a => driver.Stops env stop a) env hbuiltIn hcoherent hadmits
    ⟨_, turns_start driver env⟩ ?_
  rintro computed a node - hnode hfollows ⟨calls, hturns⟩
  refine Ensures.mono (ends_of_coherent hbuiltIn hcoherent hnode hfollows) ?_ ?_
  · rintro product b ⟨acts, -, hperforms, hconcludes⟩ hmakes
    exact ⟨_, hturns.step hcoherent hnode hmakes hperforms hconcludes⟩
  · exact fun stop b hhalts => hturns.stops hnode hhalts

/-- In a run that completes all nodes took their turns. -/
theorem turns_of_run (hbuiltIn : driver.pipeline.IsBuiltIn) (hcoherent : driver.Coherent accepts)
    (hadmits : driver.Admits accepts) {report : Report}
    (hrun : (driver.run env).result = .ok report) :
    driver.Completes accepts report.computed ∧ ∃ a calls notice,
      driver.Turns env report.computed a calls ∧
      (driver.run env).journal = a.journal ++ [.noticed notice] ∧
      (driver.run env).env = a.env := by
  rcases run_cases (ensures_run hbuiltIn hcoherent hadmits env) with
    ⟨s, ⟨⟨calls, hturns⟩, hcompletes⟩, hs⟩ | ⟨stop, s, -, hs⟩
  · rw [hs] at hrun ⊢
    cases hrun
    exact ⟨hcompletes, s.ambient, calls, _, hturns, rfl, rfl⟩
  · rw [hs] at hrun
    cases hrun

/-- A run that stops had a reason. -/
theorem stops_of_run (hbuiltIn : driver.pipeline.IsBuiltIn) (hcoherent : driver.Coherent accepts)
    (hadmits : driver.Admits accepts) {stop : Stop}
    (hrun : (driver.run env).result = .error stop) :
    ∃ a, driver.Stops env stop a ∧ (driver.run env).journal = a.journal ∧
      (driver.run env).env = a.env := by
  rcases run_cases (ensures_run hbuiltIn hcoherent hadmits env) with
    ⟨s, -, hs⟩ | ⟨stop', s, hstops, hs⟩
  · rw [hs] at hrun
    cases hrun
  · rw [hs] at hrun ⊢
    cases hrun
    exact ⟨s.ambient, hstops, rfl, rfl⟩

end Driver

end DeltaPipeline
