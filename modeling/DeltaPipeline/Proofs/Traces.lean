import DeltaPipeline.Proofs.Calls
import DeltaPipeline.Update.Lemmas

/-!
# `DeltaPipeline.Proofs.Traces`: what user code does between two points of a run

User code may do something different each time it is called, so what it answers in a run
depends on the environment that it finds there. A trace keeps this environment: it lists
the calls of a node's function, each with the environments before and after it and with
its answer, and the comparisons between them.

* `Call`, `Role.Answers`: a call of the function of a node.
* `UpToFault`: the calls for a list of arguments, up to the first fault.
* `Threads`: calls one after the other, each in an environment that the last one led to.
* `Traces`: what the user code of a node did from one point of a run to another.
* `Traces.calls_journal`, `Traces.threads`: what the journal and the environment tell of it.
-/

set_option autoImplicit false

namespace DeltaPipeline

variable {σ : Type}

/-! ### Calls -/

/-- A call of a node's function that answered, with the environments before and after it. -/
structure Call (σ : Type) where
  argument : Value
  before : Env σ
  answer : Except Fault (List Value)
  after : Env σ

/-- The fault in an answer, if it is one. -/
def Fault.of? {α : Type} : Except Fault α → Option Fault
  | .error fault => some fault
  | .ok _ => none

/-- A result that is a fault has that fault. -/
@[simp] theorem Fault.of?_error {α : Type} (fault : Fault) :
    Fault.of? (.error fault : Except Fault α) = some fault := rfl

/-- A result that is not a fault has none. -/
@[simp] theorem Fault.of?_ok {α : Type} (a : α) : Fault.of? (.ok a) = none := rfl

/-- The fault that a call gave, if it gave one. -/
def Call.fault? (call : Call σ) : Option Fault :=
  Fault.of? call.answer

/-- The call is one of the function of a node in this role. The function of a batch is
called with the list of all values. -/
def Role.Answers {ref : Type} (role : Role σ ref) (call : Call σ) : Prop :=
  match role with
  | .transform _ function =>
    (function.call call.argument).run.run call.before = (.ok call.answer, call.after)
  | .batch _ function => ∃ values, call.argument = .list values ∧
    (function.call values).run.run call.before = (.ok call.answer, call.after)
  | _ => False

/-- The function was called for these arguments in order, up to the first one for which
it gave a fault, which is this one if there is one. -/
inductive UpToFault : List Value → List (Call σ) → Option Fault → Prop where
  | nil : UpToFault [] [] none
  | failed (call : Call σ) (fault : Fault) (rest : List Value) : call.answer = .error fault →
    UpToFault (call.argument :: rest) [call] (some fault)
  | next (call : Call σ) (outputs : List Value) {due : List Value} {calls : List (Call σ)}
    {fault? : Option Fault} : call.answer = .ok outputs → UpToFault due calls fault? →
    UpToFault (call.argument :: due) (call :: calls) fault?

namespace UpToFault

variable {due due' : List Value} {calls calls' : List (Call σ)} {fault? : Option Fault}

/-- Without a fault the function is called for all arguments, and may then be called for
others. -/
theorem append (h : UpToFault due calls none) (h' : UpToFault due' calls' fault?) :
    UpToFault (due ++ due') (calls ++ calls') fault? := by
  generalize hnone : (none : Option Fault) = first at h
  induction h with
  | nil => exact h'
  | failed call fault rest hanswer => cases hnone
  | next call outputs hanswer hrest ih => exact .next call outputs hanswer (ih hnone)

/-- A fault ends the calls, whatever arguments are left. -/
theorem append_due {fault : Fault} (h : UpToFault due calls (some fault)) (rest : List Value) :
    UpToFault (due ++ rest) calls (some fault) := by
  generalize hsome : some fault = first at h ⊢
  induction h with
  | nil => cases hsome
  | failed call fault' rest' hanswer => exact .failed call fault' (rest' ++ rest) hanswer
  | next call outputs hanswer hrest ih => exact .next call outputs hanswer (ih hsome)

/-- A single call is up to a fault, whatever it answers. -/
theorem singleton (call : Call σ) : UpToFault [call.argument] [call] call.fault? := by
  unfold Call.fault?
  cases hanswer : call.answer with
  | error fault => exact .failed call fault [] hanswer
  | ok outputs => exact .next call outputs hanswer .nil

/-- Without arguments there are no calls. -/
theorem eq_nil (h : UpToFault [] calls fault?) : calls = [] ∧ fault? = none := by
  cases h
  exact ⟨rfl, rfl⟩

/-- For one argument there is one call. -/
theorem exists_call {argument : Value} (h : UpToFault [argument] calls fault?) :
    ∃ call, calls = [call] ∧ call.argument = argument := by
  cases h with
  | failed call fault rest hanswer => exact ⟨call, rfl, rfl⟩
  | next call outputs hanswer hrest =>
    obtain ⟨rfl, -⟩ := hrest.eq_nil
    exact ⟨call, rfl, rfl⟩

/-- No call but the last one gave a fault. -/
theorem eq_some_of_mem (h : UpToFault due calls fault?) {call : Call σ} {fault : Fault}
    (hcall : call ∈ calls) (hanswer : call.answer = .error fault) : fault? = some fault := by
  induction h with
  | nil => cases hcall
  | failed last fault' rest hlast =>
    rw [List.mem_singleton.mp hcall, hlast] at hanswer
    cases hanswer
    rfl
  | next first outputs hfirst hrest ih =>
    rcases List.mem_cons.mp hcall with rfl | hmem
    · rw [hfirst] at hanswer
      cases hanswer
    · exact ih hmem

/-- The fault is the first one that a call gave. -/
theorem findSome?_eq (h : UpToFault due calls fault?) : calls.findSome? Call.fault? = fault? := by
  induction h with
  | nil => rfl
  | failed call fault rest hanswer =>
    have hfault : call.fault? = some fault := congrArg Fault.of? hanswer
    rw [List.findSome?_cons, hfault]
  | next call outputs hanswer hrest ih =>
    have hnone : call.fault? = none := congrArg Fault.of? hanswer
    rw [List.findSome?_cons, hnone, ih]

end UpToFault

/-- Calls one after the other, none in a run that is cancelled. Each finds the environment that
the one before it left, but for what linked the two. -/
inductive Threads (link : Env σ → Env σ → Prop) : Env σ → List (Call σ) → Env σ → Prop where
  | nil {first last : Env σ} : link first last → Threads link first [] last
  | cons (call : Call σ) {calls : List (Call σ)} {first last : Env σ} : link first call.before →
    call.before.cancelled = false → Threads link call.after calls last →
    Threads link first (call :: calls) last

namespace Threads

variable {link weaker : Env σ → Env σ → Prop} {first middle last : Env σ}
  {calls calls' : List (Call σ)}

/-- A weaker link links the same calls. -/
theorem mono (h : Threads link first calls last) (hle : ∀ env after, link env after →
    weaker env after) : Threads weaker first calls last := by
  induction h with
  | nil hlink => exact .nil (hle _ _ hlink)
  | cons call hlink hlive hrest ih => exact .cons call (hle _ _ hlink) hlive ih

/-- What comes before the first call may be more. -/
theorem after_link (htrans : ∀ {env between after}, link env between → link between after →
      link env after) (hlink : link first middle) (h : Threads link middle calls last) :
    Threads link first calls last := by
  cases h with
  | nil hnext => exact .nil (htrans hlink hnext)
  | cons call hnext hlive hrest => exact .cons call (htrans hlink hnext) hlive hrest

/-- Calls may follow calls. -/
theorem append (htrans : ∀ {env between after}, link env between → link between after →
      link env after) (h : Threads link first calls middle)
    (h' : Threads link middle calls' last) : Threads link first (calls ++ calls') last := by
  induction h with
  | nil hlink => exact h'.after_link htrans hlink
  | cons call hlink hlive hrest ih => exact .cons call hlink hlive (ih h')

end Threads

/-! ### Traces -/

/-- What user code of a node did that a run can tell. -/
inductive Act (σ : Type) where
  /-- its function was called and answered -/
  | called (call : Call σ)
  /-- its comparer compared two values -/
  | compared

/-- The calls among acts, in order. -/
def Act.calls (acts : List (Act σ)) : List (Call σ) :=
  acts.filterMap fun
    | .called call => some call
    | .compared => none

/-- No acts hold no calls. -/
@[simp] theorem Act.calls_nil : calls ([] : List (Act σ)) = [] := rfl

/-- The calls of acts in sequence are the calls of each, in sequence. -/
@[simp] theorem Act.calls_append (first rest : List (Act σ)) :
    calls (first ++ rest) = calls first ++ calls rest :=
  List.filterMap_append

/-- A call is its own calls. -/
@[simp] theorem Act.calls_called (call : Call σ) : calls [.called call] = [call] := rfl

/-- A comparison is no call. -/
@[simp] theorem Act.calls_compared : calls [(.compared : Act σ)] = [] := rfl

/-- The part of the node that did it. -/
def Act.signaller : Act σ → Signaller
  | .called _ => .function
  | .compared => .comparer

/-- Is the entry made by the engine, without any user code? -/
def Event.isNote : Event → Bool
  | .entered _ => true
  | .noticed _ => true
  | _ => false

namespace Ambient

/-- What a call of a node's function leaves. -/
def called (a : Ambient σ) (id : NodeId) (call : Call σ) : Ambient σ :=
  StepM.watched id .function a.env { a.note (.called id call.argument) with env := call.after }

/-- What a comparison leaves that leaves this environment. -/
def compared (a : Ambient σ) (id : NodeId) (after : Env σ) : Ambient σ :=
  StepM.watched id .comparer a.env { a with env := after }

end Ambient

/-- After a call the environment is the one that it left. -/
@[simp] theorem Ambient.env_called (a : Ambient σ) (id : NodeId) (call : Call σ) :
    (a.called id call).env = call.after := by
  simp [called]

/-- After a comparison the environment is the one that it left. -/
@[simp] theorem Ambient.env_compared (a : Ambient σ) (id : NodeId) (after : Env σ) :
    (a.compared id after).env = after := by
  simp [compared]

/-- The entry that tells that the run was cancelled, if it is now and was not before. -/
def Ambient.told (id : NodeId) (signaller : Signaller) (before after : Bool) : List Event :=
  if !before && after then [.cancelled id signaller] else []

/-- A cancellation is told exactly where the token turned. -/
theorem Ambient.mem_told {id : NodeId} {signaller : Signaller} {before after : Bool}
    {event : Event} : event ∈ told id signaller before after ↔
      before = false ∧ after = true ∧ event = .cancelled id signaller := by
  cases before <;> cases after <;> simp [told]

/-- There is one such entry at most. -/
theorem Ambient.pairwise_told {id : NodeId} {signaller : Signaller} {before after : Bool}
    {related : Event → Event → Prop} : (told id signaller before after).Pairwise related := by
  unfold told
  split <;> simp

/-- Watching a step adds to the journal what is told of the token. -/
theorem StepM.journal_watched (id : NodeId) (signaller : Signaller) (before : Env σ)
    (a : Ambient σ) : (StepM.watched id signaller before a).journal
      = a.journal ++ Ambient.told id signaller before.cancelled a.env.cancelled := by
  unfold StepM.watched Ambient.told
  split
  · exact Ambient.journal_note a _
  · exact (List.append_nil _).symm

/-- A call adds itself and what it told of the token. -/
theorem Ambient.journal_called (a : Ambient σ) (id : NodeId) (call : Call σ) :
    (a.called id call).journal = a.journal ++ .called id call.argument ::
      told id .function a.env.cancelled call.after.cancelled := by
  have hnote : ({ a.note (.called id call.argument) with env := call.after } : Ambient σ).journal
      = a.journal ++ [.called id call.argument] := Ambient.journal_note a _
  rw [called, StepM.journal_watched, hnote, List.append_assoc]
  rfl

/-- A comparison adds only what it told of the token. -/
theorem Ambient.journal_compared (a : Ambient σ) (id : NodeId) (after : Env σ) :
    (a.compared id after).journal
      = a.journal ++ told id .comparer a.env.cancelled after.cancelled :=
  StepM.journal_watched id .comparer a.env _

/-- What the user code of a node in this role and with this comparer did from one point of a
run to another. Its function is called only as long as the run is not cancelled. -/
inductive Traces (id : NodeId) (role : Role σ NodeId) (comparer : Comparer σ) (a : Ambient σ) :
    List (Act σ) → Ambient σ → Prop where
  | nil : Traces id role comparer a [] a
  | noted {acts : List (Act σ)} {b : Ambient σ} (event : Event) :
    Traces id role comparer a acts b → event.isNote = true →
    Traces id role comparer a acts (b.note event)
  | called {acts : List (Act σ)} {b : Ambient σ} (call : Call σ) :
    Traces id role comparer a acts b → b.env.cancelled = false → call.before = b.env →
    role.Answers call → Traces id role comparer a (acts ++ [.called call]) (b.called id call)
  | compared {acts : List (Act σ)} {b : Ambient σ} (previous current : Value) {after : Env σ} :
    Traces id role comparer a acts b →
    (comparer.effect previous current).run.run b.env = (.ok (), after) →
    Traces id role comparer a (acts ++ [.compared]) (b.compared id after)

namespace Traces

variable {id : NodeId} {role : Role σ NodeId} {comparer : Comparer σ} {a b c : Ambient σ}
  {acts acts' : List (Act σ)}

/-- What is done next follows what was done. -/
theorem trans (h : Traces id role comparer a acts b) (h' : Traces id role comparer b acts' c) :
    Traces id role comparer a (acts ++ acts') c := by
  induction h' with
  | nil => rwa [List.append_nil]
  | noted event hrest hnote ih => exact ih.noted event hnote
  | called call hrest hlive hbefore hanswers ih =>
    rw [← List.append_assoc]
    exact ih.called call hlive hbefore hanswers
  | compared previous current hrest hrun ih =>
    rw [← List.append_assoc]
    exact ih.compared previous current hrun

/-- The calls are those of the node's function. -/
theorem answers (h : Traces id role comparer a acts b) :
    ∀ call ∈ Act.calls acts, role.Answers call := by
  induction h with
  | nil => simp [Act.calls]
  | noted event hrest hnote ih => exact ih
  | called call hrest hlive hbefore hanswers ih =>
    intro other hother
    rw [Act.calls_append, Act.calls_called, List.mem_append, List.mem_singleton] at hother
    rcases hother with hmem | rfl
    · exact ih other hmem
    · exact hanswers
  | compared previous current hrest hrun ih => simpa using ih

/-- Nothing takes a cancellation back. -/
theorem live (h : Traces id role comparer a acts b) (hlive : b.env.cancelled = false) :
    a.env.cancelled = false := by
  induction h with
  | nil => exact hlive
  | noted event hrest hnote ih => exact ih hlive
  | called call hrest hbefore hsame hanswers ih => exact ih hbefore
  | compared previous current hrest hrun ih =>
    rw [Ambient.env_compared] at hlive
    exact ih (comparer.live_of_run hrun hlive)

/-- The calls follow one another, with nothing but comparisons between them. -/
theorem threads (h : Traces id role comparer a acts b) :
    Threads comparer.Leads a.env (Act.calls acts) b.env := by
  induction h with
  | nil => exact .nil (.refl comparer a.env)
  | noted event hrest hnote ih => exact ih
  | @called acts b call hrest hlive hbefore hanswers ih =>
    have hone : Threads comparer.Leads b.env [call] call.after :=
      .cons call (hbefore ▸ .refl comparer b.env) (hbefore ▸ hlive)
        (.nil (.refl comparer call.after))
    rw [Act.calls_append, Ambient.env_called]
    exact ih.append .trans hone
  | @compared acts b previous current after hrest hrun ih =>
    rw [Act.calls_append, Ambient.env_compared]
    exact ih.append .trans (.nil (.of_run hrun))

end Traces

/-! ### What the journal tells of the calls -/

/-- The calls of a journal in two parts are those of each, in sequence. -/
@[simp] theorem Event.calls_append (first rest : List Event) :
    calls (first ++ rest) = calls first ++ calls rest :=
  List.filterMap_append

/-- A note is no call. -/
theorem Event.calls_of_isNote {event : Event} (h : event.isNote = true) :
    calls [event] = [] := by
  cases event with
  | entered node => rfl
  | noticed notice => rfl
  | called node argument => cases h
  | cancelled node signaller => cases h

/-- What is told of the token is no call. -/
theorem Event.calls_told (id : NodeId) (signaller : Signaller) (before after : Bool) :
    calls (Ambient.told id signaller before after) = [] := by
  unfold Ambient.told
  split <;> rfl

/-- The journal lists the calls by their arguments. -/
theorem Traces.calls_journal {id : NodeId} {role : Role σ NodeId} {comparer : Comparer σ}
    {a b : Ambient σ} {acts : List (Act σ)} (h : Traces id role comparer a acts b) :
    Event.calls b.journal
      = Event.calls a.journal ++ (Act.calls acts).map fun call => (id, call.argument) := by
  induction h with
  | nil => exact (List.append_nil _).symm
  | noted event hrest hnote ih =>
    rw [Ambient.journal_note, Event.calls_append, Event.calls_of_isNote hnote, List.append_nil, ih]
  | @called acts b call hrest hlive hbefore hanswers ih =>
    have hone : Event.calls (.called id call.argument :: Ambient.told id .function
        b.env.cancelled call.after.cancelled) = [(id, call.argument)] :=
      congrArg (_ :: ·) (Event.calls_told _ _ _ _)
    rw [Ambient.journal_called, Event.calls_append, hone, ih, Act.calls_append, List.map_append,
      List.append_assoc]
    rfl
  | @compared acts b previous current after hrest hrun ih =>
    rw [Ambient.journal_compared, Event.calls_append, Event.calls_told, List.append_nil, ih,
      Act.calls_append, Act.calls_compared, List.append_nil]

/-- Entries are added to the journal and none is lost. -/
theorem Traces.exists_journal {id : NodeId} {role : Role σ NodeId} {comparer : Comparer σ}
    {a b : Ambient σ} {acts : List (Act σ)} (h : Traces id role comparer a acts b) :
    ∃ events, b.journal = a.journal ++ events := by
  induction h with
  | nil => exact ⟨[], (List.append_nil _).symm⟩
  | noted event hrest hnote ih =>
    obtain ⟨events, hevents⟩ := ih
    exact ⟨events ++ [event], by rw [Ambient.journal_note, hevents, List.append_assoc]⟩
  | called call hrest hlive hbefore hanswers ih =>
    obtain ⟨events, hevents⟩ := ih
    exact ⟨_, by rw [Ambient.journal_called, hevents, List.append_assoc]⟩
  | compared previous current hrest hrun ih =>
    obtain ⟨events, hevents⟩ := ih
    exact ⟨_, by rw [Ambient.journal_compared, hevents, List.append_assoc]⟩

/-- What the entry that the run was cancelled tells is what did it. -/
theorem Traces.mem_cancelled {id culprit : NodeId} {role : Role σ NodeId} {comparer : Comparer σ}
    {a b : Ambient σ} {acts : List (Act σ)} {signaller : Signaller}
    (h : Traces id role comparer a acts b)
    (hmem : .cancelled culprit signaller ∈ b.journal) :
    .cancelled culprit signaller ∈ a.journal ∨
      culprit = id ∧ ∃ act ∈ acts, signaller = act.signaller := by
  -- By induction on the trace, whose last act adds its own entries at the end.
  induction h with
  | nil => exact .inl hmem
  | noted event hrest hnote ih =>
    rw [Ambient.journal_note, List.mem_append, List.mem_singleton] at hmem
    rcases hmem with hmem | rfl
    · exact ih hmem
    · cases hnote
  | called call hrest hlive hbefore hanswers ih =>
    rw [Ambient.journal_called, List.mem_append, List.mem_cons] at hmem
    rcases hmem with hmem | hcall | hmem
    · refine (ih hmem).imp_right fun ⟨hid, act, hact, hsignaller⟩ => ⟨hid, act, ?_, hsignaller⟩
      exact List.mem_append_left _ hact
    · cases hcall
    · obtain ⟨-, -, hevent⟩ := Ambient.mem_told.mp hmem
      cases hevent
      exact .inr ⟨rfl, .called call, by simp, rfl⟩
  | compared previous current hrest hrun ih =>
    rw [Ambient.journal_compared, List.mem_append] at hmem
    rcases hmem with hmem | hmem
    · refine (ih hmem).imp_right fun ⟨hid, act, hact, hsignaller⟩ => ⟨hid, act, ?_, hsignaller⟩
      exact List.mem_append_left _ hact
    · obtain ⟨-, -, hevent⟩ := Ambient.mem_told.mp hmem
      cases hevent
      exact .inr ⟨rfl, .compared, by simp, rfl⟩

end DeltaPipeline
