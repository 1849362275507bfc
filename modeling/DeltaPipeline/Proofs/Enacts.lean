import DeltaPipeline.Driver.Basic
import DeltaPipeline.Proofs.Traces
import DeltaPipeline.Proofs.Writing

/-!
# `DeltaPipeline.Proofs.Enacts`: the user code that the loops run

`Driver.Enacts` says of a step of a node's update what user code it runs: where it
answers, its trace is as described; where it stops, it found the run cancelled or user
code gave up (`Driver.Halts`).

* `Driver.Enacts.bind`, `Driver.Enacts.check_bind`: one step after the other, and after a
  check.
* `Driver.Compares`: steps that run no user code but the comparer.
* `Transform.due`: the values of the items for which a transform calls its function.
* `Transform.enacts_write`, `Combine.enacts_write`, `Input.compares_write`: the loops.
-/

set_option autoImplicit false

namespace DeltaPipeline

variable {σ : Type}

/-- Does an update in this role end with comparisons, without a check after them? -/
def Role.endsComparing {ref : Type} : Role σ ref → Bool
  | .input => true
  | .batch _ _ => true
  | _ => false

/-- Nothing was done but to compare. -/
def Act.AreComparisons (acts : List (Act σ)) : Prop :=
  ∀ act ∈ acts, act = .compared

namespace Act.AreComparisons

variable {acts acts' : List (Act σ)}

/-- No acts are comparisons only. -/
theorem nil : AreComparisons ([] : List (Act σ)) := fun _ hact => absurd hact List.not_mem_nil

/-- Comparisons after comparisons are comparisons only. -/
theorem append (h : AreComparisons acts) (h' : AreComparisons acts') :
    AreComparisons (acts ++ acts') := by
  intro act hact
  rcases List.mem_append.mp hact with hmem | hmem
  · exact h act hmem
  · exact h' act hmem

/-- One comparison is comparisons only. -/
theorem singleton : AreComparisons ([.compared] : List (Act σ)) := by
  simp [AreComparisons]

/-- A comparison is no call. -/
theorem calls_eq_nil (h : AreComparisons acts) : Act.calls acts = [] := by
  induction acts with
  | nil => rfl
  | cons act acts ih =>
    have hact : act = .compared := h act List.mem_cons_self
    subst hact
    exact ih fun other hother => h other (List.mem_cons_of_mem _ hother)

end Act.AreComparisons

namespace Driver

variable {α β : Type} {driver : Driver σ} {id : NodeId} {node : Node σ} {a b : Ambient σ}

/-- User code of the node gives up like this for some argument or pair of values. -/
def MayPanic (driver : Driver σ) (id : NodeId) (node : Node σ) (panic : Panic) : Prop :=
  (∃ code env, node.role.Calls code ∧ (code.run.run env).1 = .error panic) ∨
    ∃ previous current env,
      (((driver.comparer id node).effect previous current).run.run env).1 = .error panic

/-- How a step of a node's update stops: it finds the run cancelled, or user code gives up.
What ends with comparisons does not stop after them. -/
inductive Halts (driver : Driver σ) (id : NodeId) (node : Node σ) (a : Ambient σ) :
    Stop → Ambient σ → Prop where
  | cancelled {acts : List (Act σ)} {b : Ambient σ} :
    Traces id node.role (driver.comparer id node) a acts b →
    b.env.cancelled = true → (node.role.endsComparing = true → .compared ∉ acts) →
    Halts driver id node a (.error .cancelled) b
  | panicked (panic : Panic) (b : Ambient σ) : driver.MayPanic id node panic →
    Halts driver id node a (.panic panic) b

/-- The step runs user code as described, if it answers. -/
def Enacts (driver : Driver σ) (id : NodeId) (node : Node σ) (m : StepM σ α) (a : Ambient σ)
    (answered : α → List (Act σ) → Ambient σ → Prop) : Prop :=
  Ensures m a
    (fun answer b => ∃ acts, Traces id node.role (driver.comparer id node) a acts b ∧
      answered answer acts b)
    (driver.Halts id node a)

/-- A step that follows others halts as it would from the start. -/
theorem Halts.of_traces {acts : List (Act σ)} {stop : Stop} {c : Ambient σ}
    (h : driver.Halts id node b stop c)
    (htraces : Traces id node.role (driver.comparer id node) a acts b)
    (hquiet : node.role.endsComparing = true → .compared ∉ acts) :
    driver.Halts id node a stop c := by
  cases h with
  | @cancelled acts' c htraces' hcancelled hquiet' =>
    refine .cancelled (htraces.trans htraces') hcancelled fun hends hmem => ?_
    rcases List.mem_append.mp hmem with hmem | hmem
    · exact hquiet hends hmem
    · exact hquiet' hends hmem
  | panicked panic b hpanic => exact .panicked panic c hpanic

namespace Enacts

variable {answered answered' : α → List (Act σ) → Ambient σ → Prop}

/-- An answer given at once enacts nothing. -/
theorem of_pure {answer : α} (h : answered answer [] a) :
    driver.Enacts id node (pure answer : StepM σ α) a answered :=
  Ensures.of_pure ⟨[], .nil, h⟩

/-- What is enacted may be told more weakly, with the trace at hand. -/
theorem mono {m : StepM σ α} (h : driver.Enacts id node m a answered)
    (himp : ∀ answer acts b, Traces id node.role (driver.comparer id node) a acts b →
      answered answer acts b → answered' answer acts b) : driver.Enacts id node m a answered' := by
  refine Ensures.mono h ?_ fun _ _ h => h
  rintro answer b ⟨acts, htraces, hanswered⟩
  exact ⟨acts, htraces, himp answer acts b htraces hanswered⟩

/-- One step after the other. The second may stop at a check only where the node may
still check after what the first one did. -/
theorem bind {m : StepM σ α} {f : α → StepM σ β} {answered' : β → List (Act σ) → Ambient σ → Prop}
    (hm : driver.Enacts id node m a answered)
    (hquiet : node.role.endsComparing = true → ∀ answer acts b, answered answer acts b →
      .compared ∉ acts)
    (hf : ∀ answer acts b, Traces id node.role (driver.comparer id node) a acts b →
      answered answer acts b → driver.Enacts id node (f answer) b
        (fun answer' acts' c => answered' answer' (acts ++ acts') c)) :
    driver.Enacts id node (m >>= f) a answered' := by
  refine Ensures.bind hm ?_
  rintro answer b ⟨acts, htraces, hanswered⟩
  refine Ensures.mono (hf answer acts b htraces hanswered) ?_ ?_
  · rintro answer' c ⟨acts', htraces', hanswered'⟩
    exact ⟨acts ++ acts', htraces.trans htraces', hanswered'⟩
  · intro stop c hhalts
    exact hhalts.of_traces htraces fun hends => hquiet hends answer acts b hanswered

/-- After a check the steps go on only if the run is not cancelled. -/
theorem check_bind {rest : StepM σ α}
    (h : a.env.cancelled = false → driver.Enacts id node rest a answered) :
    driver.Enacts id node (StepM.check >>= fun _ => rest) a answered := by
  refine Ensures.bind (I := fun _ b => b = a ∧ a.env.cancelled = false) ?_ ?_
  · by_cases hcancelled : a.env.cancelled = true
    · rw [ensures_check_iff, if_pos hcancelled]
      exact .cancelled .nil hcancelled fun _ => List.not_mem_nil
    · rw [ensures_check_iff, if_neg hcancelled]
      exact ⟨rfl, by simpa using hcancelled⟩
  · rintro - b ⟨rfl, hlive⟩
    exact h hlive

/-- An entry in the journal is no user code. -/
theorem record_bind {event : Event} {rest : StepM σ α} (hnote : event.isNote = true)
    (h : driver.Enacts id node rest (a.note event) answered) :
    driver.Enacts id node (StepM.record event >>= fun _ => rest) a answered := by
  have hrecord : driver.Enacts id node (StepM.record event) a
      (fun _ acts b => acts = [] ∧ b = a.note event) :=
    ensures_record ⟨[], .noted event .nil hnote, rfl, rfl⟩
  refine hrecord.bind ?_ ?_
  · rintro - - acts b ⟨rfl, -⟩
    exact List.not_mem_nil
  · rintro - acts b - ⟨rfl, rfl⟩
    exact h

/-- What the step ensures otherwise may be said of its answers too. -/
theorem and_ensures {m : StepM σ α} {holds : α → Ambient σ → Prop}
    (h : driver.Enacts id node m a answered) (hholds : Ensures m a holds fun _ _ => True) :
    driver.Enacts id node m a (fun answer acts b => answered answer acts b ∧ holds answer b) := by
  refine Ensures.mono (Ensures.and h hholds) ?_ fun _ _ h => h.1
  rintro answer b ⟨⟨acts, htraces, hanswered⟩, hb⟩
  exact ⟨acts, htraces, hanswered, hb⟩

end Enacts

/-! ### Comparisons and calls -/

/-- The step runs no user code but the comparer of the node, and does not check. -/
def Compares (driver : Driver σ) (id : NodeId) (node : Node σ) (m : StepM σ α) (a : Ambient σ)
    (answered : α → Prop) : Prop :=
  Ensures m a
    (fun answer b => answered answer ∧ ∃ acts,
      Traces id node.role (driver.comparer id node) a acts b ∧ Act.AreComparisons acts)
    (fun stop _ => ∃ panic, stop = .panic panic ∧ driver.MayPanic id node panic)

namespace Compares

variable {answered answered' : α → Prop}

/-- An answer given at once compares nothing. -/
theorem of_pure {answer : α} (h : answered answer) :
    driver.Compares id node (pure answer : StepM σ α) a answered :=
  Ensures.of_pure ⟨h, [], .nil, .nil⟩

/-- What is answered may be told more weakly. -/
theorem mono {m : StepM σ α} (h : driver.Compares id node m a answered)
    (himp : ∀ answer, answered answer → answered' answer) :
    driver.Compares id node m a answered' := by
  refine Ensures.mono h ?_ fun _ _ h => h
  exact fun answer _ hb => ⟨himp answer hb.1, hb.2⟩

/-- Two parts that compare only make a whole that does. -/
theorem bind {m : StepM σ α} {f : α → StepM σ β} {answered' : β → Prop}
    (hm : driver.Compares id node m a answered)
    (hf : ∀ answer b, answered answer → driver.Compares id node (f answer) b answered') :
    driver.Compares id node (m >>= f) a answered' := by
  refine Ensures.bind hm ?_
  rintro answer b ⟨hanswered, acts, htraces, hcompared⟩
  refine Ensures.mono (hf answer b hanswered) ?_ fun _ _ h => h
  rintro answer' c ⟨hanswered', acts', htraces', hcompared'⟩
  exact ⟨hanswered', acts ++ acts', htraces.trans htraces', hcompared.append hcompared'⟩

/-- What compares only enacts comparisons. -/
theorem enacts {m : StepM σ α} (h : driver.Compares id node m a answered) :
    driver.Enacts id node m a (fun answer acts _ => answered answer ∧ Act.AreComparisons acts) := by
  refine Ensures.mono h ?_ ?_
  · rintro answer b ⟨hanswered, acts, htraces, hcompared⟩
    exact ⟨acts, htraces, hanswered, hcompared⟩
  · rintro stop b ⟨panic, rfl, hpanic⟩
    exact .panicked panic b hpanic

end Compares

/-- Comparing pairs compares only. -/
theorem compares_observe (pairs : List (Value × Value)) (a : Ambient σ) :
    driver.Compares id node (StepM.observe id (driver.comparer id node) pairs) a
      (fun _ => True) := by
  induction pairs generalizing a with
  | nil => exact .of_pure trivial
  | cons pair pairs ih =>
    obtain ⟨previous, current⟩ := pair
    have hone : driver.Compares id node
        (StepM.observeOne id (driver.comparer id node) previous current) a (fun _ => True) := by
      unfold Compares Ensures
      rw [StepM.run_observeOne]
      cases hrun : ((driver.comparer id node).effect previous current).run.run a.env with
      | mk answer after =>
        cases answer with
        | error panic =>
          exact ⟨panic, rfl, .inr ⟨previous, current, a.env, congrArg Prod.fst hrun⟩⟩
        | ok => exact ⟨trivial, [.compared], .compared previous current .nil hrun, .singleton⟩
    exact hone.bind fun _ b _ => ih b

/-- Revising a group runs the comparer alone. -/
theorem compares_reviseOrAdd (draft : Draft Value) (values : List Value) (a : Ambient σ) :
    driver.Compares id node (StepM.reviseOrAdd id (driver.comparer id node) draft values) a
      (fun next => next = draft.reviseOrAdd (driver.comparer id node).equals values) :=
  (compares_observe _ a).bind fun _ _ _ => .of_pure rfl

/-- Messages about a table are no user code. -/
theorem traces_remarks (remarks : List Draft.Remark) {acts : List (Act σ)}
    (h : Traces id node.role (driver.comparer id node) a acts b) :
    let after := remarks.foldl (fun c remark => c.note (.noticed (.written remark))) b
    Traces id node.role (driver.comparer id node) a acts after ∧ after.env = b.env := by
  induction remarks generalizing b with
  | nil => exact ⟨h, rfl⟩
  | cons remark remarks ih => exact ih (h.noted (.noticed (.written remark)) rfl)

/-- Finishing a draft runs no user code. -/
theorem enacts_publish (draft : Draft Value) (a : Ambient σ) :
    driver.Enacts id node (StepM.publish draft) a
      (fun table acts b => table = draft.finish ∧ acts = [] ∧ b.env = a.env) := by
  obtain ⟨htraces, henv⟩ := traces_remarks draft.finalRemarks
    (.nil : Traces id node.role (driver.comparer id node) a [] a)
  unfold Enacts Ensures
  rw [StepM.run_publish]
  exact ⟨[], htraces, rfl, rfl, henv⟩

/-- Publishing compares nothing, and the table is the finished draft. -/
theorem compares_publish (draft : Draft Value) (a : Ambient σ) :
    driver.Compares id node (StepM.publish draft) a (fun table => table = draft.finish) := by
  unfold Compares Ensures
  rw [StepM.run_publish]
  exact ⟨rfl, [], (traces_remarks draft.finalRemarks .nil).1, .nil⟩

/-- A call of the node's function is traced with its answer. -/
theorem enacts_invoke {code : UserCode σ (Except Fault (List Value))} {argument : Value}
    (hcode : node.role.Calls code)
    (hanswers : ∀ env answer after, code.run.run env = (.ok answer, after) →
      node.role.Answers ⟨argument, env, answer, after⟩)
    (hlive : a.env.cancelled = false) :
    driver.Enacts id node (StepM.invoke id argument code) a
      (fun answer acts _ => ∃ call, acts = [.called call] ∧ call.argument = argument ∧
        call.answer = answer) := by
  unfold Enacts Ensures StepM.invoke
  rw [StepM.run_bind, StepM.run_record]
  simp only [StepM.run_perform, Ambient.env_note]
  cases hrun : code.run.run a.env with
  | mk result after =>
    cases result with
    | error panic => exact .panicked panic _ (.inl ⟨code, a.env, hcode, congrArg Prod.fst hrun⟩)
    | ok answer =>
      exact ⟨[.called ⟨argument, a.env, answer, after⟩],
        .called _ .nil hlive rfl (hanswers a.env answer after hrun), _, rfl, rfl, rfl⟩

end Driver

/-! ### The arguments of a transform -/

/-- The item was added or modified. -/
def Entry.isFresh {α : Type} (entry : Entry α) : Bool :=
  entry.tag = .added || entry.tag = .modified

/-- The value of the item, if a transform calls its function for it with so many groups
pending: the item is present, and if it is cached, no group is left to keep. -/
def Entry.due (pending : Nat) (entry : Entry Value) : List Value :=
  if entry.isLive ∧ (entry.tag = .cached → pending = 0) then [entry.value] else []

namespace Transform

/-- The values for which a transform calls its function, going through items with so many
groups pending. -/
def due : Nat → List (Entry Value) → List Value
  | _, [] => []
  | pending, item :: items =>
    item.due pending ++ due (pending - if item.isAdded then 0 else 1) items

/-- With nothing pending the function is called for all present values. -/
theorem due_zero (items : List (Entry Value)) :
    due 0 items = (items.filter Entry.isLive).map Entry.value := by
  induction items with
  | nil => rfl
  | cons item items ih =>
    rw [due, Nat.zero_sub, ih]
    by_cases hlive : item.isLive = true
    · rw [List.filter_cons_of_pos hlive]
      simp [Entry.due, hlive]
    · rw [List.filter_cons_of_neg hlive]
      simp [Entry.due, hlive]

/-- With a group pending for each item that is not added, the function is called for the
added and the modified items. -/
theorem due_of_length_le {pending : Nat} {items : List (Entry Value)}
    (h : (items.filter (!·.isAdded)).length ≤ pending) :
    due pending items = (items.filter Entry.isFresh).map Entry.value := by
  induction items generalizing pending with
  | nil => rfl
  | cons item items ih =>
    obtain ⟨value, tag⟩ := item
    cases tag with
    | added =>
      rw [List.filter_cons_of_neg (by simp [Entry.isAdded])] at h
      rw [List.filter_cons_of_pos (by simp [Entry.isFresh]), due, List.map_cons, ← ih h]
      simp [Entry.due, Entry.isLive, Entry.isAdded]
    | modified =>
      rw [List.filter_cons_of_pos (by simp [Entry.isAdded]), List.length_cons] at h
      have hrest : (items.filter (!·.isAdded)).length ≤ pending - 1 := by omega
      rw [List.filter_cons_of_pos (by simp [Entry.isFresh]), due, List.map_cons, ← ih hrest]
      simp [Entry.due, Entry.isLive, Entry.isAdded]
    | cached =>
      rw [List.filter_cons_of_pos (by simp [Entry.isAdded]), List.length_cons] at h
      have hrest : (items.filter (!·.isAdded)).length ≤ pending - 1 := by omega
      rw [List.filter_cons_of_neg (by simp [Entry.isFresh]), due, ← ih hrest]
      -- Its group is pending, so it is kept.
      have hpending : pending ≠ 0 := by omega
      simp [Entry.due, Entry.isAdded, hpending]
    | removed =>
      rw [List.filter_cons_of_pos (by simp [Entry.isAdded]), List.length_cons] at h
      have hrest : (items.filter (!·.isAdded)).length ≤ pending - 1 := by omega
      rw [List.filter_cons_of_neg (by simp [Entry.isFresh]), due, ← ih hrest]
      simp [Entry.due, Entry.isLive, Entry.isAdded]

end Transform

/-! ### The loops -/

section Loops

variable {driver : Driver σ} {id : NodeId} {node : Node σ} {a : Ambient σ}

namespace Transform

variable {source : NodeId} {function : Transform σ}
  (hrole : node.role = .transform source function)

include hrole

/-- The function of an item is called once, with its value. -/
theorem enacts_recompute (item : Entry Value) (draft : Draft Value)
    (hlive : a.env.cancelled = false) :
    driver.Enacts id node (recompute function id (driver.comparer id node) item draft) a
      (fun result acts _ => UpToFault [item.value] (Act.calls acts) (Fault.of? result)) := by
  have hends : node.role.endsComparing ≠ true := by simp [hrole, Role.endsComparing]
  have hanswers : ∀ env answer after,
      (function.call item.value).run.run env = (.ok answer, after) →
      node.role.Answers ⟨item.value, env, answer, after⟩ := by
    intro env answer after hrun
    rw [hrole]
    exact hrun
  refine (Driver.enacts_invoke (Node.calls_of_transform hrole item.value) hanswers hlive).bind
    (fun h => absurd h hends) ?_
  rintro answer acts b - ⟨call, rfl, hargument, hanswer⟩
  have hcall := UpToFault.singleton call
  rw [Call.fault?, hanswer, hargument] at hcall
  cases answer with
  | error fault => exact .of_pure (by simpa using hcall)
  | ok outputs =>
    -- Where outputs are compared with old ones, the comparer works, but it makes no call.
    by_cases htag : item.tag = .modified
    · simp only [htag, if_true]
      refine (Driver.compares_reviseOrAdd draft outputs b).enacts.bind
        (fun h => absurd h hends) ?_
      rintro next acts' c - ⟨-, hcompared⟩
      refine .of_pure ?_
      rw [Act.calls_append, Act.calls_append, hcompared.calls_eq_nil]
      simpa using hcall
    · simp only [htag, if_false]
      exact .of_pure (by simpa using hcall)

/-- An item is called for where it is due, and never twice. -/
theorem enacts_visit (item : Entry Value) (draft : Draft Value)
    (hlive : a.env.cancelled = false) :
    driver.Enacts id node (visit function id (driver.comparer id node) item draft) a
      (fun result acts _ => UpToFault (item.due draft.pending.length) (Act.calls acts)
        (Fault.of? result)) := by
  rcases visit_cases function id (driver.comparer id node) item draft with
    ⟨value, rfl, hvisit⟩ | ⟨value, kept, rfl, hkept, hvisit⟩ | ⟨hpresent, hcached, hvisit⟩
  · rw [hvisit]
    exact .of_pure (by simpa [Entry.due, Entry.isLive] using UpToFault.nil)
  · have hpending : draft.pending ≠ [] := by
      intro hnil
      rw [draft.keep?_eq_none_iff.mpr hnil] at hkept
      cases hkept
    rw [hvisit]
    exact .of_pure (by simpa [Entry.due, hpending] using UpToFault.nil)
  · have hdue : item.due draft.pending.length = [item.value] := by
      refine if_pos ⟨by simpa [Entry.isLive] using hpresent, fun htag => ?_⟩
      rw [hcached htag, List.length_nil]
    rw [hvisit, hdue]
    exact enacts_recompute hrole item draft hlive

/-- The loop of a transform calls the function for the values that are due. -/
theorem enacts_write (items : List (Entry Value)) (draft : Draft Value) :
    driver.Enacts id node (write function id (driver.comparer id node) items draft) a
      (fun result acts _ => UpToFault (due draft.pending.length items) (Act.calls acts)
        (Fault.of? result)) := by
  have hends : node.role.endsComparing ≠ true := by simp [hrole, Role.endsComparing]
  induction items generalizing draft a with
  | nil => exact .of_pure .nil
  | cons item items ih =>
    refine .check_bind fun hlive => ?_
    -- What an item leaves pending is known from what is written for it.
    have hvisit : driver.Enacts id node
        (visit function id (driver.comparer id node) item draft) a _ :=
      (enacts_visit hrole item draft hlive).and_ensures
        (ensures_visit steady_true (Node.calls_of_transform hrole) (fun _ h => h) trivial)
    refine hvisit.bind (fun h => absurd h hends) ?_
    rintro (fault | next) acts b - ⟨hcalls, -, hvisited⟩
    · exact .of_pure (by simpa [due] using hcalls.append_due _)
    · obtain ⟨groups, left, hplaced, rfl⟩ := hvisited
      refine (ih { draft with pending := left, groups := draft.groups ++ groups }).mono ?_
      rintro result acts' c - hcalls'
      rw [due, Act.calls_append]
      refine UpToFault.append hcalls ?_
      rwa [hplaced.left_eq_drop, List.length_drop] at hcalls'

end Transform

namespace Combine

variable {left right : NodeId} {item : Entry Value}

/-- Combining an item calls no function. -/
theorem compares_visit (entry : Entry Value) (draft : Draft Value) :
    driver.Compares id node (visit id (driver.comparer id node) item entry draft) a
      (fun _ => True) := by
  have hrevise : ∀ values, driver.Compares id node
      (StepM.reviseOrAdd id (driver.comparer id node) draft values) a (fun _ => True) :=
    fun values => (Driver.compares_reviseOrAdd draft values a).mono fun _ _ => trivial
  unfold visit
  split
  · exact .of_pure trivial
  · exact .of_pure trivial
  · split
    · exact .of_pure trivial
    · exact hrevise _
  · exact hrevise _

/-- The loop of a combine calls nothing. -/
theorem enacts_write (hrole : node.role = .combine left right) (entries : List (Entry Value))
    (draft : Draft Value) :
    driver.Enacts id node (write id (driver.comparer id node) item entries draft) a
      (fun _ acts _ => Act.calls acts = []) := by
  have hends : node.role.endsComparing ≠ true := by simp [hrole, Role.endsComparing]
  induction entries generalizing draft a with
  | nil => exact .of_pure rfl
  | cons entry entries ih =>
    refine .check_bind fun _ => ?_
    refine (compares_visit entry draft).enacts.bind (fun h => absurd h hends) ?_
    rintro next acts b - ⟨-, hcompared⟩
    refine (ih next).mono ?_
    rintro last acts' c - hcalls
    rw [Act.calls_append, hcompared.calls_eq_nil, hcalls]
    rfl

end Combine

namespace Input

/-- Revising the values of an input calls no function. -/
theorem compares_reviseEach (values : List Value) (draft : Draft Value) :
    driver.Compares id node (reviseEach id (driver.comparer id node) values draft) a
      (fun _ => True) := by
  induction values generalizing draft a with
  | nil => exact .of_pure trivial
  | cons value values ih =>
    exact (Driver.compares_reviseOrAdd draft [value] a).bind fun next b _ => ih next

/-- The loops of an input run the comparer alone. -/
theorem compares_write (baseline : Table Value) (values : List Value) :
    driver.Compares id node (write id (driver.comparer id node) baseline values) a
      (fun table => table.fault? = none) := by
  refine (compares_reviseEach _ _).bind fun draft b _ => ?_
  refine (Driver.compares_publish _ b).mono fun table htable => ?_
  rw [htable]
  rfl

end Input

end Loops

end DeltaPipeline
