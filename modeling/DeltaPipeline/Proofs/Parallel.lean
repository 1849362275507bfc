import DeltaPipeline.Proofs.Updates

/-!
# `DeltaPipeline.Proofs.Parallel`: two runs side by side

Two runs of the same steps from states that are alike end alike, if the user code they
call does. What `alike` means is left open: `Parallel` lists what is asked of it at the
single steps of an update. Host code numbers the faults that it raises as it likes, so what
is told of where a fault was raised is left open as well (`relabel`), and may be nothing
(`bare`).

* `Fault.relabel`, `Table.relabel`, `Event.relabel`: with what is told of the raising.
* `Fault.bare`, `Table.bare`, `Event.bare`: with nothing told.
* `Alike`: two steps that keep two states alike, with its rules.
* `alike_updateFrom`: the updates of a node from tables that are alike.
-/

set_option autoImplicit false

namespace DeltaPipeline

/-! ### What is told of where faults were raised -/

/-- The fault with what is told of where it was raised. -/
def Fault.relabel (told : Origin → Origin) (fault : Fault) : Fault :=
  { fault with origin := told fault.origin }

namespace Table

variable {α : Type} {told : Origin → Origin}

/-- The table, its fault with what is told of where it was raised. -/
def relabel (told : Origin → Origin) : Table α → Table α
  | .faulted fault => .faulted (fault.relabel told)
  | .empty => .empty
  | .compacted groups => .compacted groups
  | .populated groups => .populated groups

/-- Two tables that are the same but for the raising of a fault are the same, or
faulted. -/
theorem eq_or_faulted {table table' : Table α} (h : table.relabel told = table'.relabel told) :
    table = table' ∨ ∃ fault fault', table = .faulted fault ∧ table' = .faulted fault' ∧
      fault.relabel told = fault'.relabel told := by
  cases table <;> cases table' <;> simp_all [relabel]

/-- A table keeps no fault as a baseline. -/
@[simp] theorem asCached_relabel (table : Table α) :
    (table.relabel told).asCached = table.asCached := by
  cases table <;> rfl

/-- A fault that is told otherwise is a fault still. -/
@[simp] theorem condition_relabel (table : Table α) :
    (table.relabel told).condition = table.condition := by
  cases table <;> rfl

/-- Only faults are told otherwise, and a fault has no groups. -/
@[simp] theorem groups_relabel (table : Table α) : (table.relabel told).groups = table.groups := by
  cases table <;> rfl

/-- What is told of a fault does not say whether there is one. -/
@[simp] theorem isFaulted_relabel (table : Table α) :
    (table.relabel told).isFaulted = table.isFaulted := by
  cases table <;> rfl

/-- What is counted are the groups, which stay. -/
@[simp] theorem counts_relabel (table : Table α) : (table.relabel told).counts = table.counts := by
  simp [counts, items]

end Table

/-- The message, a fault in it with what is told of where it was raised. -/
def Notice.relabel (told : Origin → Origin) : Notice → Notice
  | .raised node fault => .raised node (fault.relabel told)
  | notice => notice

namespace Event

/-- The entry, a fault in it with what is told of where it was raised. -/
def relabel (told : Origin → Origin) : Event → Event
  | .noticed notice => .noticed (notice.relabel told)
  | event => event

/-- Is the entry one that the update of this node may make once it has begun? -/
def isWithin (node : NodeId) : Event → Bool
  | .entered _ => false
  | .called id _ => id = node
  | .cancelled id _ => id = node
  | .noticed _ => true

/-- Entries that are told alike are entries of the same updates. -/
theorem isWithin_of_relabel {told : Origin → Origin} {event event' : Event}
    (h : event.relabel told = event'.relabel told) (node : NodeId) :
    event'.isWithin node = event.isWithin node := by
  cases event <;> cases event' <;> simp_all [relabel, isWithin]

end Event

namespace Product

variable {told : Origin → Origin}

/-- The product, a fault in it with what is told of where it was raised. -/
def relabel (told : Origin → Origin) : Product → Product
  | .unchanged => .unchanged
  | .table t => .table (t.relabel told)

/-- How a product was obtained does not depend on where its fault was raised. -/
theorem outcome_eq_of_relabel {product product' : Product}
    (h : product.relabel told = product'.relabel told) : product.outcome = product'.outcome := by
  have houtcome : ∀ product : Product, (product.relabel told).outcome = product.outcome := by
    intro product
    cases product with
    | unchanged => rfl
    | table t => simp [relabel, outcome]
  rw [← houtcome product, h, houtcome product']

/-- Products that are told alike stand for tables that are. -/
theorem relabel_resolve_eq {product product' : Product}
    (h : product.relabel told = product'.relabel told) (baseline : Table Value) :
    (product.resolve baseline).relabel told = (product'.resolve baseline).relabel told := by
  cases product <;> cases product' <;> simp_all [relabel, resolve]

end Product

/-- The computation, a fault of its table with what is told of where it was raised. -/
def Computed.relabel (told : Origin → Origin) (computed : Computed) : Computed :=
  { computed with table := computed.table.relabel told }

/-- Both answers are the same, or faults of which the same is told. -/
inductive Fault.Agree (told : Origin → Origin) {α : Type} :
    Except Fault α → Except Fault α → Prop where
  | ok (value : α) : Agree told (.ok value) (.ok value)
  | error {fault fault' : Fault} : fault.relabel told = fault'.relabel told →
    Agree told (.error fault) (.error fault')

/-- Answers that are the same once faults are told alike agree. -/
theorem Fault.agree_of_mapError {told : Origin → Origin} {α : Type}
    {answer answer' : Except Fault α}
    (h : answer.mapError (Fault.relabel told) = answer'.mapError (Fault.relabel told)) :
    Fault.Agree told answer answer' := by
  cases answer with
  | ok value =>
    cases answer' with
    | ok value' =>
      cases h
      exact .ok value
    | error fault' => cases h
  | error fault =>
    cases answer' with
    | ok value' => cases h
    | error fault' => exact .error (Except.error.inj h)

/-! ### Faults without their raising -/

/-- Nothing is told of where a fault was raised. -/
def Origin.forget (_ : Origin) : Origin :=
  .host 0

/-- The fault with nothing told of where it was raised. -/
abbrev Fault.bare (fault : Fault) : Fault :=
  fault.relabel Origin.forget

/-- The table, its fault without the raising. -/
abbrev Table.bare {α : Type} (table : Table α) : Table α :=
  table.relabel Origin.forget

/-- The entry, a fault in it without the raising. -/
abbrev Event.bare (event : Event) : Event :=
  event.relabel Origin.forget

/-- The product, a fault in it without the raising. -/
abbrev Product.bare (product : Product) : Product :=
  product.relabel Origin.forget

/-- The computation, a fault of its table without the raising. -/
abbrev Computed.bare (computed : Computed) : Computed :=
  computed.relabel Origin.forget

/-- Without the raising a fault is its cause. -/
theorem Fault.bare_eq_iff {fault fault' : Fault} :
    fault.bare = fault'.bare ↔ fault.cause = fault'.cause := by
  simp [relabel, Origin.forget]

/-- Answers with the same values or causes agree. -/
theorem Fault.agree_of_mapError_cause {α : Type} {answer answer' : Except Fault α}
    (h : answer.mapError Fault.cause = answer'.mapError Fault.cause) :
    Fault.Agree Origin.forget answer answer' := by
  refine agree_of_mapError ?_
  cases answer with
  | ok value =>
    cases answer' with
    | ok value' =>
      cases h
      rfl
    | error fault' => cases h
  | error fault =>
    cases answer' with
    | ok value' => cases h
    | error fault' => exact congrArg Except.error (Fault.bare_eq_iff.mpr (Except.error.inj h))

/-! ### Steps side by side -/

/-- Both runs answered, and their answers are `same`, or both stopped for one reason that
`stops` admits. Either way they left states related by `R`. -/
inductive EndsAlike {S α β : Type} (R : S → S → Prop) (stops : Stop → Prop)
    (same : α → β → Prop) : Except Stop α × S → Except Stop β × S → Prop where
  | answered {answer : α} {answer' : β} {s s' : S} : same answer answer' → R s s' →
    EndsAlike R stops same (.ok answer, s) (.ok answer', s')
  | stopped {stop : Stop} {s s' : S} : stops stop → R s s' →
    EndsAlike R stops same (.error stop, s) (.error stop, s')

/-- Runs that end alike with the same answer end with the same result. -/
theorem EndsAlike.same_result {S α : Type} {R : S → S → Prop} {stops : Stop → Prop}
    {first second : Except Stop α × S} (h : EndsAlike R stops Eq first second) :
    first.1 = second.1 ∧ R first.2 second.2 := by
  cases h with
  | answered hsame hR => exact ⟨congrArg Except.ok hsame, hR⟩
  | stopped hstop hR => exact ⟨rfl, hR⟩

/-- Run from states related by `R`, the two steps end alike. -/
def Alike {S α β : Type} (R : S → S → Prop) (stops : Stop → Prop) (same : α → β → Prop)
    (m : ExceptT Stop (StateM S) α) (m' : ExceptT Stop (StateM S) β) : Prop :=
  ∀ s s', R s s' → EndsAlike R stops same (m.run.run s) (m'.run.run s')

namespace Alike

variable {S α β γ δ : Type} {R : S → S → Prop} {stops : Stop → Prop} {same : α → β → Prop}
  {same' : γ → δ → Prop}

/-- Answers that may differ so are given alike. -/
theorem of_pure {answer : α} {answer' : β} (h : same answer answer') :
    Alike R stops same (pure answer) (pure answer') :=
  fun _ _ hR => .answered h hR

/-- Both stop for a reason that both may stop for. -/
theorem of_throw {stop : Stop} (h : stops stop) : Alike R stops same (throw stop) (throw stop) :=
  fun _ _ hR => .stopped h hR

/-- The two ways in which two steps may end alike. -/
theorem cases {m : ExceptT Stop (StateM S) α} {m' : ExceptT Stop (StateM S) β} {s s' : S}
    (h : Alike R stops same m m') (hR : R s s') :
    (∃ answer answer' t t', m.run.run s = (.ok answer, t) ∧
        m'.run.run s' = (.ok answer', t') ∧ same answer answer' ∧ R t t') ∨
      ∃ stop t t', m.run.run s = (.error stop, t) ∧ m'.run.run s' = (.error stop, t') ∧
        stops stop ∧ R t t' := by
  have hends := h s s' hR
  revert hends
  rcases m.run.run s with ⟨result, t⟩
  rcases m'.run.run s' with ⟨result', t'⟩
  intro hends
  cases hends with
  | answered hsame hR => exact .inl ⟨_, _, _, _, rfl, rfl, hsame, hR⟩
  | stopped hstop hR => exact .inr ⟨_, _, _, rfl, rfl, hstop, hR⟩

/-- One step after the other, on both sides. -/
theorem bind {m : ExceptT Stop (StateM S) α} {m' : ExceptT Stop (StateM S) β}
    {f : α → ExceptT Stop (StateM S) γ} {f' : β → ExceptT Stop (StateM S) δ}
    (hm : Alike R stops same m m')
    (hf : ∀ answer answer', same answer answer' → Alike R stops same' (f answer) (f' answer')) :
    Alike R stops same' (m >>= f) (m' >>= f') := by
  intro s s' hR
  rw [Stoppable.run_bind, Stoppable.run_bind]
  rcases hm.cases hR with ⟨answer, answer', t, t', hrun, hrun', hsame, hR⟩ |
    ⟨stop, t, t', hrun, hrun', hstop, hR⟩
  · rw [hrun, hrun']
    exact hf answer answer' hsame t t' hR
  · rw [hrun, hrun']
    exact .stopped hstop hR

/-- What the answers have in common may be told less precisely. -/
theorem mono {m : ExceptT Stop (StateM S) α} {m' : ExceptT Stop (StateM S) β}
    {weaker : α → β → Prop} (h : Alike R stops same m m')
    (hsame : ∀ answer answer', same answer answer' → weaker answer answer') :
    Alike R stops weaker m m' := by
  intro s s' hR
  rcases h.cases hR with ⟨answer, answer', t, t', hrun, hrun', h, hR⟩ |
    ⟨stop, t, t', hrun, hrun', hstop, hR⟩
  · rw [hrun, hrun']
    exact .answered (hsame answer answer' h) hR
  · rw [hrun, hrun']
    exact .stopped hstop hR

/-- The answer of one side may be rewritten. -/
theorem rewrite {m : ExceptT Stop (StateM S) α} {m' : ExceptT Stop (StateM S) β} {f : β → δ}
    {same' : α → δ → Prop} (h : Alike R stops same m m')
    (hsame : ∀ answer answer', same answer answer' → same' answer (f answer')) :
    Alike R stops same' m (m' >>= fun answer => pure (f answer)) := by
  intro s s' hR
  rw [Stoppable.run_bind]
  rcases h.cases hR with ⟨answer, answer', t, t', hrun, hrun', h, hR⟩ |
    ⟨stop, t, t', hrun, hrun', hstop, hR⟩
  · rw [hrun, hrun']
    exact .answered (hsame answer answer' h) hR
  · rw [hrun, hrun']
    exact .stopped hstop hR

/-- Steps whose stops are handled alike. -/
theorem tryCatch {m m' : ExceptT Stop (StateM S) α} {same : α → α → Prop}
    {handle handle' : Stop → ExceptT Stop (StateM S) α} (hm : Alike R stops same m m')
    (hhandle : ∀ stop, stops stop → Alike R stops same (handle stop) (handle' stop)) :
    Alike R stops same (tryCatch m handle) (tryCatch m' handle') := by
  intro s s' hR
  rw [Stoppable.run_tryCatch, Stoppable.run_tryCatch]
  rcases hm.cases hR with ⟨answer, answer', t, t', hrun, hrun', hsame, hR⟩ |
    ⟨stop, t, t', hrun, hrun', hstop, hR⟩
  · rw [hrun, hrun']
    exact .answered hsame hR
  · rw [hrun, hrun']
    exact hhandle stop hstop t t' hR

/-- Answers that are not needed have nothing to agree on. -/
theorem discard {m : ExceptT Stop (StateM S) α} {m' : ExceptT Stop (StateM S) β}
    (h : Alike R stops same m m') :
    Alike R stops (fun _ _ => True) (Functor.discard m) (Functor.discard m') := by
  intro s s' hR
  rw [Stoppable.run_discard, Stoppable.run_discard]
  rcases h.cases hR with ⟨answer, answer', t, t', hrun, hrun', -, hR⟩ |
    ⟨stop, t, t', hrun, hrun', hstop, hR⟩
  · rw [hrun, hrun']
    exact .answered trivial hR
  · rw [hrun, hrun']
    exact .stopped hstop hR

end Alike

/-- The single steps of a node's update keep two ambients related by `R`: its checks, its
entries in the journal, its user code and its comparisons. -/
structure Parallel (told : Origin → Origin) {σ : Type} (R : Ambient σ → Ambient σ → Prop)
    (stops : Stop → Prop) (node : NodeId) (comparer : Comparer σ)
    (calls : UserCode σ (Except Fault (List Value)) → Prop) : Prop where
  cancelled_eq : ∀ a a', R a a' → a.env.cancelled = a'.env.cancelled
  stops_of_cancelled : ∀ a a', R a a' → a.env.cancelled = true → stops (.error .cancelled)
  note : ∀ a a' event event', event.isWithin node = true →
    event.relabel told = event'.relabel told → R a a' → R (a.note event) (a'.note event')
  perform : ∀ code, calls code →
    Alike R stops (Fault.Agree told) (StepM.perform node code) (StepM.perform node code)
  compare : ∀ previous current, Alike R stops (fun _ _ => True)
    (StepM.observeOne node comparer previous current)
    (StepM.observeOne node comparer previous current)

/-! ### Updates side by side -/

section Updates

variable {told : Origin → Origin} {σ : Type} {R : Ambient σ → Ambient σ → Prop}
  {stops : Stop → Prop} {node : NodeId} {comparer : Comparer σ}
  {calls : UserCode σ (Except Fault (List Value)) → Prop}

namespace Parallel

/-- Both runs are stopped by a check, or neither is. -/
theorem check (h : Parallel told R stops node comparer calls) :
    Alike R stops (fun _ _ => True) (StepM.check : StepM σ Unit) StepM.check := by
  intro a a' hR
  rw [StepM.run_check, StepM.run_check, ← h.cancelled_eq a a' hR]
  by_cases hcancelled : a.env.cancelled = true
  · rw [if_pos hcancelled]
    exact .stopped (h.stops_of_cancelled a a' hR hcancelled) hR
  · rw [if_neg hcancelled]
    exact .answered trivial hR

/-- Entries that are told alike are made in both journals. -/
theorem record (h : Parallel told R stops node comparer calls) {event event' : Event}
    (hwithin : event.isWithin node = true) (hevent : event.relabel told = event'.relabel told) :
    Alike R stops (fun _ _ => True) (StepM.record event : StepM σ Unit) (StepM.record event') :=
  fun a a' hR => .answered trivial (h.note a a' event event' hwithin hevent hR)

/-- So are messages. -/
theorem notice (h : Parallel told R stops node comparer calls) {notice notice' : Notice}
    (hnotice : notice.relabel told = notice'.relabel told) :
    Alike R stops (fun _ _ => True) (StepM.notice notice : StepM σ Unit)
      (StepM.notice notice') :=
  h.record rfl (congrArg Event.noticed hnotice)

/-- A call is recorded with the same argument, and then the code answers alike. -/
theorem invoke (h : Parallel told R stops node comparer calls) (argument : Value)
    {code : UserCode σ (Except Fault (List Value))} (hcode : calls code) :
    Alike R stops (Fault.Agree told) (StepM.invoke node argument code)
      (StepM.invoke node argument code) :=
  (h.record (by simp [Event.isWithin]) rfl).bind fun _ _ _ => h.perform code hcode

/-- Pairs of values are compared alike, one after the other. -/
theorem observe (h : Parallel told R stops node comparer calls) (pairs : List (Value × Value)) :
    Alike R stops (fun _ _ => True) (StepM.observe node comparer pairs)
      (StepM.observe node comparer pairs) := by
  induction pairs with
  | nil => exact .of_pure trivial
  | cons pair pairs ih => exact (h.compare pair.1 pair.2).bind fun _ _ _ => ih

/-- A group is revised to the same one, since the same comparer decides. -/
theorem reviseOrAdd (h : Parallel told R stops node comparer calls) (draft : Draft Value)
    (values : List Value) :
    Alike R stops Eq (StepM.reviseOrAdd node comparer draft values)
      (StepM.reviseOrAdd node comparer draft values) :=
  (h.observe _).bind fun _ _ _ => .of_pure rfl

/-- The same table is published, with the same remarks. -/
theorem publish (h : Parallel told R stops node comparer calls) (draft : Draft Value) :
    Alike R stops Eq (StepM.publish draft : StepM σ (Table Value)) (StepM.publish draft) := by
  intro a a' hR
  rw [StepM.run_publish, StepM.run_publish]
  refine .answered rfl ?_
  generalize draft.finalRemarks = remarks
  induction remarks generalizing a a' with
  | nil => exact hR
  | cons remark remarks ih => exact ih _ _ (h.note a a' _ _ rfl rfl hR)

/-- A failure is told alike, and the cancellation comes first in both. -/
theorem failWith (h : Parallel told R stops node comparer calls) {fault fault' : Fault}
    (hfault : fault.relabel told = fault'.relabel told) :
    Alike R stops (fun product product' => product.relabel told = product'.relabel told)
      (StepM.failWith node fault : StepM σ Product) (StepM.failWith node fault') := by
  refine h.check.bind fun _ _ _ => ?_
  have hnotice : (Notice.raised node fault).relabel told
      = (Notice.raised node fault').relabel told :=
    congrArg (Notice.raised node) hfault
  refine (h.notice hnotice).bind fun _ _ _ => ?_
  exact .of_pure (congrArg (fun fault => Product.table (.faulted fault)) hfault)

end Parallel

/-- Where the tables of a source are alike, updates that end with no more than carrying
its fault on are alike if the rest is. -/
theorem alike_of_source {table table' : Table Value}
    (htables : table.relabel told = table'.relabel told)
    {update : Table Value → StepM σ Product}
    (hcarry : ∀ fault, update (.faulted fault) = pure (.table (.faulted fault)))
    (hsame : Alike R stops (fun product product' => product.relabel told = product'.relabel told)
      (update table) (update table)) :
    Alike R stops (fun product product' => product.relabel told = product'.relabel told)
      (update table) (update table') := by
  rcases Table.eq_or_faulted htables with rfl | ⟨fault, fault', rfl, rfl, hfault⟩
  · exact hsame
  · rw [hcarry, hcarry]
    exact .of_pure (congrArg (fun fault => Product.table (.faulted fault)) hfault)

namespace Transform

variable {function : Transform σ}

/-- The function is called for the same item, and its outputs are written alike. -/
theorem alike_recompute (h : Parallel told R stops node comparer calls)
    (hcalls : ∀ value, calls (function.call value)) (item : Entry Value) (draft : Draft Value) :
    Alike R stops (Fault.Agree told) (recompute function node comparer item draft)
      (recompute function node comparer item draft) := by
  refine (h.invoke item.value (hcalls item.value)).bind ?_
  intro answer answer' hanswer
  cases hanswer with
  | error hfault => exact .of_pure (.error hfault)
  | ok outputs =>
    by_cases htag : item.tag = .modified
    · simp only [htag, if_true]
      refine (h.reviseOrAdd draft outputs).bind ?_
      intro next next' hnext
      rw [hnext]
      exact .of_pure (.ok next')
    · simp only [htag, if_false]
      exact .of_pure (.ok _)

/-- An item that is dropped or kept needs no call, any other one is recomputed alike. -/
theorem alike_visit (h : Parallel told R stops node comparer calls)
    (hcalls : ∀ value, calls (function.call value)) (item : Entry Value) (draft : Draft Value) :
    Alike R stops (Fault.Agree told) (visit function node comparer item draft)
      (visit function node comparer item draft) := by
  rcases visit_cases function node comparer item draft with
    ⟨value, -, hvisit⟩ | ⟨value, kept, -, -, hvisit⟩ | ⟨-, -, hvisit⟩
  · rw [hvisit]
    exact .of_pure (.ok _)
  · rw [hvisit]
    exact .of_pure (.ok kept)
  · rw [hvisit]
    exact alike_recompute h hcalls item draft

/-- By induction on the items: the first fault ends both loops at the same item. -/
theorem alike_write (h : Parallel told R stops node comparer calls)
    (hcalls : ∀ value, calls (function.call value)) (items : List (Entry Value))
    (draft : Draft Value) :
    Alike R stops (Fault.Agree told) (write function node comparer items draft)
      (write function node comparer items draft) := by
  induction items generalizing draft with
  | nil => exact .of_pure (.ok draft)
  | cons item items ih =>
    refine h.check.bind fun _ _ _ => (alike_visit h hcalls item draft).bind ?_
    intro result result' hresult
    cases hresult with
    | ok next => exact ih next
    | error hfault => exact .of_pure (.error hfault)

/-- A transform of sources that are the same but for their fault gives products that are. -/
theorem alike_update {site : Site} (h : Parallel told R stops site.node comparer calls)
    (hcalls : ∀ value, calls (function.call value)) (baseline : Table Value)
    {source source' : Table Value} (hsource : source.relabel told = source'.relabel told) :
    Alike R stops (fun product product' => product.relabel told = product'.relabel told)
      (function.update site comparer baseline source)
      (function.update site comparer baseline source') := by
  refine alike_of_source hsource (fun fault => rfl) ?_
  unfold update
  split
  · exact .of_pure rfl
  split
  · exact .of_pure rfl
  · refine (alike_write h hcalls source.items (.against baseline)).bind ?_
    intro result result' hresult
    cases hresult with
    | error hfault => exact h.failWith hfault
    | ok draft =>
      refine h.check.bind fun _ _ _ => (h.publish draft).bind ?_
      intro table table' htable
      rw [htable]
      exact .of_pure rfl

end Transform

namespace Batch

variable {function : Reduction σ}

/-- The function of a batch is called alike, if it calls any code at all. -/
theorem alike_apply (h : Parallel told R stops node comparer calls)
    (hcalls : ∀ values, calls (function.call values)) (values : List Value) :
    Alike R stops (Fault.Agree told) (apply function node values) (apply function node values) := by
  cases function with
  | collect => exact .of_pure (.ok _)
  | one f =>
    intro a a' hR
    rw [run_apply_one, run_apply_one]
    exact h.invoke (.list values) (hcalls values) a a' hR
  | many f => exact h.invoke (.list values) (hcalls values)

/-- What a batch gave is compared with its baseline alike. -/
theorem alike_write {site : Site} (h : Parallel told R stops site.node comparer calls)
    (baseline : Table Value) (outputs : List Value) :
    Alike R stops (fun product product' => product.relabel told = product'.relabel told)
      (write (σ := σ) site comparer baseline outputs) (write site comparer baseline outputs) := by
  have hpublish : ∀ draft : Draft Value,
      Alike R stops (fun product product' => product.relabel told = product'.relabel told)
        (do return Product.table (← StepM.publish draft) : StepM σ Product)
        (do return Product.table (← StepM.publish draft)) := by
    intro draft
    refine (h.publish draft).bind ?_
    intro table table' htable
    rw [htable]
    exact .of_pure rfl
  unfold write
  dsimp only
  split
  · exact hpublish _
  split
  · refine (h.reviseOrAdd _ outputs).bind ?_
    intro draft draft' hdraft
    rw [hdraft]
    exact hpublish draft'
  · exact (h.notice rfl).bind fun _ _ _ => .of_pure rfl

/-- A batch of sources that are the same but for their fault gives products that are. -/
theorem alike_update {site : Site} (h : Parallel told R stops site.node comparer calls)
    (hcalls : ∀ values, calls (function.call values)) (baseline : Table Value)
    {source source' : Table Value} (hsource : source.relabel told = source'.relabel told) :
    Alike R stops (fun product product' => product.relabel told = product'.relabel told)
      (update function site comparer baseline source)
      (update function site comparer baseline source') := by
  refine alike_of_source hsource (fun fault => rfl) ?_
  unfold update
  split
  · exact .of_pure rfl
  split
  · exact .of_pure rfl
  · refine (alike_apply h hcalls source.values).bind ?_
    intro result result' hresult
    cases hresult with
    | error hfault => exact h.failWith hfault
    | ok outputs => exact h.check.bind fun _ _ _ => alike_write h baseline outputs

end Batch

namespace Combine

/-- A pair is kept, revised, added or dropped alike. -/
theorem alike_visit (h : Parallel told R stops node comparer calls) (right left : Entry Value)
    (draft : Draft Value) :
    Alike R stops Eq (visit (σ := σ) node comparer right left draft)
      (visit node comparer right left draft) := by
  unfold visit
  dsimp only
  split
  · exact .of_pure rfl
  · exact .of_pure rfl
  · cases draft.keep? with
    | some kept => exact .of_pure rfl
    | none => exact h.reviseOrAdd draft _
  · exact h.reviseOrAdd draft _

/-- By induction on the left items, which the same right item goes with. -/
theorem alike_write (h : Parallel told R stops node comparer calls) (right : Entry Value)
    (lefts : List (Entry Value)) (draft : Draft Value) :
    Alike R stops Eq (write (σ := σ) node comparer right lefts draft)
      (write node comparer right lefts draft) := by
  induction lefts generalizing draft with
  | nil => exact .of_pure rfl
  | cons left lefts ih =>
    refine h.check.bind fun _ _ _ => (alike_visit h right left draft).bind ?_
    intro next next' hnext
    rw [hnext]
    exact ih next'

/-- A combine of sources that are the same but for their fault gives products that are. -/
theorem alike_update {site : Site} (h : Parallel told R stops site.node comparer calls)
    (baseline : Table Value) {left left' right right' : Table Value}
    (hleft : left.relabel told = left'.relabel told)
    (hright : right.relabel told = right'.relabel told) :
    Alike R stops (fun product product' => product.relabel told = product'.relabel told)
      (update (σ := σ) site comparer baseline left right)
      (update site comparer baseline left' right') := by
  rcases Table.eq_or_faulted hleft with rfl | ⟨fault, fault', rfl, rfl, hfault⟩
  · rcases Table.eq_or_faulted hright with rfl | ⟨fault, fault', rfl, rfl, hfault⟩
    · unfold update
      split
      · exact .of_pure rfl
      split
      · exact .of_pure rfl
      split
      · exact .of_pure rfl
      cases right.single? with
      | none => exact (h.notice rfl).bind fun _ _ _ => .of_pure rfl
      | some item =>
        refine (alike_write h item left.items (.against baseline)).bind ?_
        intro draft draft' hdraft
        rw [hdraft]
        refine h.check.bind fun _ _ _ => (h.publish draft').bind ?_
        intro table table' htable
        rw [htable]
        exact .of_pure rfl
    · -- The fault on the right counts unless there is one on the left.
      cases left with
      | faulted fault => exact .of_pure rfl
      | empty => exact .of_pure (congrArg (fun fault => Product.table (.faulted fault)) hfault)
      | compacted groups =>
        exact .of_pure (congrArg (fun fault => Product.table (.faulted fault)) hfault)
      | populated groups =>
        exact .of_pure (congrArg (fun fault => Product.table (.faulted fault)) hfault)
  · exact .of_pure (congrArg (fun fault => Product.table (.faulted fault)) hfault)

end Combine

namespace Input

/-- By induction on the values, each of which is compared with the same group. -/
theorem alike_reviseEach (h : Parallel told R stops node comparer calls) (values : List Value)
    (draft : Draft Value) :
    Alike R stops Eq (reviseEach (σ := σ) node comparer values draft)
      (reviseEach node comparer values draft) := by
  induction values generalizing draft with
  | nil => exact .of_pure rfl
  | cons value values ih =>
    refine (h.reviseOrAdd draft [value]).bind ?_
    intro next next' hnext
    rw [hnext]
    exact ih next'

/-- An input gives the same product in both runs, as it has no fault to tell. -/
theorem alike_update (h : Parallel told R stops node comparer calls) (baseline : Table Value)
    (values : List Value) :
    Alike R stops Eq (update (σ := σ) node comparer baseline values)
      (update node comparer baseline values) := by
  have hwrite : Alike R stops Eq (write (σ := σ) node comparer baseline values)
      (write node comparer baseline values) := by
    refine (alike_reviseEach h _ _).bind ?_
    intro draft draft' hdraft
    rw [hdraft]
    exact h.publish _
  refine hwrite.bind ?_
  intro table table' htable
  rw [htable]
  exact .of_pure rfl

end Input

namespace Driver

variable {driver : Driver σ}

/-- The updates of a node from source tables that are the same but for the raising of
faults end in the same way, but for the raising of faults. -/
theorem alike_updateFrom {id : NodeId} {spec : Node σ} {tables tables' : NodeId → Table Value}
    (hnode : driver.pipeline.node? id = some spec) (hbuiltIn : spec.role.isBuiltIn = true)
    (h : Parallel told R stops id (driver.comparer id spec) spec.role.Calls)
    (htables : ∀ source ∈ spec.sources,
      (tables source).relabel told = (tables' source).relabel told) :
    Alike R stops (fun product product' => product.relabel told = product'.relabel told)
      (driver.updateFrom tables id spec) (driver.updateFrom tables' id spec) := by
  have hsite : Parallel told R stops (driver.site id 0).node (driver.comparer id spec)
      spec.role.Calls := h
  -- Each form reads no more of a source than relabelling leaves.
  unfold updateFrom
  cases hrole : spec.role with
  | input =>
    dsimp only
    rw [inputValues_of_node? hnode]
    exact (Input.alike_update h _ _).mono fun _ _ heq => congrArg (Product.relabel told) heq
  | transform source function =>
    exact Transform.alike_update hsite (Node.calls_of_transform hrole)
      _ (htables source (Node.mem_sources_of_transform hrole))
  | batch source function =>
    exact Batch.alike_update hsite (Node.calls_of_batch hrole)
      _ (htables source (Node.mem_sources_of_batch hrole))
  | combine left right =>
    exact Combine.alike_update hsite _
      (htables left (Node.left_mem_sources hrole)) (htables right (Node.right_mem_sources hrole))
  | custom name turns program =>
    rw [hrole] at hbuiltIn
    cases hbuiltIn

end Driver

end Updates

end DeltaPipeline
