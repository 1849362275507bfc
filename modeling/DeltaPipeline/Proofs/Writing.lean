import DeltaPipeline.Proofs.Ensures
import DeltaPipeline.Proofs.Written
import DeltaPipeline.Update.Combine
import DeltaPipeline.Update.Input
import DeltaPipeline.Update.Transform

/-!
# `DeltaPipeline.Proofs.Writing`: the loops that write tables

The loops of the library's nodes write for their items what `Written` says, or end at
an item for which there is a fault (`Failed`). Meanwhile whatever single checks, calls
and comparisons keep is kept: `Steady` lists what is asked of them.

* `Draft.Writes`: a draft goes on by the groups written for a list of items.
* `Transform.ensures_write`, `Combine.ensures_write`, `Input.ensures_write`: the loops.
-/

set_option autoImplicit false

namespace DeltaPipeline

/-- Is the message one that tells of a broken rule of the library's own? -/
def Notice.isDefensive : Notice → Bool
  | .written _ => true
  | .violated _ => true
  | _ => false

/-- Does the entry tell of a broken rule of the library's own? -/
def Event.isDefensive : Event → Bool
  | .noticed notice => notice.isDefensive
  | _ => false

/-- The single steps of a node's update keep `holds`, or stop as `stops` says: its
checks, its entries in the journal, its user code, and the comparisons of its values
of the run before, which are `olds`. -/
structure Steady {σ : Type} (holds : Ambient σ → Prop) (stops : Stop → Ambient σ → Prop)
    (node : NodeId) (comparer : Comparer σ) (olds : List Value)
    (calls : UserCode σ (Except Fault (List Value)) → Prop) : Prop where
  check : ∀ a, holds a → a.env.cancelled = true → stops (.error .cancelled) a
  note : ∀ a event, event.isDefensive = false → holds a → holds (a.note event)
  perform : ∀ code, calls code → ∀ a, holds a →
    Ensures (StepM.perform node code) a (fun _ => holds) stops
  compare : ∀ previous ∈ olds, ∀ current a, holds a →
    Ensures (StepM.observeOne node comparer previous current) a (fun _ => holds) stops

/-- Nothing is asked of single steps where nothing is to be kept. -/
theorem steady_true {σ : Type} {node : NodeId} {comparer : Comparer σ} {olds : List Value}
    {calls : UserCode σ (Except Fault (List Value)) → Prop} :
    Steady (fun _ : Ambient σ => True) (fun _ _ => True) node comparer olds calls where
  check := fun _ _ _ => trivial
  note := fun _ _ _ _ => trivial
  perform := fun _ _ _ _ => Ensures.intro (fun _ _ _ => trivial) fun _ _ _ => trivial
  compare := fun _ _ _ _ _ => Ensures.intro (fun _ _ _ => trivial) fun _ _ _ => trivial

/-! ### Drafts -/

namespace Draft

variable {equals : Value → Value → Bool}
  {answers : Value → Except Fault (List Value) → Prop} {draft next last : Draft Value}
  {item : Entry Value} {items items' : List (Entry Value)}

/-- The draft goes on by what may be written for an item. -/
def Places (equals : Value → Value → Bool) (answers : Value → Except Fault (List Value) → Prop)
    (draft : Draft Value) (item : Entry Value) (next : Draft Value) : Prop :=
  ∃ groups left, Placed equals answers item draft.pending groups left ∧
    next = { draft with pending := left, groups := draft.groups ++ groups }

/-- The draft goes on by what may be written for a list of items. -/
def Writes (equals : Value → Value → Bool) (answers : Value → Except Fault (List Value) → Prop)
    (draft : Draft Value) (items : List (Entry Value)) (next : Draft Value) : Prop :=
  ∃ groups left, Written equals answers items draft.pending groups left ∧
    next = { draft with pending := left, groups := draft.groups ++ groups }

/-- Nothing is written for no items. -/
theorem Writes.nil : draft.Writes equals answers [] draft :=
  ⟨[], draft.pending, .nil _, by rw [List.append_nil]⟩

/-- An item placed before others that are written is written before them. -/
theorem Places.cons (hfirst : draft.Places equals answers item next)
    (hrest : next.Writes equals answers items last) :
    draft.Writes equals answers (item :: items) last := by
  obtain ⟨first, between, hplaced, rfl⟩ := hfirst
  obtain ⟨groups, left, hwritten, rfl⟩ := hrest
  exact ⟨first ++ groups, left, .cons hplaced hwritten, by rw [List.append_assoc]⟩

/-- Items written after items are written together. -/
theorem Writes.append (hfirst : draft.Writes equals answers items next)
    (hrest : next.Writes equals answers items' last) :
    draft.Writes equals answers (items ++ items') last := by
  obtain ⟨first, between, hwritten, rfl⟩ := hfirst
  obtain ⟨groups, left, hwritten', rfl⟩ := hrest
  exact ⟨first ++ groups, left, hwritten.append hwritten', by rw [List.append_assoc]⟩

/-- A removed item takes its group out of the draft, if there is one. -/
theorem places_drop (value : Value) :
    draft.Places equals answers ⟨value, .removed⟩ (draft.drop?.getD draft) := by
  obtain ⟨pending, groups, remarks⟩ := draft
  cases pending with
  | nil => exact ⟨[], [], .skipped value, by rw [List.append_nil]; rfl⟩
  | cons old rest => exact ⟨[Group.dropped old], rest, .dropped value old rest, rfl⟩

/-- A cached item keeps its group where there is one. -/
theorem places_keep {kept : Draft Value} (value : Value) (hkept : draft.keep? = some kept) :
    draft.Places equals answers ⟨value, .cached⟩ kept := by
  obtain ⟨pending, groups, remarks⟩ := draft
  cases pending with
  | nil => cases hkept
  | cons old rest =>
    cases hkept
    exact ⟨[Group.tagged .cached old], rest, .kept value old rest, rfl⟩

/-- An item that is new, or past the previous table, is added with its outputs. -/
theorem places_add {outputs : List Value} (htag : item.tag ≠ .removed)
    (hadded : item.tag = .added ∨ draft.pending = [])
    (houtputs : answers item.value (.ok outputs)) :
    draft.Places equals answers item (draft.add outputs .added) :=
  ⟨[Group.tagged .added outputs], draft.pending,
    .added item.value item.tag outputs draft.pending htag hadded houtputs, rfl⟩

/-- A modified item, or one past the previous table, has its outputs revised. -/
theorem places_reviseOrAdd {outputs : List Value} (htag : item.tag ≠ .removed)
    (hmodified : item.tag = .modified ∨ draft.pending = [])
    (houtputs : answers item.value (.ok outputs)) :
    draft.Places equals answers item (draft.reviseOrAdd equals outputs) := by
  obtain ⟨pending, groups, remarks⟩ := draft
  obtain ⟨value, tag⟩ := item
  cases pending with
  | nil => exact places_add htag (.inr rfl) houtputs
  | cons old rest =>
    -- Something is pending, so the item is a modified one and revises the next group.
    have hmodified : tag = .modified := hmodified.resolve_right (by simp)
    subst hmodified
    exact ⟨[{ items := revision equals old outputs }], rest,
      .revised value old outputs rest houtputs, rfl⟩

/-- What is pending after an item was pending before. -/
theorem Places.mem_flatten {olds : List Value} (h : draft.Places equals answers item next)
    (holds : ∀ previous ∈ draft.pending.flatten, previous ∈ olds) :
    ∀ previous ∈ next.pending.flatten, previous ∈ olds := by
  obtain ⟨groups, left, hplaced, rfl⟩ := h
  exact fun previous hprevious => holds previous (hplaced.mem_flatten_of_left hprevious)

/-- Adding values one by one takes no group. -/
@[simp] theorem pending_addEach (draft : Draft Value) (values : List Value) :
    (draft.addEach values).pending = draft.pending := by
  rw [addEach_eq]

/-- Dropping all pending groups is writing as many removed items. -/
theorem writes_dropAll (draft : Draft Value) :
    draft.Writes equals answers (List.replicate draft.pending.length ⟨.null, .removed⟩)
      draft.dropAll := by
  obtain ⟨pending, groups, remarks⟩ := draft
  induction pending generalizing groups with
  | nil => exact ⟨[], [], .nil [], by simp [dropAll]⟩
  | cons old rest ih =>
    have hfirst : Places equals answers ⟨old :: rest, groups, remarks⟩ ⟨.null, .removed⟩
        ⟨rest, groups ++ [Group.dropped old], remarks⟩ := places_drop .null
    simpa [dropAll, List.replicate_succ] using hfirst.cons (ih (groups ++ [Group.dropped old]))

/-- Adding values as groups of their own is writing added items. -/
theorem writes_addEach (draft : Draft Value) (values : List Value)
    (hanswers : ∀ value, answers value (.ok [value])) :
    draft.Writes equals answers (values.map (⟨·, .added⟩)) (draft.addEach values) := by
  induction values generalizing draft with
  | nil => exact .nil
  | cons value values ih =>
    exact (places_add (by simp) (.inl rfl) (hanswers value)).cons (ih _)

/-- Writing items that are enough to take all groups of a baseline takes them all. -/
theorem Writes.eq_of_length_le {baseline : Table Value}
    (h : (against baseline).Writes equals answers items next)
    (htaken : baseline.groups.length ≤ (items.filter (!·.isAdded)).length) :
    ∃ groups, next = { pending := [], groups := groups } ∧
      Written equals answers items (baseline.groups.map Group.values) groups [] := by
  obtain ⟨groups, left, hwritten, rfl⟩ := h
  -- There are as many items as groups, so no group is left over.
  have hleft : left = [] := by
    rw [hwritten.left_eq_drop, List.drop_eq_nil_iff]
    simpa using htaken
  subst hleft
  exact ⟨groups, rfl, hwritten⟩

/-- What is pending at first are the values of the baseline. -/
theorem mem_values_of_pending (baseline : Table Value) :
    ∀ previous ∈ (against baseline).pending.flatten, previous ∈ baseline.values := by
  simp [Table.values, List.flatMap_def]

end Draft

/-! ### The loops -/

section Loops

variable {σ : Type} {holds : Ambient σ → Prop} {stops : Stop → Ambient σ → Prop}
  {node : NodeId} {comparer : Comparer σ} {olds : List Value}
  {calls : UserCode σ (Except Fault (List Value)) → Prop}

namespace Steady

variable {α : Type} {rest : StepM σ α} {answered : α → Ambient σ → Prop} {a : Ambient σ}

/-- After a check the steps go on, if the run is not cancelled. -/
theorem bind_check (hsteady : Steady holds stops node comparer olds calls) (ha : holds a)
    (hrest : ∀ b, holds b → Ensures rest b answered stops) :
    Ensures (StepM.check >>= fun _ => rest) a answered stops :=
  Ensures.bind (I := fun _ => holds) (ensures_check (hsteady.check a ha) ha) fun _ => hrest

/-- An entry in the journal leaves the steps after it as they are. -/
theorem bind_record (hsteady : Steady holds stops node comparer olds calls) {event : Event}
    (hevent : event.isDefensive = false) (ha : holds a)
    (hrest : ∀ b, holds b → Ensures rest b answered stops) :
    Ensures (StepM.record event >>= fun _ => rest) a answered stops :=
  Ensures.bind (I := fun _ => holds) (ensures_record (hsteady.note a event hevent ha)) fun _ =>
    hrest

end Steady

/-- Revising with host comparisons ends as revising with the relation they answer by. -/
theorem ensures_reviseOrAdd (hsteady : Steady holds stops node comparer olds calls)
    {draft : Draft Value} (hpending : ∀ previous ∈ draft.pending.flatten, previous ∈ olds)
    (values : List Value) {a : Ambient σ} (ha : holds a) :
    Ensures (StepM.reviseOrAdd node comparer draft values) a
      (fun next b => holds b ∧ next = draft.reviseOrAdd comparer.equals values) stops := by
  have hpairs : ∀ pair ∈ draft.comparisons values, ∀ b, holds b →
      Ensures (StepM.observeOne node comparer pair.1 pair.2) b (fun _ => holds) stops := by
    intro pair hpair b hb
    refine hsteady.compare pair.1 (hpending pair.1 ?_) pair.2 b hb
    -- Only values of the next pending group are compared.
    have hmem := (List.of_mem_zip (a := pair.1) (b := pair.2) hpair).1
    cases hp : draft.pending with
    | nil => simp [hp] at hmem
    | cons old rest =>
      rw [hp] at hmem
      exact List.mem_flatten.mpr ⟨old, by simp, hmem⟩
  exact Ensures.bind (ensures_observe _ hpairs ha) fun _ _ hb => Ensures.of_pure ⟨hb, rfl⟩

/-- A function of the host gives an answer that its code may give. -/
theorem ensures_invoke (hsteady : Steady holds stops node comparer olds calls)
    (argument : Value) {code : UserCode σ (Except Fault (List Value))} (hcode : calls code)
    {a : Ambient σ} (ha : holds a) :
    Ensures (StepM.invoke node argument code) a
      (fun answer b => holds b ∧ code.MayGive answer) stops :=
  hsteady.bind_record rfl ha fun b hb => (hsteady.perform code hcode b hb).perform_mayGive

namespace Transform

variable {function : Transform σ}

/-- How the writing of items from a draft ends: with a draft that goes on by them, or
with a fault. -/
def WriteEnds (function : Transform σ) (equals : Value → Value → Bool)
    (items : List (Entry Value)) (draft : Draft Value) : Except Fault (Draft Value) → Prop
  | .ok next =>
    draft.Writes equals (fun value => (function.call value).MayGive) items next
  | .error fault =>
    Failed equals (fun value => (function.call value).MayGive) items draft.pending fault

/-- How the writing of one item from a draft ends. -/
def VisitEnds (function : Transform σ) (equals : Value → Value → Bool) (item : Entry Value)
    (draft : Draft Value) : Except Fault (Draft Value) → Prop
  | .ok next =>
    draft.Places equals (fun value => (function.call value).MayGive) item next
  | .error fault =>
    item.isLive = true ∧ (item.tag = .cached → draft.pending = []) ∧
      (function.call item.value).MayGive (.error fault)

/-- An item that is computed and not a modified one is new, or nothing is left for it. -/
theorem added_or_pending_nil {item : Entry Value} {draft : Draft Value}
    (hlive : item.tag ≠ .removed) (hcached : item.tag = .cached → draft.pending = [])
    (hmodified : item.tag ≠ .modified) : item.tag = .added ∨ draft.pending = [] := by
  cases htag : item.tag with
  | added => exact .inl rfl
  | modified => exact absurd htag hmodified
  | cached => exact .inr (hcached htag)
  | removed => exact absurd htag hlive

/-- An item whose function is called is placed with what the function gave, or the visit ends with
its fault. -/
theorem ensures_recompute (hsteady : Steady holds stops node comparer olds calls)
    (hcalls : ∀ value, calls (function.call value)) {item : Entry Value} {draft : Draft Value}
    (hpending : ∀ previous ∈ draft.pending.flatten, previous ∈ olds)
    (hlive : item.tag ≠ .removed) (hcached : item.tag = .cached → draft.pending = [])
    {a : Ambient σ} (ha : holds a) :
    Ensures (recompute function node comparer item draft) a
      (fun result b => holds b ∧ VisitEnds function comparer.equals item draft result)
      stops := by
  refine Ensures.bind (ensures_invoke hsteady item.value (hcalls item.value) ha) ?_
  rintro (fault | outputs) b ⟨hb, hgives⟩
  · exact Ensures.of_pure ⟨hb, by simp [Entry.isLive, hlive], hcached, hgives⟩
  · -- A modified item revises the next group. Any other one adds a group.
    by_cases htag : item.tag = .modified
    · simp only [htag, if_true]
      refine Ensures.bind (ensures_reviseOrAdd hsteady hpending outputs hb) ?_
      rintro next c ⟨hc, rfl⟩
      exact Ensures.of_pure ⟨hc, Draft.places_reviseOrAdd hlive (.inl htag) hgives⟩
    · simp only [htag, if_false]
      exact Ensures.of_pure
        ⟨hb, Draft.places_add hlive (added_or_pending_nil hlive hcached htag) hgives⟩

/-- Each item is placed by its tag, or the visit ends with the fault of its function. -/
theorem ensures_visit (hsteady : Steady holds stops node comparer olds calls)
    (hcalls : ∀ value, calls (function.call value)) {item : Entry Value} {draft : Draft Value}
    (hpending : ∀ previous ∈ draft.pending.flatten, previous ∈ olds) {a : Ambient σ}
    (ha : holds a) :
    Ensures (visit function node comparer item draft) a
      (fun result b => holds b ∧ VisitEnds function comparer.equals item draft result)
      stops := by
  rcases visit_cases function node comparer item draft with
    ⟨value, rfl, hvisit⟩ | ⟨value, kept, rfl, hkept, hvisit⟩ | ⟨hlive, hcached, hvisit⟩
  · rw [hvisit]
    exact Ensures.of_pure ⟨ha, Draft.places_drop value⟩
  · rw [hvisit]
    exact Ensures.of_pure ⟨ha, Draft.places_keep value hkept⟩
  · rw [hvisit]
    exact ensures_recompute hsteady hcalls hpending hlive hcached ha

/-- The loop of a transform. -/
theorem ensures_write (hsteady : Steady holds stops node comparer olds calls)
    (hcalls : ∀ value, calls (function.call value)) (items : List (Entry Value))
    {draft : Draft Value} (hpending : ∀ previous ∈ draft.pending.flatten, previous ∈ olds)
    {a : Ambient σ} (ha : holds a) :
    Ensures (write function node comparer items draft) a
      (fun result b => holds b ∧ WriteEnds function comparer.equals items draft result)
      stops := by
  -- The induction carries along that what is pending was in the baseline.
  induction items generalizing draft a with
  | nil => exact Ensures.of_pure ⟨ha, .nil⟩
  | cons item items ih =>
    refine hsteady.bind_check ha fun b hb => ?_
    refine Ensures.bind (ensures_visit hsteady hcalls hpending hb) ?_
    rintro (fault | next) c ⟨hc, hvisit⟩
    · obtain ⟨hlive, hcached, hfault⟩ := hvisit
      exact Ensures.of_pure ⟨hc, failed_head items hlive hcached hfault⟩
    · refine (ih (hvisit.mem_flatten hpending) hc).mono ?_ fun _ _ h => h
      rintro (fault | last) d ⟨hd, hrest⟩
      · -- A later item ends the writing, after the group of this one.
        obtain ⟨groups, left, hplaced, rfl⟩ := hvisit
        exact ⟨hd, failed_cons hplaced hrest⟩
      · exact ⟨hd, Draft.Places.cons hvisit hrest⟩

end Transform

namespace Combine

/-- The left item as the pair of it is written: where the right item is not as it was,
no pair counts as unchanged. -/
def retagged (right left : Entry Value) : Entry Value :=
  if right.tag ≠ .cached ∧ left.tag = .cached then left.retag .modified else left

variable {right : Entry Value}

/-- A left item is placed paired with the right item, under the tag that both give it. -/
theorem ensures_visit (hsteady : Steady holds stops node comparer olds calls)
    {left : Entry Value} {draft : Draft Value}
    (hpending : ∀ previous ∈ draft.pending.flatten, previous ∈ olds) {a : Ambient σ}
    (ha : holds a) :
    Ensures (visit node comparer right left draft) a
      (fun next b => holds b ∧ draft.Places comparer.equals
        (fun value answer => answer = .ok [.pair value right.value]) (retagged right left) next)
      stops := by
  -- All cases but the first two may end so: the next group is revised, or one is added.
  have hrevise : ∀ item : Entry Value, item.tag = .modified ∨ draft.pending = [] →
      item.tag ≠ .removed → item.value = left.value →
      Ensures (StepM.reviseOrAdd node comparer draft [.pair left.value right.value]) a
        (fun next b => holds b ∧ draft.Places comparer.equals
          (fun value answer => answer = .ok [.pair value right.value]) item next) stops := by
    intro item hmodified hlive hvalue
    refine (ensures_reviseOrAdd hsteady hpending _ ha).mono ?_ fun _ _ h => h
    rintro next b ⟨hb, rfl⟩
    exact ⟨hb, Draft.places_reviseOrAdd hlive hmodified (by rw [hvalue])⟩
  obtain ⟨value, tag⟩ := left
  unfold visit retagged
  cases tag with
  | removed => exact Ensures.of_pure ⟨ha, by simpa using Draft.places_drop value⟩
  | added =>
    have hplaces : draft.Places comparer.equals
        (fun value answer => answer = .ok [.pair value right.value]) ⟨value, .added⟩
        (draft.add [.pair value right.value] .added) :=
      Draft.places_add (by simp) (.inl rfl) rfl
    exact Ensures.of_pure ⟨ha, by simpa using hplaces⟩
  | modified => simpa using hrevise ⟨value, .modified⟩ (.inl rfl) (by simp) rfl
  | cached =>
    by_cases hright : right.tag = .cached
    · simp only [hright, ne_eq, not_true_eq_false, false_and, if_false]
      cases hkeep : draft.keep? with
      | some kept => exact Ensures.of_pure ⟨ha, Draft.places_keep value hkeep⟩
      | none =>
        have hnil := draft.keep?_eq_none_iff.mp hkeep
        exact hrevise ⟨value, .cached⟩ (.inr hnil) (by simp) rfl
    · -- The right item is not as it was, so the pair is written like a modified one.
      simp only [hright, ne_eq, not_false_eq_true, true_and, if_true]
      cases hr : right.tag with
      | cached => exact absurd hr hright
      | added => exact hrevise ⟨value, .modified⟩ (.inl rfl) (by simp) rfl
      | modified => exact hrevise ⟨value, .modified⟩ (.inl rfl) (by simp) rfl
      | removed => exact hrevise ⟨value, .modified⟩ (.inl rfl) (by simp) rfl

/-- The loop of a combine. -/
theorem ensures_write (hsteady : Steady holds stops node comparer olds calls)
    (lefts : List (Entry Value)) {draft : Draft Value}
    (hpending : ∀ previous ∈ draft.pending.flatten, previous ∈ olds) {a : Ambient σ}
    (ha : holds a) :
    Ensures (write node comparer right lefts draft) a
      (fun next b => holds b ∧ draft.Writes comparer.equals
        (fun value answer => answer = .ok [.pair value right.value])
        (lefts.map (retagged right)) next)
      stops := by
  induction lefts generalizing draft a with
  | nil => exact Ensures.of_pure ⟨ha, .nil⟩
  | cons left lefts ih =>
    refine hsteady.bind_check ha fun b hb => ?_
    refine Ensures.bind (ensures_visit hsteady hpending hb) ?_
    rintro next c ⟨hc, hplaces⟩
    refine (ih (hplaces.mem_flatten hpending) hc).mono ?_ fun _ _ h => h
    rintro last d ⟨hd, hrest⟩
    exact ⟨hd, hplaces.cons hrest⟩

end Combine

namespace Input

/-- The values of an input as items to be written against so many groups: those at
positions that the baseline has are to be compared, the rest of the baseline is
removed, the rest of the values is added. -/
def feed (groups : Nat) (values : List Value) : List (Entry Value) :=
  (values.take (min groups values.length)).map (⟨·, .modified⟩) ++
    List.replicate (groups - values.length) ⟨.null, .removed⟩ ++
    (values.drop (min groups values.length)).map (⟨·, .added⟩)

/-- The values of an input are written as modified items, in order. -/
theorem ensures_reviseEach (hsteady : Steady holds stops node comparer olds calls)
    (values : List Value) {draft : Draft Value}
    (hpending : ∀ previous ∈ draft.pending.flatten, previous ∈ olds) {a : Ambient σ}
    (ha : holds a) :
    Ensures (reviseEach node comparer values draft) a
      (fun next b => holds b ∧ draft.Writes comparer.equals
        (fun value answer => answer = .ok [value]) (values.map (⟨·, .modified⟩)) next)
      stops := by
  induction values generalizing draft a with
  | nil => exact Ensures.of_pure ⟨ha, .nil⟩
  | cons value values ih =>
    refine Ensures.bind (ensures_reviseOrAdd hsteady hpending [value] ha) ?_
    rintro next b ⟨hb, rfl⟩
    have hplaces : draft.Places comparer.equals (fun value answer => answer = .ok [value])
        ⟨value, .modified⟩ (draft.reviseOrAdd comparer.equals [value]) :=
      Draft.places_reviseOrAdd (by simp) (.inl rfl) rfl
    refine (ih (hplaces.mem_flatten hpending) hb).mono ?_ fun _ _ h => h
    rintro last c ⟨hc, hrest⟩
    exact ⟨hc, hplaces.cons hrest⟩

/-- The loops of an input. -/
theorem ensures_write (hsteady : Steady holds stops node comparer olds calls)
    (baseline : Table Value) (values : List Value)
    (hpending : ∀ previous ∈ baseline.values, previous ∈ olds) {a : Ambient σ} (ha : holds a) :
    Ensures (write node comparer baseline values) a
      (fun table b => holds b ∧ ∃ groups, table = .populated groups ∧
        Written comparer.equals (fun value answer => answer = .ok [value])
          (feed baseline.groups.length values) (baseline.groups.map Group.values) groups [])
      stops := by
  have hpending' : ∀ previous ∈ (Draft.against baseline).pending.flatten, previous ∈ olds :=
    fun previous hprevious => hpending previous (Draft.mem_values_of_pending _ previous hprevious)
  refine Ensures.bind (ensures_reviseEach hsteady _ hpending' ha) ?_
  rintro next b ⟨hb, hrevised⟩
  -- What is pending now lies beyond the values set.
  have hremaining : next.pending.length = baseline.groups.length - values.length := by
    obtain ⟨groups, left, hwritten, rfl⟩ := hrevised
    show left.length = _
    rw [hwritten.left_eq_drop, filter_map_tag (fun _ => rfl)]
    simp only [Draft.pending_against, List.length_drop, List.length_map, List.length_take]
    omega
  have hall := (hrevised.append next.writes_dropAll).append
    (Draft.writes_addEach next.dropAll (values.drop (min baseline.groups.length values.length))
      fun value => rfl)
  rw [hremaining] at hall
  obtain ⟨groups, left, hwritten, hlast⟩ := hall
  -- Dropping took all of it, and adding takes nothing.
  have hnil : left = [] := by
    have hdrop := Draft.pending_addEach next.dropAll
      (values.drop (min baseline.groups.length values.length))
    rw [hlast] at hdrop
    exact hdrop
  subst hnil
  rw [hlast]
  exact ensures_publish rfl rfl ⟨hb, groups, rfl, hwritten⟩

end Input

end Loops

end DeltaPipeline
