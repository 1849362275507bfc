import DeltaPipeline.Proofs.Drafting
import DeltaPipeline.Proofs.Writing
import DeltaPipeline.Update.Batch
import Mathlib.Data.List.Induction

/-!
# `DeltaPipeline.Proofs.Obtainable`: the tables there can be

A host makes tables by the operations of drafts, by taking baselines of tables, or as
faults. Not every list of groups comes about so: a group of a source item that
disappeared has no present value, and a compacted table has cached items only. That is
why the baseline of a table has exactly its values.

* `Draft.WrittenFrom`: drafts written by operations against a baseline.
* `Table.Obtainable`: the tables that can be made.
* `Table.Obtainable.isRegular`, `Table.Obtainable.items_asCached`: what they are like.
* `Transform.ensures_obtainable` and the like: the library's own nodes make such tables.
-/

set_option autoImplicit false

namespace DeltaPipeline

/-! ### Drafts written by operations -/

namespace Draft

variable {α : Type}

/-- The draft was written by operations against the baseline, each revision by a relation
of its own. -/
def WrittenFrom (baseline : Table α) (draft : Draft α) : Prop :=
  ∃ edits : List (Edit α (α → α → Bool)), ((against baseline).performAll id edits).2 = draft

/-- An operation at the end is carried out on what the others leave. -/
theorem performAll_concat {ρ : Type} (equals : ρ → α → α → Bool) (draft : Draft α)
    (edits : List (Edit α ρ)) (edit : Edit α ρ) :
    (draft.performAll equals (edits ++ [edit])).2
      = ((draft.performAll equals edits).2.perform equals edit).2 :=
  performAll_append equals draft edits [edit]

namespace WrittenFrom

variable {baseline : Table α} {draft : Draft α}

/-- A draft that was just begun is written from its baseline. -/
theorem start (baseline : Table α) : WrittenFrom baseline (against baseline) :=
  ⟨[], rfl⟩

/-- One more operation keeps it so. -/
theorem perform (h : WrittenFrom baseline draft) (edit : Edit α (α → α → Bool)) :
    WrittenFrom baseline (draft.perform id edit).2 := by
  obtain ⟨edits, rfl⟩ := h
  exact ⟨edits ++ [edit], performAll_concat _ _ _ _⟩

/-- Adding a group is an operation. -/
theorem add (h : WrittenFrom baseline draft) (values : List α) (tag : Tag) :
    WrittenFrom baseline (draft.add values tag) :=
  h.perform (.add values tag)

/-- Revising the next group, or else adding one, is an operation. -/
theorem reviseOrAdd (h : WrittenFrom baseline draft) (equals : α → α → Bool)
    (values : List α) : WrittenFrom baseline (draft.reviseOrAdd equals values) :=
  h.perform (.reviseOrAdd values equals)

end WrittenFrom

end Draft

/-! ### Tables that can be made -/

/-- The group of a source item that disappeared has removed items only. -/
def Group.IsRegular {α : Type} (group : Group α) : Prop :=
  group.removed = true → ∀ item ∈ group.items, item.tag = .removed

/-- A group whose items have one tag is regular, unless the tag says they were removed. -/
theorem Group.isRegular_tagged {α : Type} (tag : Tag) (values : List α) :
    (Group.tagged tag values).IsRegular := by
  intro h
  cases h

/-- A group that was dropped is regular. -/
theorem Group.isRegular_dropped {α : Type} (values : List α) :
    (Group.dropped values).IsRegular := by
  intro _ item hitem
  obtain ⟨value, -, rfl⟩ := List.mem_map.mp hitem
  rfl

/-- An operation on a draft writes one regular group or none. -/
theorem Draft.groups_perform {α ρ : Type} (equals : ρ → α → α → Bool) (draft : Draft α)
    (edit : Edit α ρ) :
    ∃ written, (draft.perform equals edit).2.groups = draft.groups ++ written ∧
      ∀ group ∈ written, group.IsRegular := by
  obtain ⟨pending, groups, remarks⟩ := draft
  have hadd : ∀ (values : List α) (tag : Tag), ∃ written,
      (Draft.add ⟨pending, groups, remarks⟩ values tag).groups = groups ++ written ∧
        ∀ group ∈ written, group.IsRegular := by
    intro values tag
    refine ⟨[if tag = .removed then Group.dropped values else Group.tagged tag values], ?_, ?_⟩
    · cases pending <;> cases tag <;> rfl
    · intro group hgroup
      rw [List.mem_singleton.mp hgroup]
      split
      · exact Group.isRegular_dropped values
      · exact Group.isRegular_tagged tag values
  -- With nothing pending nothing is written, but for additions.
  have hnone : ∃ written, groups = groups ++ written ∧
      ∀ group ∈ written, Group.IsRegular (α := α) group := ⟨[], by simp, by simp⟩
  cases edit with
  | add values tag => exact hadd values tag
  | addOne value tag => exact hadd [value] tag
  | keep =>
    cases pending with
    | nil => exact hnone
    | cons old rest =>
      exact ⟨[Group.tagged .cached old], rfl, by simp [Group.isRegular_tagged]⟩
  | drop =>
    cases pending with
    | nil => exact hnone
    | cons old rest => exact ⟨[Group.dropped old], rfl, by simp [Group.isRegular_dropped]⟩
  | revise values relation =>
    cases pending with
    | nil => exact hnone
    | cons old rest =>
      exact ⟨[{ items := revision (equals relation) old values }], rfl, by simp [Group.IsRegular]⟩
  | reviseOne value relation =>
    cases pending with
    | nil => exact hnone
    | cons old rest =>
      exact ⟨[{ items := revision (equals relation) old [value] }], rfl, by simp [Group.IsRegular]⟩
  | reviseOrAdd values relation =>
    cases pending with
    | nil => exact hadd values .added
    | cons old rest =>
      exact ⟨[{ items := revision (equals relation) old values }], rfl, by simp [Group.IsRegular]⟩

/-- All groups that were written are regular: each operation writes such groups only. -/
theorem Draft.WrittenFrom.isRegular {α : Type} {baseline : Table α} {draft : Draft α}
    (h : Draft.WrittenFrom baseline draft) : ∀ group ∈ draft.groups, group.IsRegular := by
  obtain ⟨edits, rfl⟩ := h
  induction edits using List.reverseRecOn with
  | nil => simp [Draft.performAll]
  | append_singleton edits edit ih =>
    rw [Draft.performAll_concat]
    obtain ⟨written, hgroups, hwritten⟩ := Draft.groups_perform id
      ((Draft.against baseline).performAll id edits).2 edit
    rw [hgroups]
    intro group hgroup
    rcases List.mem_append.mp hgroup with hmem | hmem
    · exact ih group hmem
    · exact hwritten group hmem

namespace Table

variable {α : Type} {table : Table α}

/-- The tables that can be made: empty ones, faults, baselines, and what is written by
operations of a draft against such a table. -/
inductive Obtainable : Table α → Prop where
  | empty : Obtainable .empty
  | faulted (fault : Fault) : Obtainable (.faulted fault)
  | asCached {table : Table α} : Obtainable table → Obtainable table.asCached
  | written {baseline : Table α} {draft : Draft α} : Obtainable baseline →
    Draft.WrittenFrom baseline draft → Obtainable draft.finish

/-- The groups of source items that disappeared have removed items only, and in a
compacted table all groups are as they were. -/
def IsRegular : Table α → Prop
  | .empty => True
  | .faulted _ => True
  | .compacted groups => ∀ group ∈ groups, group.isCached = true
  | .populated groups => ∀ group ∈ groups, group.IsRegular

/-- A baseline has regular groups, all of them kept. -/
theorem IsRegular.asCached (h : table.IsRegular) : table.asCached.IsRegular := by
  cases table with
  | empty => exact h
  | faulted fault => trivial
  | compacted groups => exact h
  | populated groups =>
    intro group hgroup
    obtain ⟨before, -, hbefore⟩ := List.mem_filterMap.mp hgroup
    unfold Group.asCached? at hbefore
    split at hbefore
    · cases hbefore
    · cases hbefore
      exact Group.isCached_tagged before.values

/-- Tables that can be made are regular. -/
theorem Obtainable.isRegular (h : table.Obtainable) : table.IsRegular := by
  induction h with
  | empty => trivial
  | faulted fault => trivial
  | asCached _ ih => exact ih.asCached
  | written _ hwritten _ => exact hwritten.isRegular

/-- A group with cached items only lists its values. -/
theorem items_of_isCached {group : Group α} (h : group.isCached = true) :
    group.items = group.values.map (⟨·, .cached⟩) := by
  have hcached : ∀ item ∈ group.items, item.tag = .cached := by
    intro item hitem
    simp only [Group.isCached, Bool.and_eq_true, List.all_eq_true, decide_eq_true_eq] at h
    exact h.2 item hitem
  have hlive : group.items.filter Entry.isLive = group.items :=
    List.filter_eq_self.mpr fun item hitem => by simp [Entry.isLive, hcached item hitem]
  rw [Group.values, hlive, List.map_map]
  refine (List.map_id' _).symm.trans (List.map_congr_left fun item hitem => ?_)
  show item = ⟨item.value, .cached⟩
  rw [← hcached item hitem]

/-- The baseline of a regular table lists exactly the present values, all cached. -/
theorem IsRegular.items_asCached (h : table.IsRegular) :
    table.asCached.items = table.values.map (⟨·, .cached⟩) := by
  cases table with
  | empty => rfl
  | faulted fault => rfl
  | compacted groups =>
    show groups.flatMap Group.items = (groups.flatMap Group.values).map _
    rw [List.map_flatMap]
    exact List.flatMap_congr fun group hgroup => items_of_isCached (h group hgroup)
  | populated groups =>
    show (groups.filterMap Group.asCached?).flatMap Group.items
      = (groups.flatMap Group.values).map _
    induction groups with
    | nil => rfl
    | cons group groups ih =>
      have hrest := ih fun other hother => h other (by simp [hother])
      rw [List.flatMap_cons, List.map_append, ← hrest]
      cases hremoved : group.removed with
      | true =>
        -- The items of a group of something that disappeared are all removed.
        have hgroup := h group (by simp) hremoved
        have hvalues : group.values = [] := by
          rw [Group.values, List.filter_eq_nil_iff.mpr, List.map_nil]
          intro item hitem
          simp [Entry.isLive, hgroup item hitem]
        rw [List.filterMap_cons, Group.asCached?, if_pos hremoved, hvalues]
        rfl
      | false =>
        rw [List.filterMap_cons, Group.asCached?, if_neg (by simp [hremoved])]
        rfl

/-- The items of a baseline are the values of the table, all of them cached. -/
theorem Obtainable.items_asCached (h : table.Obtainable) :
    table.asCached.items = table.values.map (⟨·, .cached⟩) :=
  h.isRegular.items_asCached

/-- A baseline is empty or compacted. -/
theorem condition_asCached (table : Table α) :
    table.asCached.condition = .empty ∨ table.asCached.condition = .compacted := by
  cases table with
  | empty => exact .inl rfl
  | faulted fault => exact .inl rfl
  | compacted groups => exact .inr rfl
  | populated groups => exact .inr rfl

/-- A baseline is no fault. -/
theorem isFaulted_asCached (table : Table α) : table.asCached.isFaulted = false := by
  cases table <;> rfl

end Table

/-! ### The library's own nodes -/

/-- The table of the product, if it is a new one, can be made. -/
def Product.Obtainable (product : Product) : Prop :=
  ∀ table, product = .table table → table.Obtainable

/-- Where nothing changed, the baseline is given, which was obtainable. -/
theorem Product.obtainable_unchanged : Product.Obtainable .unchanged := by
  intro table h
  cases h

/-- A product is obtainable if its table is. -/
theorem Product.obtainable_table {table : Table Value} (h : table.Obtainable) :
    Product.Obtainable (.table table) := by
  intro other hother
  cases hother
  exact h

/-- The table that a product stands for is obtainable. -/
theorem Product.Obtainable.resolve {product : Product} (h : product.Obtainable)
    {baseline : Table Value} (hbaseline : baseline.Obtainable) :
    (product.resolve baseline).Obtainable := by
  cases product with
  | unchanged => exact hbaseline
  | table t => exact h t rfl

/-- What may be written for items is written by operations. -/
theorem Draft.Writes.writtenFrom {equals : Value → Value → Bool}
    {answers : Value → Except Fault (List Value) → Prop} {baseline : Table Value}
    {draft next : Draft Value} {items : List (Entry Value)}
    (h : draft.Writes equals answers items next) (hdraft : Draft.WrittenFrom baseline draft) :
    Draft.WrittenFrom baseline next := by
  obtain ⟨groups, left, hwritten, rfl⟩ := h
  obtain ⟨pending, before, remarks⟩ := draft
  dsimp only at hwritten ⊢
  induction hwritten generalizing before with
  | nil pending =>
    rw [List.append_nil]
    exact hdraft
  | cons hplaced hrest ih =>
    rw [← List.append_assoc]
    refine ih _ ?_
    cases hplaced with
    | skipped value =>
      rw [List.append_nil]
      exact hdraft
    | dropped value old rest => exact hdraft.perform .drop
    | kept value old rest => exact hdraft.perform .keep
    | revised value old outputs rest houtputs => exact hdraft.perform (.revise outputs equals)
    | added value tag outputs pending htag hadded houtputs => exact hdraft.add outputs .added

section Updates

variable {σ : Type} {site : Site} {comparer : Comparer σ} {baseline : Table Value}
  {a : Ambient σ}

/-- What a draft is published as is obtainable. -/
theorem obtainable_publish (hbaseline : baseline.Obtainable) {draft : Draft Value}
    (hdraft : Draft.WrittenFrom baseline draft) :
    Ensures (do return Product.table (← StepM.publish draft) : StepM σ Product) a
      (fun product _ => product.Obtainable) (fun _ _ => True) := by
  refine Ensures.bind (I := fun table _ => table = draft.finish) ?_ ?_
  · unfold Ensures
    rw [StepM.run_publish]
  · rintro _ b rfl
    exact Product.obtainable_table (.written hbaseline hdraft)

/-- A failure is obtainable. -/
theorem obtainable_failWith (node : NodeId) (fault : Fault) :
    Ensures (StepM.failWith node fault : StepM σ Product) a
      (fun product _ => product.Obtainable) (fun _ _ => True) := by
  unfold Ensures
  rw [StepM.run_failWith]
  split
  · next answer b h =>
    split at h
    · cases h
    · cases h
      exact Product.obtainable_table (.faulted fault)
  · trivial

/-- A check in front of a step gives nothing of its own. -/
theorem obtainable_check {rest : StepM σ Product}
    (h : ∀ b, Ensures rest b (fun product _ => product.Obtainable) (fun _ _ => True)) :
    Ensures (StepM.check >>= fun _ => rest) a (fun product _ => product.Obtainable)
      (fun _ _ => True) :=
  Ensures.bind (I := fun _ _ => True) (ensures_check (fun _ => trivial) trivial) fun _ b _ => h b

/-- A transform writes one draft, or hands on a fault, or fails. -/
theorem Transform.ensures_obtainable (function : Transform σ) (source : Table Value)
    (hbaseline : baseline.Obtainable) :
    Ensures (function.update site comparer baseline source) a
      (fun product _ => product.Obtainable) (fun _ _ => True) := by
  unfold Transform.update
  split
  · exact Ensures.of_pure Product.obtainable_unchanged
  split
  · exact Ensures.of_pure (Product.obtainable_table (.faulted _))
  · have hsteady : Steady (fun _ : Ambient σ => True) (fun _ _ => True) site.node comparer
        baseline.values (fun _ => True) := steady_true
    refine Ensures.bind (Transform.ensures_write hsteady (fun _ => trivial) source.items
      (Draft.mem_values_of_pending baseline) trivial) ?_
    rintro (fault | draft) b ⟨-, hends⟩
    · exact obtainable_failWith site.node fault
    · exact obtainable_check fun c =>
        obtainable_publish hbaseline (Draft.Writes.writtenFrom hends (.start baseline))

/-- A batch writes one draft, or hands on a fault, or fails. -/
theorem Batch.ensures_obtainable (function : Reduction σ) (source : Table Value)
    (hbaseline : baseline.Obtainable) :
    Ensures (Batch.update function site comparer baseline source) a
      (fun product _ => product.Obtainable) (fun _ _ => True) := by
  have hsteady : Steady (fun _ : Ambient σ => True) (fun _ _ => True) site.node comparer
      baseline.values (fun _ => True) := steady_true
  unfold Batch.update
  -- Reused and faulted first, then the three ways to write what the function gave.
  split
  · exact Ensures.of_pure Product.obtainable_unchanged
  split
  · exact Ensures.of_pure (Product.obtainable_table (.faulted _))
  · refine Ensures.bind (I := fun _ _ => True)
      (Ensures.intro (fun _ _ _ => trivial) fun _ _ _ => trivial) ?_
    rintro (fault | outputs) b -
    · exact obtainable_failWith site.node fault
    refine obtainable_check fun c => ?_
    unfold Batch.write
    dsimp only
    split
    · exact obtainable_publish hbaseline (.add (.start baseline) outputs .added)
    split
    · refine Ensures.bind (ensures_reviseOrAdd hsteady (Draft.mem_values_of_pending baseline)
        outputs trivial) ?_
      rintro _ d ⟨-, rfl⟩
      exact obtainable_publish hbaseline (.reviseOrAdd (.start baseline) comparer.equals outputs)
    · exact Product.obtainable_table (.faulted _)

/-- A combine writes one draft, or hands on the fault of one of its sources. -/
theorem Combine.ensures_obtainable (left right : Table Value) (hbaseline : baseline.Obtainable) :
    Ensures (Combine.update site comparer baseline left right : StepM σ Product) a
      (fun product _ => product.Obtainable) (fun _ _ => True) := by
  have hsteady : Steady (fun _ : Ambient σ => True) (fun _ _ => True) site.node comparer
      baseline.values (fun _ => True) := steady_true
  unfold Combine.update
  split
  · exact Ensures.of_pure Product.obtainable_unchanged
  split
  · exact Ensures.of_pure (Product.obtainable_table (.faulted _))
  split
  · exact Ensures.of_pure (Product.obtainable_table (.faulted _))
  cases right.single? with
  | none => exact Product.obtainable_table (.faulted _)
  | some item =>
    refine Ensures.bind (Combine.ensures_write hsteady left.items
      (Draft.mem_values_of_pending baseline) trivial) ?_
    rintro draft b ⟨-, hwrites⟩
    exact obtainable_check fun c =>
      obtainable_publish hbaseline (hwrites.writtenFrom (.start baseline))

/-- An input writes one draft, or finds that nothing changed. -/
theorem Input.ensures_obtainable (node : NodeId) (values : List Value)
    (hbaseline : baseline.Obtainable) :
    Ensures (Input.update node comparer baseline values : StepM σ Product) a
      (fun product _ => product.Obtainable) (fun _ _ => True) := by
  have hsteady : Steady (fun _ : Ambient σ => True) (fun _ _ => True) node comparer
      baseline.values (fun _ => True) := steady_true
  refine Ensures.bind (Input.ensures_write hsteady baseline values (fun _ h => h) trivial) ?_
  rintro table b ⟨-, groups, rfl, hwritten⟩
  have hwrites : (Draft.against baseline).Writes comparer.equals
      (fun value answer => answer = .ok [value]) (feed baseline.groups.length values)
      { pending := [], groups := groups } := ⟨groups, [], hwritten, rfl⟩
  have htable : (Table.populated groups).Obtainable :=
    .written hbaseline (hwrites.writtenFrom (.start baseline))
  refine Ensures.of_pure ?_
  split
  · exact Product.obtainable_unchanged
  · exact Product.obtainable_table htable

end Updates

end DeltaPipeline
