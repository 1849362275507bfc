import DeltaPipeline.Proofs.Drafting
import DeltaPipeline.Table.Lemmas
import DeltaPipeline.Value.Basic
import Mathlib.Data.List.Forall2

/-!
# `DeltaPipeline.Proofs.Written`: the groups written for a list of items

Every kind of node writes its table in one way: it goes through a list of items and
through the pending groups of its baseline, and for each item it drops, keeps or
revises the next pending group or adds a new one. `Placed` says what may be written
for one item and `Written` for a list of them; what a node makes of an item enters
as a relation `answers`.

* `Written.left_eq_drop`: each item that is not added takes one pending group.
* `Written.continues`: the items that are not added continue the values of the
  groups taken.
* `Written.added_of_nil`: with nothing pending all is added.
* `Written.fits`: the groups that are not removed fit the present items, one by one.
* `Failed`: the writing that ends at an item for which there is a fault.
-/

set_option autoImplicit false

namespace DeltaPipeline

/-! ### Items against the values before -/

/-- The item is what became of a value of the run before: the value kept or removed,
or another one in its place that compared unequal. -/
def Entry.Continues (equals : Value → Value → Bool) (previous : Value)
    (entry : Entry Value) : Prop :=
  (entry.tag = .cached ∨ entry.tag = .removed) ∧ entry.value = previous ∨
    entry.tag = .modified ∧ equals previous entry.value = false

/-- A cached item has the value that it continues. -/
theorem Entry.Continues.value_eq {equals : Value → Value → Bool} {previous : Value}
    {entry : Entry Value} (h : entry.Continues equals previous) (htag : entry.tag = .cached) :
    entry.value = previous := by
  rcases h with ⟨-, hvalue⟩ | ⟨hmodified, -⟩
  · exact hvalue
  · rw [htag] at hmodified
    cases hmodified

/-- An item that stems from a value continues it. -/
theorem Entry.StemsFrom.continues {equals : Value → Value → Bool} {previous : Value}
    {entry : Entry Value}
    (h : entry.StemsFrom (fun previous current => equals previous current = false) previous) :
    entry.Continues equals previous := by
  obtain ⟨value, tag⟩ := entry
  cases tag with
  | added => exact h.elim
  | modified => exact .inr ⟨rfl, h⟩
  | cached => exact .inl ⟨.inl rfl, h⟩
  | removed => exact .inl ⟨.inr rfl, h⟩

/-- The item had no counterpart in the run before. -/
def Entry.isAdded {α : Type} (entry : Entry α) : Bool :=
  entry.tag = .added

/-- Values under one tag are kept by what keeps that tag. -/
theorem filter_map_tag {keeps : Entry Value → Bool} {tag : Tag}
    (hkeeps : ∀ value, keeps ⟨value, tag⟩ = true) (values : List Value) :
    (values.map fun value => (⟨value, tag⟩ : Entry Value)).filter keeps
      = values.map (⟨·, tag⟩) := by
  refine List.filter_eq_self.mpr fun entry hentry => ?_
  obtain ⟨value, -, rfl⟩ := List.mem_map.mp hentry
  exact hkeeps value

/-- Values under one tag are dropped by what drops that tag. -/
theorem filter_map_tag_eq_nil {keeps : Entry Value → Bool} {tag : Tag}
    (hdrops : ∀ value, keeps ⟨value, tag⟩ = false) (values : List Value) :
    (values.map fun value => (⟨value, tag⟩ : Entry Value)).filter keeps = [] := by
  refine List.filter_eq_nil_iff.mpr fun entry hentry => ?_
  obtain ⟨value, -, rfl⟩ := List.mem_map.mp hentry
  simp [hdrops value]

/-- Cached items have the values that they continue. -/
theorem map_value_of_continues {equals : Value → Value → Bool} {old : List Value}
    {items : List (Entry Value)} (h : List.Forall₂ (Entry.Continues equals) old items)
    (hcached : ∀ entry ∈ items, entry.tag = .cached) : items.map Entry.value = old := by
  induction h with
  | nil => rfl
  | @cons previous entry old items hfirst hrest ih =>
    have hvalue : entry.value = previous := hfirst.value_eq (hcached entry (by simp))
    rw [List.map_cons, hvalue, ih fun entry hentry => hcached entry (by simp [hentry])]

/-- Position by position the values are the outputs, or were accepted in their
place. -/
def Agree (accepts : Value → Value → Prop) (outputs values : List Value) : Prop :=
  List.Forall₂ (fun output value => value = output ∨ accepts value output) outputs values

/-- Outputs agree with themselves. -/
theorem Agree.refl (accepts : Value → Value → Prop) (outputs : List Value) :
    Agree accepts outputs outputs :=
  List.forall₂_same.mpr fun _ _ => .inl rfl

/-- Where only equal values are accepted, agreeing is equality. -/
theorem Agree.eq {outputs values : List Value} (h : Agree Eq outputs values) :
    values = outputs := by
  have heq : List.Forall₂ (fun value output => value = output) values outputs :=
    h.flip.imp fun _ _ h => h.elim id id
  rwa [List.forall₂_eq_eq_eq] at heq

/-- What accepts more lets more agree. -/
theorem Agree.mono {accepts accepts' : Value → Value → Prop} {outputs values : List Value}
    (h : Agree accepts outputs values)
    (hle : ∀ kept current, accepts kept current → accepts' kept current) :
    Agree accepts' outputs values :=
  h.imp fun _ _ h => h.imp id (hle _ _)

section Revision

variable (equals : Value → Value → Bool)

/-- The items of a revision that are not added continue the old values. -/
theorem continues_revision (old new : List Value) :
    List.Forall₂ (Entry.Continues equals) old
      ((revision equals old new).filter (!·.isAdded)) := by
  have hkeeps : (fun entry : Entry Value => !entry.isAdded)
      = fun entry => entry.tag.hasPrevious := by
    funext entry
    simp [Entry.isAdded, Tag.hasPrevious]
  rw [hkeeps]
  exact (stemsFrom_revision equals old new).imp fun _ _ hstems => hstems.continues

/-- The present values of a revision agree with the new values: each is the new value
itself or the old value that was accepted in its place. -/
theorem agree_revision {accepts : Value → Value → Prop} (old new : List Value)
    (haccepts : ∀ previous ∈ old, ∀ current, equals previous current = true →
      accepts previous current) :
    Agree accepts new (({ items := revision equals old new } : Group Value).values) := by
  induction old generalizing new with
  | nil =>
    -- With no old values left all new ones are added.
    have hvalues : ({ items := revision equals [] new } : Group Value).values = new := by
      rw [revision_nil_left]
      exact Group.values_tagged (by decide) new
    rw [hvalues]
    exact Agree.refl accepts new
  | cons previous old ih =>
    have hrest := fun new => ih new fun p hp => haccepts p (List.mem_cons_of_mem _ hp)
    cases new with
    -- Old values beyond the new ones are removed, so they are not present.
    | nil => simp [Group.values, Entry.isLive, Agree]
    | cons current new =>
      by_cases he : equals previous current = true
      · simp only [Group.values, revision, he, if_true]
        rw [List.filter_cons_of_pos (by simp [Entry.isLive]), List.map_cons]
        exact .cons (.inr (haccepts previous (by simp) current he)) (hrest new)
      · simp only [Group.values, revision, he]
        rw [List.filter_cons_of_pos (by simp [Entry.isLive]), List.map_cons]
        exact .cons (.inl rfl) (hrest new)

end Revision

/-- The values agree with outputs that the node may give for the item. -/
def Fits (answers : Value → Except Fault (List Value) → Prop) (accepts : Value → Value → Prop)
    (value : Value) (group : List Value) : Prop :=
  ∃ outputs, answers value (.ok outputs) ∧ Agree accepts outputs group

/-! ### The groups of one item -/

/-- What may be written for one item: the groups written and the groups pending
before and after. A group is added if the item is added or if nothing is pending. -/
inductive Placed (equals : Value → Value → Bool)
    (answers : Value → Except Fault (List Value) → Prop) :
    Entry Value → List (List Value) → List (Group Value) → List (List Value) → Prop where
  | skipped (value : Value) : Placed equals answers ⟨value, .removed⟩ [] [] []
  | dropped (value : Value) (old : List Value) (rest : List (List Value)) :
    Placed equals answers ⟨value, .removed⟩ (old :: rest) [Group.dropped old] rest
  | kept (value : Value) (old : List Value) (rest : List (List Value)) :
    Placed equals answers ⟨value, .cached⟩ (old :: rest) [Group.tagged .cached old] rest
  | revised (value : Value) (old outputs : List Value) (rest : List (List Value)) :
    answers value (.ok outputs) →
    Placed equals answers ⟨value, .modified⟩ (old :: rest)
      [{ items := revision equals old outputs }] rest
  | added (value : Value) (tag : Tag) (outputs : List Value) (pending : List (List Value)) :
    tag ≠ .removed → (tag = .added ∨ pending = []) → answers value (.ok outputs) →
    Placed equals answers ⟨value, tag⟩ pending [Group.tagged .added outputs] pending

namespace Placed

variable {equals : Value → Value → Bool}
  {answers : Value → Except Fault (List Value) → Prop} {item : Entry Value}
  {pending left : List (List Value)} {groups : List (Group Value)}

/-- An item takes one pending group unless it is added. -/
theorem left_eq_drop (h : Placed equals answers item pending groups left) :
    left = pending.drop (if item.isAdded then 0 else 1) := by
  cases h with
  | skipped value => rfl
  | dropped value old rest => rfl
  | kept value old rest => rfl
  | revised value old outputs rest houtputs => rfl
  | added value tag outputs pending htag hadded houtputs =>
    -- If the item itself is not an added one, nothing was pending.
    rcases hadded with rfl | rfl
    · rfl
    · simp

/-- What is pending after an item was pending before. -/
theorem mem_flatten_of_left (h : Placed equals answers item pending groups left)
    {previous : Value} (hprevious : previous ∈ left.flatten) : previous ∈ pending.flatten := by
  rw [h.left_eq_drop] at hprevious
  obtain ⟨old, hold, hmem⟩ := List.mem_flatten.mp hprevious
  exact List.mem_flatten.mpr ⟨old, List.mem_of_mem_drop hold, hmem⟩

/-- A group flagged removed holds no present value. -/
theorem tidy (h : Placed equals answers item pending groups left) :
    ∀ group ∈ groups, group.removed = true → group.values = [] := by
  cases h with
  | skipped value => simp
  | dropped value old rest => simp
  | kept value old rest => simp [Group.tagged]
  | revised value old outputs rest houtputs => simp
  | added value tag outputs pending htag hadded houtputs => simp [Group.tagged]

/-- With nothing pending a group is added. -/
theorem added_of_nil (h : Placed equals answers item [] groups left) :
    ∀ group ∈ groups, group.removed = false ∧ ∀ entry ∈ group.items, entry.tag = .added := by
  cases h with
  | skipped value => simp
  | added value tag outputs pending htag hadded houtputs => simp [Group.tagged]

/-- The items that are not added continue the values of the group taken. -/
theorem continues (h : Placed equals answers item pending groups left) :
    ∃ taken, pending = taken ++ left ∧
      List.Forall₂ (Entry.Continues equals) taken.flatten
        ((groups.flatMap Group.items).filter (!·.isAdded)) := by
  cases h with
  | skipped value => exact ⟨[], rfl, .nil⟩
  | dropped value old rest =>
    refine ⟨[old], rfl, ?_⟩
    simp only [List.flatten_singleton, List.flatMap_singleton, Group.dropped]
    rw [filter_map_tag (fun _ => rfl), List.forall₂_map_right_iff]
    exact List.forall₂_same.mpr fun _ _ => .inl ⟨.inr rfl, rfl⟩
  | kept value old rest =>
    refine ⟨[old], rfl, ?_⟩
    simp only [List.flatten_singleton, List.flatMap_singleton, Group.tagged]
    rw [filter_map_tag (fun _ => rfl), List.forall₂_map_right_iff]
    exact List.forall₂_same.mpr fun _ _ => .inl ⟨.inl rfl, rfl⟩
  | revised value old outputs rest houtputs =>
    refine ⟨[old], rfl, ?_⟩
    simp only [List.flatten_singleton, List.flatMap_singleton]
    exact continues_revision equals old outputs
  | added value tag outputs pending htag hadded houtputs =>
    refine ⟨[], rfl, ?_⟩
    rw [List.filter_eq_nil_iff.mpr (by simp [Group.tagged, Entry.isAdded])]
    exact .nil

end Placed

/-! ### The groups of a list of items -/

/-- What may be written for a list of items in order. -/
inductive Written (equals : Value → Value → Bool)
    (answers : Value → Except Fault (List Value) → Prop) :
    List (Entry Value) → List (List Value) → List (Group Value) → List (List Value) →
    Prop where
  | nil (pending : List (List Value)) : Written equals answers [] pending [] pending
  | cons {item : Entry Value} {items : List (Entry Value)}
    {pending between left : List (List Value)} {first groups : List (Group Value)} :
    Placed equals answers item pending first between →
    Written equals answers items between groups left →
    Written equals answers (item :: items) pending (first ++ groups) left

/-- The writing reached an item for which there is a fault. It got there by writing
all items before, and it asks only for items that are present and, if cached, have
no group to keep. -/
def Failed (equals : Value → Value → Bool) (answers : Value → Except Fault (List Value) → Prop)
    (items : List (Entry Value)) (pending : List (List Value)) (fault : Fault) : Prop :=
  ∃ before item after groups left, items = before ++ item :: after ∧
    Written equals answers before pending groups left ∧ item.isLive = true ∧
    (item.tag = .cached → left = []) ∧ answers item.value (.error fault)

/-- An item for which there is a fault ends the writing. -/
theorem failed_head {equals : Value → Value → Bool}
    {answers : Value → Except Fault (List Value) → Prop} {item : Entry Value}
    {pending : List (List Value)} {fault : Fault} (items : List (Entry Value))
    (hlive : item.isLive = true) (hcached : item.tag = .cached → pending = [])
    (hfault : answers item.value (.error fault)) :
    Failed equals answers (item :: items) pending fault :=
  ⟨[], item, items, [], pending, rfl, .nil pending, hlive, hcached, hfault⟩

/-- The writing of later items may end after the first one is written. -/
theorem failed_cons {equals : Value → Value → Bool}
    {answers : Value → Except Fault (List Value) → Prop} {item : Entry Value}
    {items : List (Entry Value)} {pending between : List (List Value)}
    {groups : List (Group Value)} {fault : Fault}
    (hfirst : Placed equals answers item pending groups between)
    (hrest : Failed equals answers items between fault) :
    Failed equals answers (item :: items) pending fault := by
  obtain ⟨before, culprit, after, written, left, hitems, hwritten, hlive, hcached, hfault⟩ := hrest
  exact ⟨item :: before, culprit, after, groups ++ written, left, by rw [hitems]; rfl,
    .cons hfirst hwritten, hlive, hcached, hfault⟩

/-- The groups of the run before back what is kept of them: a cached item's next
pending group fits it. Where nothing is pending nothing is kept. -/
def Backed (fits : Value → List Value → Prop) :
    List (Entry Value) → List (List Value) → Prop
  | [], _ => True
  | _, [] => True
  | item :: items, old :: rest =>
    if item.isAdded then Backed fits items (old :: rest)
    else (item.tag = .cached → fits item.value old) ∧ Backed fits items rest

section Backed

variable {fits : Value → List Value → Prop}

/-- No groups are backed by any items. -/
@[simp] theorem backed_nil (items : List (Entry Value)) : Backed fits items [] := by
  cases items <;> trivial

/-- What backs a list of items backs the first of them. -/
theorem Backed.of_append {before after : List (Entry Value)} {pending : List (List Value)}
    (h : Backed fits (before ++ after) pending) : Backed fits before pending := by
  induction before generalizing pending with
  | nil => trivial
  | cons item before ih =>
    cases pending with
    | nil => trivial
    | cons old rest =>
      -- An added item takes no group, so the rest is backed by the same groups.
      rw [List.cons_append, Backed] at h
      rw [Backed]
      split at h
      · rw [if_pos ‹_›]
        exact ih h
      · rw [if_neg ‹_›]
        exact ⟨h.1, ih h.2⟩

/-- Groups that fit the items that are not added one by one back them all. -/
theorem backed_of_forall₂ {items : List (Entry Value)} {pending : List (List Value)}
    (h : List.Forall₂ (fun item old => item.tag = .cached → fits item.value old)
      (items.filter (!·.isAdded)) pending) : Backed fits items pending := by
  induction items generalizing pending with
  | nil => trivial
  | cons item items ih =>
    cases pending with
    | nil => trivial
    | cons old rest =>
      rw [Backed]
      by_cases hadded : item.isAdded = true
      · rw [List.filter_cons_of_neg (by simp [hadded])] at h
        rw [if_pos hadded]
        exact ih h
      · rw [List.filter_cons_of_pos (by simp [hadded]), List.forall₂_cons] at h
        rw [if_neg hadded]
        exact ⟨h.1, ih h.2⟩

end Backed

/-- The present values by group. The group of an item that disappeared is left out. -/
def Group.present (groups : List (Group Value)) : List (List Value) :=
  (groups.filter (!·.removed)).map Group.values

/-- The present groups of two lists are those of each, in sequence. -/
@[simp] theorem Group.present_append (first rest : List (Group Value)) :
    present (first ++ rest) = present first ++ present rest := by
  simp [present]

/-- What is written for an item fits it, and the groups still pending back the items
after it. -/
theorem Placed.fits {equals : Value → Value → Bool}
    {answers : Value → Except Fault (List Value) → Prop} {accepts : Value → Value → Prop}
    {item : Entry Value} {items : List (Entry Value)} {pending left : List (List Value)}
    {groups : List (Group Value)} (h : Placed equals answers item pending groups left)
    (haccepts : ∀ previous ∈ pending.flatten, ∀ current, equals previous current = true →
      accepts previous current)
    (hbacked : Backed (Fits answers accepts) (item :: items) pending) :
    List.Forall₂ (Fits answers accepts) (([item].filter Entry.isLive).map Entry.value)
      (Group.present groups) ∧ Backed (Fits answers accepts) items left := by
  cases h with
  | skipped value => exact ⟨.nil, backed_nil items⟩
  | dropped value old rest =>
    rw [Backed, if_neg (by simp [Entry.isAdded])] at hbacked
    exact ⟨.nil, hbacked.2⟩
  | kept value old rest =>
    rw [Backed, if_neg (by simp [Entry.isAdded])] at hbacked
    refine ⟨?_, hbacked.2⟩
    have hold : (Group.tagged .cached old).values = old := Group.values_tagged (by decide) old
    show List.Forall₂ _ [value] [(Group.tagged .cached old).values]
    rw [hold]
    exact .cons (hbacked.1 rfl) .nil
  | revised value old outputs rest houtputs =>
    rw [Backed, if_neg (by simp [Entry.isAdded])] at hbacked
    refine ⟨.cons ⟨outputs, houtputs, ?_⟩ .nil, hbacked.2⟩
    exact agree_revision equals old outputs fun previous hprevious =>
      haccepts previous (by simp [hprevious])
  | added value tag outputs pending htag hadded houtputs =>
    -- The group was written for this item alone, so nothing stands in for its outputs.
    have hnew : (Group.tagged .added outputs).values = outputs :=
      Group.values_tagged (by decide) outputs
    have hlive : ([⟨value, tag⟩] : List (Entry Value)).filter Entry.isLive = [⟨value, tag⟩] :=
      List.filter_cons_of_pos (by simp [Entry.isLive, htag])
    refine ⟨?_, ?_⟩
    · rw [hlive]
      show List.Forall₂ _ [value] [(Group.tagged .added outputs).values]
      rw [hnew]
      exact .cons ⟨outputs, houtputs, Agree.refl accepts outputs⟩ .nil
    · cases pending with
      | nil => exact backed_nil items
      | cons old rest =>
        -- Some group is still pending, so the item is an added one and takes none.
        have htag : tag = .added := hadded.resolve_right (by simp)
        rw [Backed, if_pos (by simp [Entry.isAdded, htag])] at hbacked
        exact hbacked

namespace Written

variable {equals : Value → Value → Bool}
  {answers : Value → Except Fault (List Value) → Prop} {items : List (Entry Value)}
  {pending left : List (List Value)} {groups : List (Group Value)}

/-- One list of items after another. -/
theorem append {items' : List (Entry Value)} {groups' : List (Group Value)}
    {left' : List (List Value)} (h : Written equals answers items pending groups left)
    (h' : Written equals answers items' left groups' left') :
    Written equals answers (items ++ items') pending (groups ++ groups') left' := by
  induction h with
  | nil pending => exact h'
  | cons hfirst hrest ih =>
    rw [List.cons_append, List.append_assoc]
    exact .cons hfirst (ih h')

/-- Each item that is not added takes one pending group, as long as there are any. -/
theorem left_eq_drop (h : Written equals answers items pending groups left) :
    left = pending.drop (items.filter (!·.isAdded)).length := by
  induction h with
  | nil pending => rfl
  | @cons item items pending between left first groups hfirst hrest ih =>
    rw [ih, hfirst.left_eq_drop, List.drop_drop]
    by_cases hadded : item.isAdded = true
    · rw [if_pos hadded, List.filter_cons_of_neg (by simp [hadded]), Nat.zero_add]
    · rw [if_neg hadded, List.filter_cons_of_pos (by simp [hadded]), List.length_cons,
        Nat.add_comm]

/-- A group flagged removed holds no present value. -/
theorem tidy (h : Written equals answers items pending groups left) :
    ∀ group ∈ groups, group.removed = true → group.values = [] := by
  induction h with
  | nil pending => simp
  | cons hfirst hrest ih =>
    intro group hgroup
    rcases List.mem_append.mp hgroup with hmem | hmem
    · exact hfirst.tidy group hmem
    · exact ih group hmem

/-- With nothing pending all is added. -/
theorem added_of_nil (h : Written equals answers items [] groups left) :
    ∀ group ∈ groups, group.removed = false ∧ ∀ entry ∈ group.items, entry.tag = .added := by
  -- The induction needs a variable for the groups pending.
  generalize hpending : ([] : List (List Value)) = pending at h
  induction h with
  | nil pending => simp
  | cons hfirst hrest ih =>
    subst hpending
    intro group hgroup
    rcases List.mem_append.mp hgroup with hmem | hmem
    · exact hfirst.added_of_nil group hmem
    · exact ih (by rw [hfirst.left_eq_drop, List.drop_nil]) group hmem

/-- The items that are not added continue the values of the groups taken. -/
theorem continues (h : Written equals answers items pending groups left) :
    ∃ taken, pending = taken ++ left ∧
      List.Forall₂ (Entry.Continues equals) taken.flatten
        ((groups.flatMap Group.items).filter (!·.isAdded)) := by
  induction h with
  | nil pending => exact ⟨[], rfl, .nil⟩
  | cons hfirst hrest ih =>
    obtain ⟨taken, hpending, hcontinues⟩ := hfirst.continues
    obtain ⟨taken', hbetween, hcontinues'⟩ := ih
    refine ⟨taken ++ taken', by rw [hpending, hbetween, List.append_assoc], ?_⟩
    rw [List.flatten_append, List.flatMap_append, List.filter_append]
    exact List.rel_append hcontinues hcontinues'

/-- The groups that are not removed fit the present items, one by one. -/
theorem fits {accepts : Value → Value → Prop}
    (h : Written equals answers items pending groups left)
    (haccepts : ∀ previous ∈ pending.flatten, ∀ current, equals previous current = true →
      accepts previous current)
    (hbacked : Backed (Fits answers accepts) items pending) :
    List.Forall₂ (Fits answers accepts) ((items.filter Entry.isLive).map Entry.value)
      (Group.present groups) := by
  induction h with
  | nil pending => exact .nil
  | @cons item items pending between left first groups hfirst hrest ih =>
    obtain ⟨hfits, hbacked'⟩ := hfirst.fits haccepts hbacked
    have hrest' := ih (fun previous hp => haccepts previous (hfirst.mem_flatten_of_left hp))
      hbacked'
    rw [← List.singleton_append, List.filter_append, List.map_append, Group.present_append]
    exact List.rel_append hfits hrest'

/-- Where every group written is as it was, the values are those of the run before. -/
theorem values_of_cached (h : Written equals answers items pending groups [])
    (hcached : groups.all Group.isCached = true) :
    groups.flatMap Group.values = pending.flatten := by
  obtain ⟨taken, hpending, hcontinues⟩ := h.continues
  rw [List.append_nil] at hpending
  -- Every item is cached, so none is added and all continue the values taken.
  have htags : ∀ entry ∈ groups.flatMap Group.items, entry.tag = .cached := by
    intro entry hentry
    obtain ⟨group, hgroup, hmem⟩ := List.mem_flatMap.mp hentry
    have hgroup' := List.all_eq_true.mp hcached group hgroup
    simp only [Group.isCached, Bool.and_eq_true, List.all_eq_true, decide_eq_true_eq]
      at hgroup'
    exact hgroup'.2 entry hmem
  rw [List.filter_eq_self.mpr fun entry hentry => by simp [Entry.isAdded, htags entry hentry]]
    at hcontinues
  have hvalues := map_value_of_continues hcontinues htags
  have hlive : (groups.flatMap Group.items).filter Entry.isLive = groups.flatMap Group.items :=
    List.filter_eq_self.mpr fun entry hentry => by simp [Entry.isLive, htags entry hentry]
  calc groups.flatMap Group.values
      = ((groups.flatMap Group.items).filter Entry.isLive).map Entry.value :=
        Table.values_eq (.populated groups)
    _ = taken.flatten := by rw [hlive, hvalues]
    _ = pending.flatten := by rw [hpending]

end Written

end DeltaPipeline
