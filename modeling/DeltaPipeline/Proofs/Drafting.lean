import DeltaPipeline.Table.Edit
import Mathlib.Data.List.Forall2
import Mathlib.Data.List.TakeDrop

/-!
# `DeltaPipeline.Proofs.Drafting`: the law of drafts

A draft goes through the groups of its baseline once. Each operation that asks for a
group takes the next one, as long as any is left, and each operation that does not fail
writes one group. So two things can be read off a group that was written: what became
of the values of the group taken, and what became of the values given.

* `Entry.StemsFrom`, `Entry.StandsFor`: an item against a value of the run before, and
  against a value given.
* `stemsFrom_revision`, `standFor_revision`: both for the items of a revision.
* `Edit.Obeys`: the law of one operation.
* `Draft.Lawful`: the law of a sequence of operations, at every point of it.
* `Draft.lawful_of_edits`: every sequence obeys it.
-/

set_option autoImplicit false

namespace DeltaPipeline

variable {α ρ : Type}

/-! ### Items against values -/

/-- The item is what became of a value of the run before. If it is cached or removed it is
that value. If it is modified the two were rejected. -/
def Entry.StemsFrom (rejects : α → α → Prop) (previous : α) (entry : Entry α) : Prop :=
  match entry.tag with
  | .added => False
  | .modified => rejects previous entry.value
  | .cached => entry.value = previous
  | .removed => entry.value = previous

/-- What rejects more lets more items stem from a value. -/
theorem Entry.StemsFrom.mono {rejects rejects' : α → α → Prop} {previous : α} {entry : Entry α}
    (h : entry.StemsFrom rejects previous)
    (hle : ∀ previous current, rejects previous current → rejects' previous current) :
    entry.StemsFrom rejects' previous := by
  obtain ⟨value, tag⟩ := entry
  cases tag with
  | added => exact h
  | modified => exact hle previous value h
  | cached => exact h
  | removed => exact h

/-- The item is what was made of a value given. It is that value, or a value of the run
before that was accepted in its place. -/
def Entry.StandsFor (accepts : α → α → Prop) (previous? : Option α) (given : α)
    (entry : Entry α) : Prop :=
  entry.value = given ∨
    ∃ previous, previous? = some previous ∧ accepts previous given ∧ entry.value = previous

/-- Position by position the items stand for the values given. -/
def StandFor (accepts : α → α → Prop) (old given : List α) (items : List (Entry α)) : Prop :=
  items.length = given.length ∧
    ∀ (n : Nat) (value : α) (item : Entry α), given[n]? = some value → items[n]? = some item →
      item.StandsFor accepts old[n]? value

/-- Values stand for themselves, under any tag. -/
theorem standFor_map (accepts : α → α → Prop) (old given : List α) (tag : Tag) :
    StandFor accepts old given (given.map (⟨·, tag⟩)) := by
  refine ⟨List.length_map _, fun n value item hvalue hitem => .inl ?_⟩
  rw [List.getElem?_map, hvalue] at hitem
  cases hitem
  rfl

/-- An item that stands for a value goes before others that do. -/
theorem StandFor.cons {accepts : α → α → Prop} {previous value : α} {old given : List α}
    {item : Entry α} {items : List (Entry α)}
    (hfirst : item.StandsFor accepts (some previous) value)
    (hrest : StandFor accepts old given items) :
    StandFor accepts (previous :: old) (value :: given) (item :: items) := by
  refine ⟨congrArg (· + 1) hrest.1, fun n => ?_⟩
  cases n with
  | zero =>
    intro value' item' hvalue hitem
    cases hvalue
    cases hitem
    exact hfirst
  | succ n => simpa using hrest.2 n

/-- Old values under a tag that keeps them stem from themselves. -/
theorem stemsFrom_map (rejects : α → α → Prop) {tag : Tag} (htag : tag = .cached ∨ tag = .removed)
    (old : List α) : List.Forall₂ (Entry.StemsFrom rejects) old
      ((old.map fun value => (⟨value, tag⟩ : Entry α)).filter (·.tag.hasPrevious)) := by
  induction old with
  | nil => exact .nil
  | cons previous old ih =>
    rcases htag with rfl | rfl
    · exact .cons rfl ih
    · exact .cons rfl ih

section Revision

variable (equals : α → α → Bool)

/-- The items of a revision that have a counterpart stem from the old values, one by
one. -/
theorem stemsFrom_revision (old new : List α) :
    List.Forall₂ (Entry.StemsFrom fun previous current => equals previous current = false) old
      ((revision equals old new).filter (·.tag.hasPrevious)) := by
  induction old generalizing new with
  | nil => simp [Tag.hasPrevious]
  | cons previous old ih =>
    cases new with
    | nil => exact stemsFrom_map _ (.inr rfl) (previous :: old)
    | cons current new =>
      have hrest := ih new
      by_cases he : equals previous current = true
      · simpa [revision, he, Tag.hasPrevious, Entry.StemsFrom] using hrest
      · simpa [revision, he, Tag.hasPrevious, Entry.StemsFrom] using hrest

/-- The present items of a revision stand for the new values, position by position. -/
theorem standFor_revision (old new : List α) :
    StandFor (fun previous current => equals previous current = true) old new
      ((revision equals old new).filter Entry.isLive) := by
  induction old generalizing new with
  | nil =>
    -- With no old values left the new ones are all added.
    have hlive : (new.map fun value => (⟨value, .added⟩ : Entry α)).filter Entry.isLive
        = new.map (⟨·, .added⟩) := by simp [Entry.isLive]
    rw [revision_nil_left, hlive]
    exact standFor_map _ _ _ _
  | cons previous old ih =>
    cases new with
    -- Old values beyond the new ones are removed, so nothing is present.
    | nil => simp [StandFor, Entry.isLive]
    | cons current new =>
      by_cases he : equals previous current = true
      · have hfirst : (⟨previous, .cached⟩ : Entry α).StandsFor
            (fun previous current => equals previous current = true) (some previous) current :=
          .inr ⟨previous, rfl, he, rfl⟩
        simpa [revision, he, Entry.isLive] using StandFor.cons hfirst (ih new)
      · have hfirst : (⟨current, .modified⟩ : Entry α).StandsFor
            (fun previous current => equals previous current = true) (some previous) current :=
          .inl rfl
        simpa [revision, he, Entry.isLive] using StandFor.cons hfirst (ih new)

end Revision

/-! ### Operations -/

namespace Edit

/-- Does the operation ask for the next group of the baseline? -/
def takes : Edit α ρ → Bool
  | .add _ tag => tag.hasPrevious
  | .addOne _ tag => tag.hasPrevious
  | _ => true

/-- Are values added as new ones, if the operation adds any? -/
def addsAsNew : Edit α ρ → Bool
  | .add _ tag => tag = .added
  | .addOne _ tag => tag = .added
  | _ => true

/-- The values given to the operation. -/
def given? : Edit α ρ → Option (List α)
  | .add values _ => some values
  | .addOne value _ => some [value]
  | edit => edit.compared?.map Prod.fst

/-- The relation that the operation compares by gives this answer for the two. -/
def Decides (equals : ρ → α → α → Bool) (edit : Edit α ρ) (answer : Bool)
    (previous current : α) : Prop :=
  ∃ values relation, edit.compared? = some (values, relation) ∧
    equals relation previous current = answer

/-- The reply of an operation that fails where no group is left. The values given to it
come back. -/
def refusal? : Edit α ρ → Option (Reply α)
  | .keep => some (.took false)
  | .drop => some (.took false)
  | .revise values _ => some (.returned values)
  | .reviseOne value _ => some (.returnedOne value)
  | _ => none

/-- Does the reply tell that the operation failed? -/
def Reply.isRefusal : Reply α → Bool
  | .took taken => !taken
  | .returned _ => true
  | .returnedOne _ => true
  | .done => false
  | .revised => false

end Edit

/-- The values of the next group of the baseline. There are none if no group is left. -/
def Draft.upcoming (draft : Draft α) : List α :=
  draft.pending.head?.getD []

/-- The next pending group is what comes up. -/
theorem Draft.flatten_take_one (draft : Draft α) :
    (draft.pending.take 1).flatten = draft.upcoming := by
  unfold upcoming
  cases draft.pending <;> simp

namespace Edit

/-- What the group written by an operation tells, if the operation took a group with the
values `old`: what became of these, and what was made of the values given. -/
structure Renders (equals : ρ → α → α → Bool) (edit : Edit α ρ) (old : List α)
    (group : Group α) : Prop where
  /-- The items with a counterpart are the old values, or were compared with them. -/
  stems : List.Forall₂ (Entry.StemsFrom (edit.Decides equals false)) old
    (group.items.filter (·.tag.hasPrevious))
  /-- The present items are the values given, or were accepted in their place. -/
  stands : ∀ values, edit.given? = some values →
    StandFor (edit.Decides equals true) old values (group.items.filter Entry.isLive)

/-- The law of one operation, which turns one draft into the next. -/
structure Obeys (equals : ρ → α → α → Bool) (edit : Edit α ρ) (draft : Draft α)
    (reply : Reply α) (next : Draft α) : Prop where
  /-- An operation of the kind that may fail does so exactly if no group is left. -/
  fails_iff : reply.isRefusal = true ↔ edit.refusal?.isSome = true ∧ draft.pending = []
  /-- One that fails changes nothing and gives back what was given to it. -/
  refused : reply.isRefusal = true → next = draft ∧ edit.refusal? = some reply
  /-- Any other takes the next group, if it asks for one and one is left, and writes one. -/
  written : reply.isRefusal = false →
    next.pending = (if edit.takes then draft.pending.tail else draft.pending) ∧
      ∃ group, next.groups = draft.groups ++ [group] ∧
        (edit.addsAsNew = true →
          edit.Renders equals (if edit.takes then draft.upcoming else []) group)

section Renders

variable {equals : ρ → α → α → Bool} {edit : Edit α ρ}

/-- A group of values that are all added has no counterpart. -/
theorem renders_added {values : List α} (h : edit.given? = some values) :
    edit.Renders equals [] (Group.tagged .added values) where
  stems := by simp [Group.tagged, Tag.hasPrevious]
  stands := by
    intro given hgiven
    rw [h] at hgiven
    cases hgiven
    have hlive : (Group.tagged .added values).items.filter Entry.isLive
        = values.map (⟨·, .added⟩) := by simp [Group.tagged, Entry.isLive]
    rw [hlive]
    exact standFor_map _ _ _ _

/-- A group that is kept or dropped as a whole is that of the run before. -/
theorem renders_old {old : List α} {group : Group α} {tag : Tag}
    (hitems : group.items = old.map (⟨·, tag⟩)) (htag : tag = .cached ∨ tag = .removed)
    (h : edit.given? = none) : edit.Renders equals old group where
  stems := by
    rw [hitems]
    exact stemsFrom_map _ htag old
  stands := by simp [h]

/-- A group that is revised by a relation was compared by it. -/
theorem renders_revision {old values : List α} {relation : ρ}
    (hcompared : edit.compared? = some (values, relation)) (h : edit.given? = some values) :
    edit.Renders equals old { items := revision (equals relation) old values } where
  stems := (stemsFrom_revision (equals relation) old values).imp fun _ _ hstems =>
    hstems.mono fun _ _ hrejects => ⟨values, relation, hcompared, hrejects⟩
  stands := by
    intro given hgiven
    rw [h] at hgiven
    cases hgiven
    obtain ⟨hlength, hstands⟩ := standFor_revision (equals relation) old values
    refine ⟨hlength, fun n value item hvalue hitem => ?_⟩
    refine (hstands n value item hvalue hitem).imp_right ?_
    rintro ⟨previous, hprevious, haccepts, hkept⟩
    exact ⟨previous, hprevious, ⟨values, relation, hcompared, haccepts⟩, hkept⟩

end Renders

end Edit

namespace Draft

variable {equals : ρ → α → α → Bool} {edit : Edit α ρ} {draft : Draft α} {reply : Edit.Reply α}
  {group : Group α}

/-- An operation of the kind that may fail does nothing where no group is left. -/
theorem obeys_refused (hrefusal : edit.refusal? = some reply) (hreply : reply.isRefusal = true)
    (hpending : draft.pending = []) : edit.Obeys equals draft reply draft where
  fails_iff := by simp [hreply, hrefusal, hpending]
  refused := fun _ => ⟨rfl, hrefusal⟩
  written := by simp [hreply]

/-- An operation that asks for a group takes the next one, if one is left. -/
theorem obeys_taken {old : List α} {rest : List (List α)} (hpending : draft.pending = old :: rest)
    (htakes : edit.takes = true) (hreply : reply.isRefusal = false)
    (hrenders : edit.addsAsNew = true → edit.Renders equals old group) :
    edit.Obeys equals draft reply ({ draft with pending := rest }.push group) where
  fails_iff := by simp [hreply, hpending]
  refused := by simp [hreply]
  written := fun _ => by
    refine ⟨by simp [htakes, hpending], group, rfl, fun hadds => ?_⟩
    simpa [htakes, upcoming, hpending] using hrenders hadds

/-- An operation that cannot fail and takes no group writes one all the same. -/
theorem obeys_pushed (hfree : edit.takes = false ∨ draft.pending = [])
    (hrefusal : edit.refusal? = none) (hreply : reply.isRefusal = false)
    (hrenders : edit.addsAsNew = true → edit.Renders equals [] group) (remarks : List Remark) :
    edit.Obeys equals draft reply ({ draft with remarks }.push group) where
  fails_iff := by simp [hreply, hrefusal]
  refused := by simp [hreply]
  written := fun _ => by
    refine ⟨?_, group, rfl, fun hadds => ?_⟩
    · rcases hfree with hfree | hfree <;> simp [hfree]
    · rcases hfree with hfree | hfree <;> simpa [hfree, upcoming] using hrenders hadds

/-- Adding values takes a group, if one is left, unless they are added as new ones. -/
theorem obeys_add (draft : Draft α) {values : List α} {tag : Tag}
    (hgiven : edit.given? = some values) (hrefusal : edit.refusal? = none)
    (htakes : edit.takes = tag.hasPrevious) (hadds : edit.addsAsNew = decide (tag = .added)) :
    edit.Obeys equals draft .done (draft.add values tag) := by
  by_cases htag : tag = .added
  · subst htag
    exact obeys_pushed (.inl htakes) hrefusal rfl (fun _ => Edit.renders_added hgiven) _
  · have hprevious : tag.hasPrevious = true := by simp [Tag.hasPrevious, htag]
    have hnever : ¬edit.addsAsNew = true := by simp [hadds, htag]
    unfold add
    simp only [hprevious, if_true]
    split
    · next hpending =>
      exact obeys_pushed (.inr hpending) hrefusal rfl (fun h => absurd h hnever) _
    · next old rest hpending =>
      exact obeys_taken hpending (htakes.trans hprevious) rfl (fun h => absurd h hnever)

/-- Every operation on a draft obeys its law. -/
theorem obeys_perform (equals : ρ → α → α → Bool) (draft : Draft α) (edit : Edit α ρ) :
    edit.Obeys equals draft (draft.perform equals edit).1 (draft.perform equals edit).2 := by
  obtain ⟨pending, groups, remarks⟩ := draft
  cases edit with
  | add values tag => exact obeys_add _ rfl rfl rfl rfl
  | addOne value tag => exact obeys_add _ rfl rfl rfl rfl
  | keep =>
    cases pending with
    | nil => exact obeys_refused rfl rfl rfl
    | cons old rest => exact obeys_taken rfl rfl rfl fun _ => Edit.renders_old rfl (.inl rfl) rfl
  | drop =>
    cases pending with
    | nil => exact obeys_refused rfl rfl rfl
    | cons old rest => exact obeys_taken rfl rfl rfl fun _ => Edit.renders_old rfl (.inr rfl) rfl
  | revise values relation =>
    cases pending with
    | nil => exact obeys_refused rfl rfl rfl
    | cons old rest => exact obeys_taken rfl rfl rfl fun _ => Edit.renders_revision rfl rfl
  | reviseOne value relation =>
    cases pending with
    | nil => exact obeys_refused rfl rfl rfl
    | cons old rest => exact obeys_taken rfl rfl rfl fun _ => Edit.renders_revision rfl rfl
  | reviseOrAdd values relation =>
    cases pending with
    | nil => exact obeys_pushed (.inr rfl) rfl rfl (fun _ => Edit.renders_added rfl) _
    | cons old rest => exact obeys_taken rfl rfl rfl fun _ => Edit.renders_revision rfl rfl

end Draft

namespace Edit.Obeys

variable {equals : ρ → α → α → Bool} {edit : Edit α ρ} {draft next : Draft α} {reply : Reply α}

/-- Whether it fails or not, an operation that asks for a group goes on by one, as far as
there are any. -/
theorem pending_eq (h : edit.Obeys equals draft reply next) :
    next.pending = draft.pending.drop (if edit.takes then 1 else 0) := by
  cases hreply : reply.isRefusal with
  | true =>
    have hnil := (h.fails_iff.mp hreply).2
    rw [(h.refused hreply).1, hnil, List.drop_nil]
  | false =>
    rw [(h.written hreply).1]
    split <;> simp

/-- An operation writes one group unless it fails. -/
theorem length_groups (h : edit.Obeys equals draft reply next) :
    next.groups.length = draft.groups.length + if reply.isRefusal then 0 else 1 := by
  cases hreply : reply.isRefusal with
  | true => simp [(h.refused hreply).1]
  | false =>
    obtain ⟨-, group, hgroups, -⟩ := h.written hreply
    simp [hgroups]

/-- What an operation writes stems from what it takes. -/
theorem exists_groups (h : edit.Obeys equals draft reply next) :
    ∃ written, next.groups = draft.groups ++ written ∧ (edit.addsAsNew = true →
      List.Forall₂ (Entry.StemsFrom (edit.Decides equals false))
        (draft.pending.take (if edit.takes then 1 else 0)).flatten
        ((written.flatMap Group.items).filter (·.tag.hasPrevious))) := by
  cases hreply : reply.isRefusal with
  | true =>
    have hnil := (h.fails_iff.mp hreply).2
    exact ⟨[], by simp [(h.refused hreply).1], fun _ => by simp [hnil]⟩
  | false =>
    obtain ⟨-, group, hgroups, hrenders⟩ := h.written hreply
    refine ⟨[group], hgroups, fun hadds => ?_⟩
    rw [List.flatMap_singleton]
    cases htakes : edit.takes with
    | true => simpa [htakes, Draft.flatten_take_one] using (hrenders hadds).stems
    | false => simpa [htakes] using (hrenders hadds).stems

end Edit.Obeys

/-! ### Sequences of operations -/

namespace Draft

variable (equals : ρ → α → α → Bool)

/-- The draft after so many of the operations. -/
def reached (draft : Draft α) (edits : List (Edit α ρ)) (n : Nat) : Draft α :=
  (draft.performAll equals (edits.take n)).2

/-- Operations in two parts go on from the draft that the first part leaves. -/
theorem performAll_append (draft : Draft α) (edits later : List (Edit α ρ)) :
    (draft.performAll equals (edits ++ later)).2
      = ((draft.performAll equals edits).2.performAll equals later).2 := by
  induction edits generalizing draft with
  | nil => rfl
  | cons edit edits ih => exact ih _

/-- The replies to the first operations are the first replies. -/
theorem performAll_take (draft : Draft α) (edits : List (Edit α ρ)) (n : Nat) :
    (draft.performAll equals (edits.take n)).1 = (draft.performAll equals edits).1.take n := by
  induction edits generalizing draft n with
  | nil => simp [performAll]
  | cons edit edits ih =>
    cases n with
    | zero => rfl
    | succ n => exact congrArg (_ :: ·) (ih _ n)

/-- Each operation is carried out on the draft that those before it reached. -/
theorem perform_reached (draft : Draft α) {edits : List (Edit α ρ)} {n : Nat} {edit : Edit α ρ}
    (h : edits[n]? = some edit) :
    (draft.performAll equals edits).1[n]?
        = some ((draft.reached equals edits n).perform equals edit) ∧
      draft.reached equals edits (n + 1)
        = ((draft.reached equals edits n).perform equals edit).2 := by
  induction edits generalizing draft n with
  | nil => simp at h
  | cons first edits ih =>
    cases n with
    | zero =>
      cases h
      exact ⟨rfl, rfl⟩
    | succ n => exact ih _ (by simpa using h)

/-- Each operation that takes a group takes the next one. -/
theorem pending_performAll (draft : Draft α) (edits : List (Edit α ρ)) :
    (draft.performAll equals edits).2.pending = draft.pending.drop (edits.countP Edit.takes) := by
  induction edits generalizing draft with
  | nil => rfl
  | cons edit edits ih =>
    have hfirst := (obeys_perform equals draft edit).pending_eq
    show ((draft.perform equals edit).2.performAll equals edits).2.pending = _
    rw [ih, hfirst, List.drop_drop, List.countP_cons, Nat.add_comm]

/-- Each operation that is not refused adds one group. -/
theorem length_groups_performAll (draft : Draft α) (edits : List (Edit α ρ)) :
    (draft.performAll equals edits).2.groups.length
      = draft.groups.length + (draft.performAll equals edits).1.countP (!·.1.isRefusal) := by
  induction edits generalizing draft with
  | nil => rfl
  | cons edit edits ih =>
    have hfirst := (obeys_perform equals draft edit).length_groups
    show ((draft.perform equals edit).2.performAll equals edits).2.groups.length
      = draft.groups.length + (draft.perform equals edit ::
          ((draft.perform equals edit).2.performAll equals edits).1).countP (!·.1.isRefusal)
    rw [ih, hfirst, List.countP_cons]
    cases (draft.perform equals edit).1.isRefusal with
    | true => simp
    | false =>
      simp only [Bool.not_false, if_true, Bool.false_eq_true, if_false]
      omega

/-- What operations write stems from what they take, in order. -/
theorem groups_performAll (draft : Draft α) (edits : List (Edit α ρ)) :
    ∃ written, (draft.performAll equals edits).2.groups = draft.groups ++ written ∧
      ((∀ edit ∈ edits, edit.addsAsNew = true) →
        List.Forall₂ (Entry.StemsFrom fun previous current =>
            ∃ edit ∈ edits, edit.Decides equals false previous current)
          (draft.pending.take (edits.countP Edit.takes)).flatten
          ((written.flatMap Group.items).filter (·.tag.hasPrevious))) := by
  induction edits generalizing draft with
  | nil => exact ⟨[], by simp [performAll], by simp⟩
  | cons edit edits ih =>
    have hobeys := obeys_perform equals draft edit
    obtain ⟨first, hfirst, hstems⟩ := hobeys.exists_groups
    obtain ⟨rest, hrest, hstems'⟩ := ih (draft.perform equals edit).2
    refine ⟨first ++ rest, ?_, fun hadds => ?_⟩
    · show ((draft.perform equals edit).2.performAll equals edits).2.groups = _
      rw [hrest, hfirst, List.append_assoc]
    · have hhead := (hstems (hadds edit (by simp))).imp fun _ _ h =>
        h.mono fun _ _ hrejects => (⟨edit, by simp, hrejects⟩ :
          ∃ other ∈ edit :: edits, other.Decides equals false _ _)
      have htail := (hstems' fun other hother => hadds other (by simp [hother])).imp fun _ _ h =>
        h.mono fun _ _ ⟨other, hother, hrejects⟩ => (⟨other, by simp [hother], hrejects⟩ :
          ∃ other ∈ edit :: edits, other.Decides equals false _ _)
      rw [hobeys.pending_eq] at htail
      rw [List.countP_cons, Nat.add_comm, List.take_add, List.flatten_append,
        List.flatMap_append, List.filter_append]
      exact List.rel_append hhead htail

/-- The law of operations on a draft against a baseline. At every point of them it is known
which groups are left and how many are written. -/
structure Lawful (baseline : Table α) (edits : List (Edit α ρ)) : Prop where
  /-- Groups are taken in order from the first on, each by one of the operations that ask
  for one. -/
  pending : ∀ n, ((against baseline).reached equals edits n).pending
    = (baseline.groups.map Group.values).drop ((edits.take n).countP Edit.takes)
  /-- There are as many groups as operations that did not fail. -/
  length : ∀ n, ((against baseline).reached equals edits n).groups.length
    = (((against baseline).performAll equals edits).1.take n).countP (!·.1.isRefusal)
  /-- A group that was written stays in the table. -/
  grows : ∀ n, ((against baseline).reached equals edits n).groups
    <+: ((against baseline).performAll equals edits).2.finish.groups
  /-- Each operation obeys its law. -/
  obeys : ∀ n edit, edits[n]? = some edit → ∃ reply,
    ((against baseline).performAll equals edits).1[n]?
        = some (reply, (against baseline).reached equals edits (n + 1)) ∧
      edit.Obeys equals ((against baseline).reached equals edits n) reply
        ((against baseline).reached equals edits (n + 1))
  /-- The items of the table that have a counterpart stem from the values of the groups
  taken, one by one. -/
  stems : (∀ edit ∈ edits, edit.addsAsNew = true) →
    List.Forall₂ (Entry.StemsFrom fun previous current =>
        ∃ edit ∈ edits, edit.Decides equals false previous current)
      ((baseline.groups.map Group.values).take (edits.countP Edit.takes)).flatten
      (((against baseline).performAll equals edits).2.finish.items.filter (·.tag.hasPrevious))

/-- Every sequence of operations, on a draft against any table, obeys the law of drafts. -/
theorem lawful_of_edits (baseline : Table α) (edits : List (Edit α ρ)) :
    Lawful equals baseline edits where
  pending := fun n => pending_performAll equals (against baseline) (edits.take n)
  length := by
    intro n
    have hlength := length_groups_performAll equals (against baseline) (edits.take n)
    rwa [performAll_take, groups_against, List.length_nil, Nat.zero_add] at hlength
  grows := by
    intro n
    have happend := performAll_append equals (against baseline) (edits.take n) (edits.drop n)
    rw [List.take_append_drop] at happend
    obtain ⟨written, hgroups, -⟩ := groups_performAll equals
      ((against baseline).reached equals edits n) (edits.drop n)
    exact ⟨written, by rw [← hgroups, reached, ← happend]; rfl⟩
  obeys := by
    intro n edit hedit
    obtain ⟨hreply, hnext⟩ := perform_reached equals (against baseline) hedit
    rw [hreply, hnext]
    exact ⟨_, rfl, obeys_perform equals _ edit⟩
  stems := by
    intro hadds
    obtain ⟨written, hgroups, hstems⟩ := groups_performAll equals (against baseline) edits
    have hitems : ((against baseline).performAll equals edits).2.finish.items
        = written.flatMap Group.items := congrArg (List.flatMap Group.items) hgroups
    rw [hitems]
    exact hstems hadds

end Draft

end DeltaPipeline
