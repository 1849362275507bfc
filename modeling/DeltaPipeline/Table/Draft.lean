import DeltaPipeline.Table.Basic

/-!
# `DeltaPipeline.Table.Draft`: a table in the making

A table is written against the node's baseline. The draft walks the baseline's
groups from the first on: keeping, dropping and revising a group takes the next
one, adding a group takes none. So the groups that are not added stay aligned
with those of the baseline.

* `Draft.add`, `Draft.keep?`, `Draft.drop?`, `Draft.revise?`: the ways to write
  the next group; the last three need a pending group.
* `revision`: the positional comparison of new values with old ones.
* `Draft.finish`: the table; `Draft.finalRemarks`: what is remarkable about how it
  was written.

The lemmas say what each operation does to the two parts of a draft that matter
later, its pending groups and its written ones.
-/

set_option autoImplicit false

namespace DeltaPipeline

/-- What is remarkable about how a table was written. -/
inductive Draft.Remark where
  /-- a group that claims a counterpart was added when none was left -/
  | pastEnd (tag : Tag)
  /-- some groups of the baseline have no counterpart in the table -/
  | unconsumed (count : Nat)
deriving DecidableEq

/-- A table in the making. -/
structure Draft (α : Type) where
  /-- The present values of the baseline groups not taken yet, in order. -/
  pending : List (List α)
  /-- The groups written so far. -/
  groups : List (Group α) := []
  remarks : List Draft.Remark := []
deriving DecidableEq

/-- The items of a group whose values were `old` and are now `new`. At a position
that both have, the old value is kept if the relation accepts the two. Old values
beyond the new ones are removed, new values beyond the old ones are added. -/
def revision {α : Type} (equals : α → α → Bool) : List α → List α → List (Entry α)
  | old, [] => old.map (⟨·, .removed⟩)
  | [], new => new.map (⟨·, .added⟩)
  | previous :: old, current :: new =>
    (if equals previous current then ⟨previous, .cached⟩ else ⟨current, .modified⟩) ::
      revision equals old new

namespace Draft

variable {α : Type}

/-- A draft against a baseline, nothing of which is taken yet. -/
def against (baseline : Table α) : Draft α where
  pending := baseline.groups.map Group.values

/-- Writes a group and takes nothing. -/
def push (draft : Draft α) (group : Group α) : Draft α :=
  { draft with groups := draft.groups ++ [group] }

/-- Writes a group of values under one tag. Unless the tag is `added`, the next
pending group counts as taken; that none is left is worth a remark. A group
tagged `removed` is the group of an item that disappeared. -/
def add (draft : Draft α) (values : List α) (tag : Tag) : Draft α :=
  let group := if tag = .removed then Group.dropped values else Group.tagged tag values
  if tag.hasPrevious then
    match draft.pending with
    | [] => { draft with remarks := draft.remarks ++ [Remark.pastEnd tag] }.push group
    | _ :: rest => { draft with pending := rest }.push group
  else
    draft.push group

/-- Writes the next pending group as it was. -/
def keep? (draft : Draft α) : Option (Draft α) :=
  match draft.pending with
  | [] => none
  | old :: rest => some ({ draft with pending := rest }.push (Group.tagged .cached old))

/-- Writes the next pending group as removed. -/
def drop? (draft : Draft α) : Option (Draft α) :=
  match draft.pending with
  | [] => none
  | old :: rest => some ({ draft with pending := rest }.push (Group.dropped old))

/-- Writes the revision of the next pending group. -/
def revise? (draft : Draft α) (equals : α → α → Bool) (values : List α) : Option (Draft α) :=
  match draft.pending with
  | [] => none
  | old :: rest =>
    some ({ draft with pending := rest }.push { items := revision equals old values })

/-- Writes the revision of the next pending group, or the values as added if no
group is left. -/
def reviseOrAdd (draft : Draft α) (equals : α → α → Bool) (values : List α) : Draft α :=
  (draft.revise? equals values).getD (draft.add values .added)

/-- The pairs that a revision by these values compares, in order. -/
def comparisons (draft : Draft α) (values : List α) : List (α × α) :=
  (draft.pending.head?.getD []).zip values

/-- The remarks on the finished table, in order. -/
def finalRemarks (draft : Draft α) : List Remark :=
  if draft.pending.isEmpty then draft.remarks
  else draft.remarks ++ [Remark.unconsumed draft.pending.length]

/-- The finished table. -/
def finish (draft : Draft α) : Table α :=
  .populated draft.groups

/-! ### What the operations do -/

/-- All groups of the baseline are pending at first. -/
@[simp] theorem pending_against (baseline : Table α) :
    (against baseline).pending = baseline.groups.map Group.values := rfl

/-- Nothing is written at first. -/
@[simp] theorem groups_against (baseline : Table α) : (against baseline).groups = [] := rfl

/-- A group that is written takes none that is pending. -/
@[simp] theorem pending_push (draft : Draft α) (group : Group α) :
    (draft.push group).pending = draft.pending := rfl

/-- Adding values under the tag `added` writes their group and nothing else. -/
@[simp] theorem add_added (draft : Draft α) (values : List α) :
    draft.add values .added = draft.push (Group.tagged .added values) := rfl

/-- Keeping a group works exactly if one is pending. -/
theorem keep?_eq_none_iff (draft : Draft α) : draft.keep? = none ↔ draft.pending = [] := by
  unfold keep?
  split <;> simp_all

/-- Revising a group works exactly if one is pending. -/
theorem revise?_eq_none_iff (draft : Draft α) (equals : α → α → Bool) (values : List α) :
    draft.revise? equals values = none ↔ draft.pending = [] := by
  unfold revise?
  split <;> simp_all

end Draft

/-! ### Revisions -/

section Revision

variable {α : Type} (equals : α → α → Bool)

/-- Without new values all old ones are removed. -/
@[simp] theorem revision_nil_right (old : List α) :
    revision equals old [] = old.map (⟨·, .removed⟩) := by
  cases old <;> simp [revision]

/-- Without old values all new ones are added. -/
@[simp] theorem revision_nil_left (new : List α) :
    revision equals [] new = new.map (⟨·, .added⟩) := by
  cases new <;> simp [revision]

/-- A revision has an item for each position that the old or the new values have. -/
theorem length_revision (old new : List α) :
    (revision equals old new).length = max old.length new.length := by
  induction old generalizing new with
  | nil => simp
  | cons previous old ih =>
    cases new with
    | nil => simp
    | cons current new =>
      have h := ih new
      simp only [revision, List.length_cons, h]
      omega

/-- The present values of a revision are as many as the new values. -/
theorem length_live_revision (old new : List α) :
    ((revision equals old new).filter Entry.isLive).length = new.length := by
  induction old generalizing new with
  | nil =>
    rw [revision_nil_left, List.filter_eq_self.mpr (by simp [Entry.isLive]), List.length_map]
  | cons previous old ih =>
    cases new with
    | nil => simp [Entry.isLive]
    | cons current new =>
      have h := ih new
      by_cases he : equals previous current = true
      · simp only [revision, he, if_true, List.length_cons]
        rw [List.filter_cons_of_pos (by simp [Entry.isLive]), List.length_cons, h]
      · simp only [revision, he, List.length_cons]
        rw [List.filter_cons_of_pos (by simp [Entry.isLive]), List.length_cons, h]

end Revision

end DeltaPipeline
