import DeltaPipeline.Proofs.Written
import DeltaPipeline.Table.Baseline

/-!
# `DeltaPipeline.Proofs.Tracking`: a table follows the baseline it was made from

A driver holds baselines of one shape: nothing, or values by group, all cached. The
table that a run makes of a baseline is the baseline itself, a fault, or groups that
follow it item by item.

* `Table.kept`, `Table.IsBaseline`: the baselines that a driver holds.
* `Aligned`, `Table.Tracks`: a table against the baseline it was made from.
* `Table.Follows.continues`: the items that are not added continue the baseline's.
* `Table.Follows.asCached`: what a table leaves for the next run.
-/

set_option autoImplicit false

namespace DeltaPipeline

/-! ### Baselines -/

namespace Table

/-- The baseline that holds these values by group. -/
def kept (groups : List (List Value)) : Table Value :=
  .compacted (groups.map (Group.tagged .cached))

/-- The table is a baseline: it holds nothing, or values by group. -/
def IsBaseline (table : Table Value) : Prop :=
  table = .empty ∨ ∃ groups, table = kept groups

/-- Groups that are kept hold their values. -/
@[simp] theorem map_values_kept (groups : List (List Value)) :
    (kept groups).groups.map Group.values = groups := by
  have htagged : Group.values ∘ Group.tagged (α := Value) .cached = id :=
    funext (Group.values_tagged (by decide))
  show (groups.map (Group.tagged .cached)).map Group.values = groups
  rw [List.map_map, htagged, List.map_id]

/-- No group that is kept is lost. -/
@[simp] theorem length_groups_kept (groups : List (List Value)) :
    (kept groups).groups.length = groups.length :=
  List.length_map _

/-- The values of groups that are kept, in order. -/
@[simp] theorem values_kept (groups : List (List Value)) :
    (kept groups).values = groups.flatten := by
  rw [values, List.flatMap_def, map_values_kept]

/-- All items of groups that are kept are cached. -/
@[simp] theorem items_kept (groups : List (List Value)) :
    (kept groups).items = groups.flatten.map (⟨·, .cached⟩) := by
  show (groups.map (Group.tagged .cached)).flatMap Group.items = _
  rw [List.flatMap_map, List.map_flatten, List.flatMap_def]
  rfl

/-- All groups that are kept are present. -/
@[simp] theorem present_kept (groups : List (List Value)) :
    Group.present (kept groups).groups = groups := by
  -- No group of a baseline is flagged removed.
  have hall : (kept groups).groups.filter (!·.removed) = (kept groups).groups := by
    refine List.filter_eq_self.mpr fun group hgroup => ?_
    obtain ⟨values, -, rfl⟩ := List.mem_map.mp hgroup
    rfl
  rw [Group.present, hall, map_values_kept]

/-- A table that was written leaves its present values by group. -/
theorem asCached_populated (groups : List (Group Value)) :
    (populated groups).asCached = kept (Group.present groups) := by
  rw [asCached, Group.filterMap_asCached?, kept, Group.present, List.map_map]
  rfl

/-- A baseline that is not empty holds groups that are kept. -/
theorem IsBaseline.exists_kept {table : Table Value} (h : table.IsBaseline)
    (hempty : table.isEmpty = false) : ∃ groups, table = kept groups := by
  rcases h with rfl | h
  · cases hempty
  · exact h

end Table

/-- Where groups flagged removed hold no present values, leaving them out loses none. -/
theorem Group.flatten_present {groups : List (Group Value)}
    (htidy : ∀ group ∈ groups, group.removed = true → group.values = []) :
    (present groups).flatten = groups.flatMap Group.values := by
  induction groups with
  | nil => rfl
  | cons group groups ih =>
    have hrest := ih fun g hg => htidy g (List.mem_cons_of_mem _ hg)
    rw [List.flatMap_cons, ← hrest]
    by_cases hremoved : group.removed = true
    · -- A group flagged removed adds nothing to the values.
      rw [htidy group (by simp) hremoved, present,
        List.filter_cons_of_neg (by simp [hremoved])]
      rfl
    · rw [present, List.filter_cons_of_pos (by simp [hremoved])]
      rfl

/-! ### A table against the baseline it was made from -/

/-- The groups of a table follow a baseline. If there is nothing in it, all is added.
Otherwise the items that are not added continue its items, one by one. -/
structure Aligned (equals : Value → Value → Bool) (baseline : Table Value)
    (groups : List (Group Value)) : Prop where
  fresh : baseline.isEmpty = true →
    ∀ group ∈ groups, group.removed = false ∧ ∀ entry ∈ group.items, entry.tag = .added
  continued : baseline.isEmpty = false →
    List.Forall₂ (Entry.Continues equals) (baseline.items.map Entry.value)
      ((groups.flatMap Group.items).filter (!·.isAdded))

/-- The table is one that a run may make from this baseline. -/
def Table.Tracks (table : Table Value) (equals : Value → Value → Bool)
    (baseline : Table Value) : Prop :=
  match table with
  | .empty => False
  | .faulted _ => True
  | .compacted groups => baseline = .compacted groups
  | .populated groups =>
    (∀ group ∈ groups, group.removed = true → group.values = []) ∧ Aligned equals baseline groups

/-- The table follows a baseline by some comparer. -/
def Table.Follows (table baseline : Table Value) : Prop :=
  baseline.IsBaseline ∧ ∃ equals, table.Tracks equals baseline

namespace Table.Follows

variable {table baseline : Table Value}

/-- A compacted table is the baseline itself. -/
theorem eq_of_isCompacted (h : table.Follows baseline) (hcompacted : table.isCompacted = true) :
    table = baseline := by
  obtain ⟨-, equals, htracks⟩ := h
  cases table with
  | compacted groups => exact Eq.symm htracks
  | empty => cases hcompacted
  | faulted fault => cases hcompacted
  | populated groups => cases hcompacted

/-- The items that are not added continue the values of the baseline. -/
theorem continues {groups : List (List Value)} (h : table.Follows baseline)
    (hfault : table.isFaulted = false) (hbaseline : baseline = .kept groups) :
    ∃ equals, List.Forall₂ (Entry.Continues equals) groups.flatten
      (table.items.filter (!·.isAdded)) := by
  obtain ⟨-, equals, htracks⟩ := h
  refine ⟨equals, ?_⟩
  subst hbaseline
  cases table with
  | empty => cases htracks
  | faulted fault => cases hfault
  | compacted written =>
    -- The table is the baseline itself, and all of its items are cached.
    have hitems : (Table.compacted written).items = groups.flatten.map (⟨·, .cached⟩) := by
      rw [← Table.items_kept]
      exact congrArg Table.items htracks.symm
    rw [hitems, filter_map_tag (fun _ => rfl), List.forall₂_map_right_iff]
    exact List.forall₂_same.mpr fun _ _ => .inl ⟨.inl rfl, rfl⟩
  | populated written =>
    have hcontinued := htracks.2.continued rfl
    rw [Table.items_kept, List.map_map] at hcontinued
    have hvalues : groups.flatten.map (Entry.value ∘ fun value => ⟨value, .cached⟩)
        = groups.flatten := List.map_id _
    rwa [hvalues] at hcontinued

/-- What a table leaves for the next run holds its values, by its groups that are not
removed. -/
theorem asCached (h : table.Follows baseline) (hfault : table.isFaulted = false) :
    table.asCached = .kept (Group.present table.groups) ∧
      table.values = (Group.present table.groups).flatten := by
  obtain ⟨hbaseline, equals, htracks⟩ := h
  cases table with
  | empty => cases htracks
  | faulted fault => cases hfault
  | compacted written =>
    have hsame : baseline = .compacted written := htracks
    -- The table is the baseline, which leaves itself.
    obtain ⟨groups, hgroups⟩ := hbaseline.exists_kept (by rw [hsame]; rfl)
    have hkept : Table.compacted written = .kept groups := by rw [← hgroups, hsame]
    rw [hkept, Table.present_kept]
    exact ⟨rfl, Table.values_kept groups⟩
  | populated written =>
    exact ⟨Table.asCached_populated written, (Group.flatten_present htracks.1).symm⟩

end Table.Follows

end DeltaPipeline
