import DeltaPipeline.Table.Baseline

/-!
# `DeltaPipeline.Table.Lemmas`: how the views of a table agree

* `Table.values_eq`: the values are those of the present items, in order.
* `Table.counts_total`: every item is counted under one tag.
* `Table.length_values`: the values are the items not counted as removed.
* `Group.filterMap_asCached?`: a baseline keeps the present values of its groups.
* `Table.values_of_single?`: a table with a single item has its value alone.
* `Table.asCached_eq_empty_iff`: only a fault leaves nothing for the next run.
-/

set_option autoImplicit false

namespace DeltaPipeline

variable {α : Type}

namespace Group

/-- A dropped group holds no values. -/
@[simp] theorem values_dropped (values : List α) : (dropped values).values = [] := by
  simp [Group.values, dropped, Entry.isLive]

/-- A group under a tag other than `removed` holds its values. -/
theorem values_tagged {tag : Tag} (h : tag ≠ .removed) (values : List α) :
    (tagged tag values).values = values := by
  have hlive : (values.map (fun v => (⟨v, tag⟩ : Entry α))).filter Entry.isLive
      = values.map (⟨·, tag⟩) :=
    List.filter_eq_self.mpr (by simp [Entry.isLive, h])
  simp only [Group.values, tagged, hlive, List.map_map]
  exact List.map_id' values

/-- A group of cached items is cached. -/
@[simp] theorem isCached_tagged (values : List α) : (tagged .cached values).isCached = true := by
  simp [isCached, tagged]

/-- What is left of groups are those that are not flagged removed, in order, each with its
present values. -/
theorem filterMap_asCached? (groups : List (Group α)) :
    groups.filterMap asCached?
      = (groups.filter (!·.removed)).map fun group => tagged .cached group.values := by
  induction groups with
  | nil => rfl
  | cons group groups ih =>
    rw [List.filterMap_cons, ih]
    cases hremoved : group.removed with
    | true => simp [asCached?, hremoved]
    | false => simp [asCached?, hremoved]

end Group

namespace Table

/-- The values of a table are those of its present items. -/
theorem values_eq (table : Table α) :
    table.values = (table.items.filter Entry.isLive).map Entry.value := by
  simp only [values, items, List.filter_flatMap, List.map_flatMap]
  rfl

/-- A list of items is counted by tag. -/
theorem length_eq_countP_tags (items : List (Entry α)) :
    items.countP (·.tag = .added) + items.countP (·.tag = .modified)
      + items.countP (·.tag = .cached) + items.countP (·.tag = .removed) = items.length := by
  induction items with
  | nil => rfl
  | cons item items ih =>
    rw [List.length_cons, ← ih]
    cases h : item.tag with
    | added => simp [h]; omega
    | modified => simp [h]; omega
    | cached => simp [h]; omega
    | removed => simp [h]; omega

/-- Every item is counted under one tag. -/
theorem counts_total (table : Table α) : table.counts.total = table.items.length :=
  length_eq_countP_tags table.items

/-- The values are the items not counted as removed. -/
theorem length_values (table : Table α) :
    table.values.length = table.counts.added + table.counts.modified + table.counts.cached := by
  have hlive : (table.items.filter Entry.isLive).length + table.counts.removed
      = table.items.length := by
    have h := List.length_eq_countP_add_countP (fun e : Entry α => e.isLive) (l := table.items)
    have hremoved : table.items.countP (fun e => ¬e.isLive = true) = table.counts.removed := by
      simp [counts, Entry.isLive]
    rw [← List.countP_eq_length_filter, h, hremoved]
  have htotal := counts_total table
  rw [values_eq, List.length_map]
  simp only [TagCounts.total] at htotal
  omega

/-! ### The single item -/

section Single

variable {table : Table α} {item : Entry α}

/-- The single item of a table is its only present one. -/
theorem filter_isLive_of_single? (h : table.single? = some item) :
    table.items.filter Entry.isLive = [item] := by
  unfold single? at h
  split at h
  · next entry hentry =>
    cases h
    exact hentry
  · cases h

/-- The values of a table with a single item. -/
theorem values_of_single? (h : table.single? = some item) : table.values = [item.value] := by
  rw [values_eq, filter_isLive_of_single? h]
  rfl

/-- A table without a single item has no values or several. -/
theorem length_values_of_single?_eq_none (h : table.single? = none) :
    table.values.length ≠ 1 := by
  intro hlength
  rw [values_eq, List.length_map, List.length_eq_one_iff] at hlength
  obtain ⟨entry, hentry⟩ := hlength
  rw [single?, hentry] at h
  cases h

end Single

/-! ### The four forms of a table -/

section Forms

variable {table : Table α}

/-- A faulted table holds a fault and nothing else. -/
theorem eq_faulted_of_isFaulted (h : table.isFaulted = true) :
    ∃ fault, table = faulted fault := by
  cases table with
  | faulted fault => exact ⟨fault, rfl⟩
  | empty => cases h
  | compacted groups => cases h
  | populated groups => cases h

/-- A table is the faulted table of exactly its fault. -/
theorem eq_faulted_iff {fault : Fault} : table = faulted fault ↔ table.fault? = some fault := by
  cases table <;> simp [fault?]

/-- A compacted table holds groups and no fault. -/
theorem eq_compacted_of_isCompacted (h : table.isCompacted = true) :
    ∃ groups, table = compacted groups := by
  cases table with
  | compacted groups => exact ⟨groups, rfl⟩
  | empty => cases h
  | faulted fault => cases h
  | populated groups => cases h

/-- A compacted table is not faulted. -/
theorem isFaulted_of_isCompacted (h : table.isCompacted = true) : table.isFaulted = false := by
  obtain ⟨groups, rfl⟩ := eq_compacted_of_isCompacted h
  rfl

/-- An empty table has no groups. -/
theorem groups_of_isEmpty (h : table.isEmpty = true) : table.groups = [] := by
  cases table with
  | empty => rfl
  | faulted fault => rfl
  | compacted groups => cases h
  | populated groups => cases h

/-- A table that is there leaves nothing exactly if it is faulted. -/
theorem asCached_eq_empty_iff (h : table ≠ empty) :
    table.asCached = empty ↔ table.isFaulted = true := by
  cases table with
  | empty => exact absurd rfl h
  | faulted fault => exact ⟨fun _ => rfl, fun _ => rfl⟩
  | compacted groups => exact ⟨fun h => (by cases h), fun h => (by cases h)⟩
  | populated groups => exact ⟨fun h => (by cases h), fun h => (by cases h)⟩

end Forms

end Table

end DeltaPipeline
