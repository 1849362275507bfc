import DeltaPipeline.Proofs.Obtainable
import DeltaPipeline.Workbench.Tables

/-!
# `DeltaPipeline.Proofs.Representation`: what every table is like

The present values of a table are told item by item, by the tags, while a baseline leaves
out whole groups, by their flags. The two agree in every table that can be made, because
a group flagged removed holds removed items only. So a baseline loses no present value.

* `Table.IsConsistent`: how the flags, the tags and the views of a table agree.
* `Table.Obtainable.isConsistent`: they agree in every table that can be made.
* `Workbench.obtainable_makeTables`: tables made by commands can be made in this sense.
-/

set_option autoImplicit false

namespace DeltaPipeline

variable {α : Type}

namespace Table

variable {table : Table α}

/-! ### Baselines -/

/-- An empty table leaves an empty one. -/
theorem asCached_of_isEmpty (h : table.isEmpty = true) : table.asCached = .empty := by
  cases table with
  | empty => rfl
  | faulted fault => cases h
  | compacted groups => cases h
  | populated groups => cases h

/-- The baseline of a baseline is that baseline. -/
theorem asCached_asCached (table : Table α) : table.asCached.asCached = table.asCached := by
  cases table <;> rfl

/-- Every group of a regular table is regular. -/
theorem IsRegular.isRegular_group (h : table.IsRegular) :
    ∀ group ∈ table.groups, group.IsRegular := by
  cases table with
  | empty => simp [groups]
  | faulted fault => simp [groups]
  | populated groups => exact h
  | compacted groups =>
    intro group hgroup hremoved
    have hcached := h group hgroup
    simp [Group.isCached, hremoved] at hcached

/-- The groups of a compacted table are its own baseline. -/
theorem IsRegular.map_tagged {groups : List (Group α)} (h : (compacted groups).IsRegular) :
    (groups.filter (!·.removed)).map (fun group => Group.tagged .cached group.values) = groups := by
  have hremoved : ∀ group ∈ groups, group.removed = false := by
    intro group hgroup
    have hcached := h group hgroup
    simp only [Group.isCached, Bool.and_eq_true, Bool.not_eq_true'] at hcached
    exact hcached.1
  rw [List.filter_eq_self.mpr fun group hgroup => by simp [hremoved group hgroup]]
  refine (List.map_congr_left fun group hgroup => ?_).trans (List.map_id groups)
  show ({ items := group.values.map (⟨·, .cached⟩), removed := false } : Group α) = group
  rw [← items_of_isCached (h group hgroup), ← hremoved group hgroup]

/-- The baseline of a table with groups keeps those that are not flagged removed, each with
its present values. -/
theorem IsRegular.asCached_eq (h : table.IsRegular) (hempty : table.isEmpty = false)
    (hfaulted : table.isFaulted = false) :
    table.asCached = .compacted
      ((table.groups.filter (!·.removed)).map fun group => Group.tagged .cached group.values) := by
  cases table with
  | empty => cases hempty
  | faulted fault => cases hfaulted
  | compacted groups => exact congrArg compacted h.map_tagged.symm
  | populated groups => exact congrArg compacted (Group.filterMap_asCached? groups)

/-- A baseline has the values of its table, unless it was faulted. -/
theorem IsRegular.values_asCached (h : table.IsRegular) : table.asCached.values = table.values := by
  have hlive : (table.values.map fun value => (⟨value, .cached⟩ : Entry α)).filter Entry.isLive
      = table.values.map (⟨·, .cached⟩) := by simp [Entry.isLive]
  rw [values_eq, h.items_asCached, hlive, List.map_map]
  exact List.map_id _

/-! ### The single item -/

/-- There is a single item exactly where there is one value. -/
theorem isSome_single?_iff (table : Table α) :
    table.single?.isSome = true ↔ table.values.length = 1 := by
  cases hsingle : table.single? with
  | none => simpa using length_values_of_single?_eq_none hsingle
  | some item => simp [values_of_single? hsingle]

/-- The single item is present. -/
theorem isLive_of_single? {item : Entry α} (h : table.single? = some item) :
    item.isLive = true := by
  have hmem : item ∈ table.items.filter Entry.isLive := by
    simp [filter_isLive_of_single? h]
  exact (List.mem_filter.mp hmem).2

/-! ### Tables that can be made -/

/-- The flags, the tags and the views of a table agree with one another and with its
baseline. -/
structure IsConsistent (table : Table α) : Prop where
  /-- A group flagged removed holds removed items only. -/
  removed : ∀ group ∈ table.groups, group.removed = true →
    ∀ item ∈ group.items, item.tag = .removed
  /-- A compacted table has no group flagged removed, and all of its items are cached. -/
  compacted : table.isCompacted = true → table.isCached = true ∧
    ∀ group ∈ table.groups, group.removed = false ∧ ∀ item ∈ group.items, item.tag = .cached
  /-- An empty table and a faulted one leave nothing. -/
  nothing : table.isEmpty = true ∨ table.isFaulted = true → table.asCached = .empty
  /-- Any other leaves its groups that are not flagged removed, in order, each with its
  present values, and no present value is lost. -/
  baseline : table.isEmpty = false → table.isFaulted = false →
    table.asCached = .compacted ((table.groups.filter (!·.removed)).map fun group =>
      Group.tagged .cached group.values) ∧ table.asCached.values = table.values
  /-- A baseline leaves itself. -/
  settled : table.asCached.asCached = table.asCached
  /-- Every item is counted. -/
  total : table.counts.total = table.items.length
  /-- The present values are the items that are not counted as removed. -/
  present : table.values.length
    = table.counts.added + table.counts.modified + table.counts.cached
  /-- There is a single item exactly if there is one present value. -/
  single_iff : table.single?.isSome = true ↔ table.values.length = 1
  /-- The single item is that value, and it is not removed. -/
  single : ∀ item, table.single? = some item → table.values = [item.value] ∧ item.tag ≠ .removed

/-- In every table that can be made the flags, the tags and the views agree. -/
theorem Obtainable.isConsistent (h : table.Obtainable) : table.IsConsistent where
  removed := h.isRegular.isRegular_group
  compacted := by
    intro hcompacted
    obtain ⟨groups, rfl⟩ := eq_compacted_of_isCompacted hcompacted
    have hcached : ∀ group ∈ groups, group.isCached = true := h.isRegular
    refine ⟨List.all_eq_true.mpr hcached, fun group hgroup => ?_⟩
    have hgroup' := hcached group hgroup
    simpa [Group.isCached] using hgroup'
  nothing := by
    rintro (hempty | hfaulted)
    · exact asCached_of_isEmpty hempty
    · obtain ⟨fault, rfl⟩ := eq_faulted_of_isFaulted hfaulted
      rfl
  baseline := fun hempty hfaulted =>
    ⟨h.isRegular.asCached_eq hempty hfaulted, h.isRegular.values_asCached⟩
  settled := asCached_asCached table
  total := counts_total table
  present := length_values table
  single_iff := isSome_single?_iff table
  single := fun item hitem => ⟨values_of_single? hitem, by
    simpa [Entry.isLive] using isLive_of_single? hitem⟩

/-- A table that carries on a fault can be made. -/
theorem obtainable_carryFault {β : Type} (source : Table α) (origin : Origin) :
    (source.carryFault origin : Table β).Obtainable :=
  .faulted _

end Table

/-! ### Tables made by commands -/

/-- The operation with each relation given as a function. -/
def Edit.interpret {ρ : Type} (equals : ρ → α → α → Bool) : Edit α ρ → Edit α (α → α → Bool)
  | .add values tag => .add values tag
  | .addOne value tag => .addOne value tag
  | .keep => .keep
  | .drop => .drop
  | .revise values relation => .revise values (equals relation)
  | .reviseOne value relation => .reviseOne value (equals relation)
  | .reviseOrAdd values relation => .reviseOrAdd values (equals relation)

/-- Operations whose relations are read beforehand do the same. -/
theorem Draft.performAll_interpret {ρ : Type} (equals : ρ → α → α → Bool) (draft : Draft α)
    (edits : List (Edit α ρ)) :
    draft.performAll id (edits.map (Edit.interpret equals)) = draft.performAll equals edits := by
  induction edits generalizing draft with
  | nil => rfl
  | cons edit edits ih =>
    have hstep : draft.perform id (edit.interpret equals) = draft.perform equals edit := by
      cases edit <;> rfl
    simp only [List.map_cons, performAll, hstep, ih]

/-- Whatever relations are given as, a draft is written by its operations. -/
theorem Draft.writtenFrom_performAll {ρ : Type} (equals : ρ → α → α → Bool) (baseline : Table α)
    (edits : List (Edit α ρ)) :
    WrittenFrom baseline ((against baseline).performAll equals edits).2 :=
  ⟨edits.map (Edit.interpret equals), congrArg Prod.snd (performAll_interpret equals _ edits)⟩

namespace Workbench

/-- A command makes a table of tables that can be made. -/
theorem obtainable_makeTable {made : List (Table Value)} (hmade : ∀ table ∈ made, table.Obtainable)
    {command : TableCommand} {reply : TableReply} (h : makeTable made command = some reply) :
    reply.table.Obtainable := by
  cases command with
  | empty =>
    cases h
    exact .empty
  | faulted cause =>
    cases h
    exact .faulted _
  | carryFault number =>
    obtain ⟨source, -, hreply⟩ := Option.bind_eq_some_iff.mp h
    cases hreply
    exact Table.obtainable_carryFault source _
  | asCached number =>
    obtain ⟨table, htable, hreply⟩ := Option.bind_eq_some_iff.mp h
    cases hreply
    exact .asCached (hmade table (List.mem_of_getElem? htable))
  | copy number =>
    obtain ⟨table, htable, hreply⟩ := Option.bind_eq_some_iff.mp h
    cases hreply
    exact hmade table (List.mem_of_getElem? htable)
  | write number edits =>
    obtain ⟨baseline, hbaseline, hreply⟩ := Option.bind_eq_some_iff.mp h
    cases hreply
    exact .written (hmade baseline (List.mem_of_getElem? hbaseline))
      (Draft.writtenFrom_performAll Rule.equals baseline edits)

/-- All tables made by commands, one after the other, can be made. -/
theorem obtainable_makeTables {made : List (Table Value)}
    (hmade : ∀ table ∈ made, table.Obtainable) {commands : List TableCommand}
    {replies : List TableReply} (h : makeTables made commands = some replies) :
    ∀ reply ∈ replies, reply.table.Obtainable := by
  induction commands generalizing made replies with
  | nil =>
    cases h
    simp
  | cons command commands ih =>
    obtain ⟨first, hfirst, h⟩ := Option.bind_eq_some_iff.mp h
    obtain ⟨rest, hrest, h⟩ := Option.bind_eq_some_iff.mp h
    cases h
    have hobtainable := obtainable_makeTable hmade hfirst
    -- The tables made so far and the new one can all be made.
    have hmade' : ∀ table ∈ made ++ [first.table], table.Obtainable := by
      intro table htable
      rcases List.mem_append.mp htable with hmem | hmem
      · exact hmade table hmem
      · rwa [List.mem_singleton.mp hmem]
    intro reply hreply
    rcases List.mem_cons.mp hreply with rfl | hmem
    · exact hobtainable
    · exact ih hmade' hrest reply hmem

end Workbench

namespace Table

namespace Sample

/-- A table is written over one that is no baseline: two of its groups are flagged removed. -/
def commands : List TableCommand :=
  [ .empty,
    .write 0 [.add [.text "a", .text "b"] .added, .add [.text "c"] .removed,
      .addOne (.text "d") .modified],
    .write 1 [.drop, .keep, .revise [.text "d", .text "e"] .always,
      .addOne (.text "f") .removed] ]

/-- The last table made. -/
def table : Table Value :=
  .populated [
    Group.dropped [.text "a", .text "b"],
    Group.tagged .cached [],
    { items := [⟨.text "d", .cached⟩, ⟨.text "e", .added⟩] },
    Group.dropped [.text "f"] ]

/-- The sample is made by operations. -/
theorem obtainable : table.Obtainable := by
  obtain ⟨replies, hreplies, hlast⟩ : ∃ replies,
      Workbench.makeTables [] commands = some replies ∧
        replies[2]?.map TableReply.table = some table := ⟨_, rfl, rfl⟩
  obtain ⟨reply, hreply, htable⟩ := Option.map_eq_some_iff.mp hlast
  rw [← htable]
  exact Workbench.obtainable_makeTables (by simp) hreplies reply (List.mem_of_getElem? hreply)

end Sample

/-- The last table made leaves two groups and both of its present values. -/
theorem isConsistent_sample :
    Sample.table.Obtainable ∧ Sample.table.IsConsistent ∧
      Sample.table.asCached
        = .compacted [Group.tagged .cached [], Group.tagged .cached [.text "d", .text "e"]] ∧
      Sample.table.asCached.values = [.text "d", .text "e"] := by
  have h := Sample.obtainable.isConsistent
  obtain ⟨hbaseline, hvalues⟩ := h.baseline rfl rfl
  exact ⟨Sample.obtainable, h, hbaseline, hvalues⟩

end Table

end DeltaPipeline
