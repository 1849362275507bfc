import DeltaPipeline.Proofs.Tracking
import DeltaPipeline.Proofs.Updates

/-!
# `DeltaPipeline.Proofs.Coherence`: baselines and tables that fit together

What a run leaves is what the next one starts from. `Driver.Founded` says of the
baseline of a node that it fits the baselines of its sources, and `Driver.Advances` of
the table of a node that it follows the node's baseline and fits the tables of its
sources. An update leads from the one to the other, and the end of the run back.

* `Node.Fits`: the values of a node against those of its sources.
* `Driver.Feeds.backed`: the groups of a baseline back what is kept of them.
* `Driver.advances_of_makes`: what the update of a node makes fits.
* `Driver.founded_of_advances`: what it leaves for the next run fits.

Which values may stand for others enters as a relation `accepts`, which contains what
the comparers accept.
-/

set_option autoImplicit false

namespace DeltaPipeline

variable {σ : Type}

/-! ### A node's values against those of its sources -/

/-- In some environment the code gives these values. -/
def UserCode.MayYield (code : UserCode σ (Except Fault (List Value)))
    (outputs : List Value) : Prop :=
  code.MayGive (.ok outputs)

/-- The values of a node, by group, are what the node makes of the values of its
sources, or were accepted in their place. `gives` says what user code gives, and `set`
are the values of an input. -/
def Node.Fits (accepts : Value → Value → Prop)
    (gives : UserCode σ (Except Fault (List Value)) → List Value → Prop) (set : List Value)
    (tables : NodeId → Table Value) (node : Node σ) (groups : List (List Value)) : Prop :=
  match node.role with
  | .input => Agree accepts set groups.flatten ∧ ∀ group ∈ groups, group.length = 1
  | .transform source function =>
    List.Forall₂ (fun value group =>
      ∃ outputs, gives (function.call value) outputs ∧ Agree accepts outputs group)
      (tables source).values groups
  | .batch source function =>
    ∃ group, groups = [group] ∧
      ∃ outputs, gives (function.call (tables source).values) outputs ∧
        Agree accepts outputs group
  | .combine left right =>
    ∃ single, (tables right).values = [single] ∧
      List.Forall₂ (fun value group => Agree accepts [.pair value single] group)
        (tables left).values groups
  | .custom _ _ _ => True

namespace Node

variable {accepts accepts' : Value → Value → Prop}
  {gives gives' : UserCode σ (Except Fault (List Value)) → List Value → Prop}
  {set set' : List Value} {tables tables' : NodeId → Table Value} {node : Node σ}
  {groups : List (List Value)} {source left right : NodeId}

/-- The groups of an input agree with its values, one by one. -/
theorem fits_input_iff (hrole : node.role = .input) :
    node.Fits accepts gives set tables groups
      ↔ Agree accepts set groups.flatten ∧ ∀ group ∈ groups, group.length = 1 := by
  simp only [Fits, hrole]

/-- Each group of a transform agrees with what its function gives for the item. -/
theorem fits_transform_iff {function : Transform σ}
    (hrole : node.role = .transform source function) :
    node.Fits accepts gives set tables groups
      ↔ List.Forall₂ (fun value group =>
        ∃ outputs, gives (function.call value) outputs ∧ Agree accepts outputs group)
        (tables source).values groups := by
  simp only [Fits, hrole]

/-- The one group of a batch node agrees with what its function gives for all items. -/
theorem fits_batch_iff {function : Reduction σ} (hrole : node.role = .batch source function) :
    node.Fits accepts gives set tables groups
      ↔ ∃ group, groups = [group] ∧
        ∃ outputs, gives (function.call (tables source).values) outputs ∧
          Agree accepts outputs group := by
  simp only [Fits, hrole]

/-- Each group of a combining node agrees with the pair of its item and the single one. -/
theorem fits_combine_iff (hrole : node.role = .combine left right) :
    node.Fits accepts gives set tables groups
      ↔ ∃ single, (tables right).values = [single] ∧
        List.Forall₂ (fun value group => Agree accepts [.pair value single] group)
          (tables left).values groups := by
  simp only [Fits, hrole]

/-- Nothing is asked of the groups of a custom node. -/
theorem fits_of_custom {name : String} {turns : Nat}
    {program : NodeId → Table Value → Program σ Product}
    (hrole : node.role = .custom name turns program) :
    node.Fits accepts gives set tables groups := by
  simp only [Fits, hrole]

namespace Fits

/-- Only the values of the sources matter, and the values set only for an input. -/
theorem congr (h : node.Fits accepts gives set tables groups)
    (hvalues : ∀ source ∈ node.sources, (tables source).values = (tables' source).values)
    (hset : node.sources = [] → set = set') : node.Fits accepts gives set' tables' groups := by
  cases hrole : node.role with
  | input =>
    rw [fits_input_iff hrole] at h ⊢
    rw [← hset (sources_of_role hrole)]
    exact h
  | transform source function =>
    rw [fits_transform_iff hrole] at h ⊢
    rw [← hvalues source (mem_sources_of_transform hrole)]
    exact h
  | batch source function =>
    rw [fits_batch_iff hrole] at h ⊢
    rw [← hvalues source (mem_sources_of_batch hrole)]
    exact h
  | combine left right =>
    rw [fits_combine_iff hrole] at h ⊢
    rw [← hvalues left (left_mem_sources hrole), ← hvalues right (right_mem_sources hrole)]
    exact h
  | custom name turns program => exact fits_of_custom hrole

/-- What accepts more, and code that gives more, lets more fit. -/
theorem mono (h : node.Fits accepts gives set tables groups)
    (haccepts : ∀ kept current, accepts kept current → accepts' kept current)
    (hgives : ∀ code, node.role.Calls code → ∀ outputs, gives code outputs →
      gives' code outputs) : node.Fits accepts' gives' set tables groups := by
  cases hrole : node.role with
  | input =>
    rw [fits_input_iff hrole] at h ⊢
    exact ⟨h.1.mono haccepts, h.2⟩
  | transform source function =>
    rw [fits_transform_iff hrole] at h ⊢
    refine h.imp ?_
    rintro value group ⟨outputs, houtputs, hagree⟩
    have houtputs' := hgives _ (calls_of_transform hrole value) outputs houtputs
    exact ⟨outputs, houtputs', hagree.mono haccepts⟩
  | batch source function =>
    rw [fits_batch_iff hrole] at h ⊢
    obtain ⟨group, hgroup, outputs, houtputs, hagree⟩ := h
    have houtputs' := hgives _ (calls_of_batch hrole _) outputs houtputs
    exact ⟨group, hgroup, outputs, houtputs', hagree.mono haccepts⟩
  | combine left right =>
    rw [fits_combine_iff hrole] at h ⊢
    obtain ⟨single, hsingle, hpairs⟩ := h
    exact ⟨single, hsingle, hpairs.imp fun _ _ hagree => hagree.mono haccepts⟩
  | custom name turns program => exact fits_of_custom hrole

end Fits

end Node

namespace Driver

/-- The baseline of a node holds nothing, or it fits the baselines of its sources, which
then hold something too. -/
inductive Founded (accepts : NodeId → Value → Value → Prop) (driver : Driver σ) (id : NodeId)
    (node : Node σ) : Prop where
  | fresh : driver.baseline id = .empty → Founded accepts driver id node
  | kept (set : List Value) (groups : List (List Value)) : driver.baseline id = .kept groups →
    (∀ source ∈ node.sources, (driver.baseline source).isEmpty = false) →
    node.Fits (accepts id) UserCode.MayYield set driver.baseline groups →
    Founded accepts driver id node

/-- The table of a node in a run follows the node's baseline. Unless it is faulted, no
source is, and it fits the tables of the sources. -/
structure Advances (accepts : NodeId → Value → Value → Prop) (driver : Driver σ)
    (tables : NodeId → Table Value) (id : NodeId) (node : Node σ) : Prop where
  tracks : (tables id).Tracks (driver.comparer id node).equals (driver.baseline id)
  closed : (tables id).isFaulted = false →
    ∀ source ∈ node.sources, (tables source).isFaulted = false
  fits : (tables id).isFaulted = false →
    node.Fits (accepts id) UserCode.MayYield (driver.valuesOf id) tables
      (Group.present (tables id).groups)

variable {driver : Driver σ} {accepts accepts' : NodeId → Value → Value → Prop}
  {tables : NodeId → Table Value} {id : NodeId} {node : Node σ}

/-- A founded baseline is a baseline. -/
theorem Founded.isBaseline (h : driver.Founded accepts id node) :
    (driver.baseline id).IsBaseline := by
  cases h with
  | fresh hempty => exact .inl hempty
  | kept set groups hkept hclosed hfits => exact .inr ⟨groups, hkept⟩

/-- A fault is no baseline. -/
theorem Founded.ne_faulted (h : driver.Founded accepts id node) {fault : Fault} :
    driver.baseline id ≠ .faulted fault := by
  intro hfault
  rcases h.isBaseline with hempty | ⟨groups, hgroups⟩
  · rw [hfault] at hempty
    cases hempty
  · rw [hfault] at hgroups
    cases hgroups

end Driver

/-! ### What is fed to a node goes along with its baseline -/

/-- Two lists that go along with a third go along with each other. -/
theorem forall₂_of_common {α β γ : Type} {R : α → β → Prop} {S : α → γ → Prop}
    {T : β → γ → Prop} {common : List α} {left : List β} {right : List γ}
    (hleft : List.Forall₂ R common left) (hright : List.Forall₂ S common right)
    (hboth : ∀ a b c, R a b → S a c → T b c) : List.Forall₂ T left right := by
  induction hleft generalizing right with
  | nil =>
    cases hright
    exact .nil
  | cons hfirst hrest ih =>
    cases hright with
    | cons hfirst' hrest' => exact .cons (hboth _ _ _ hfirst hfirst') (ih hrest')

namespace Combine

variable {right left : Entry Value}

/-- A left item that is retagged keeps its value. -/
@[simp] theorem value_retagged : (retagged right left).value = left.value := by
  unfold retagged
  split <;> rfl

/-- Retagging neither adds a left item nor makes an added one old. -/
@[simp] theorem isAdded_retagged : (retagged right left).isAdded = left.isAdded := by
  unfold retagged
  split
  · next h => simp [Entry.isAdded, Entry.retag, h.2]
  · rfl

/-- Retagging neither removes a left item nor brings it back. -/
@[simp] theorem isLive_retagged : (retagged right left).isLive = left.isLive := by
  unfold retagged
  split
  · next h => simp [Entry.isLive, Entry.retag, h.2]
  · rfl

/-- A pair counts as unchanged only if both of its items do. -/
theorem tags_of_retagged (h : (retagged right left).tag = .cached) :
    right.tag = .cached ∧ left.tag = .cached := by
  unfold retagged at h
  split at h
  · cases h
  · next hboth =>
    refine ⟨?_, h⟩
    by_contra hright
    exact hboth ⟨hright, h⟩

end Combine

namespace Input

/-- The values that an input is fed are those set. -/
theorem map_value_filter_feed (groups : Nat) (values : List Value) :
    ((feed groups values).filter Entry.isLive).map Entry.value = values := by
  -- The items for groups beyond the values set are removed, so they have no part in it.
  have hremoved : (List.replicate (groups - values.length)
      (⟨.null, .removed⟩ : Entry Value)).filter Entry.isLive = [] :=
    List.filter_eq_nil_iff.mpr (by simp [Entry.isLive])
  rw [feed, List.filter_append, List.filter_append, filter_map_tag (fun _ => rfl), hremoved,
    filter_map_tag (fun _ => rfl)]
  simp only [List.append_nil, List.map_append, List.map_map]
  calc _ = (values.take _).map id ++ (values.drop _).map id := rfl
    _ = values := by rw [List.map_id, List.map_id, List.take_append_drop]

/-- The items of an input that are not added are compared or removed, and as many as the
groups of its baseline. -/
theorem filter_isAdded_feed (groups : Nat) (values : List Value) :
    ((feed groups values).filter (!·.isAdded)).length = groups ∧
      ∀ item ∈ (feed groups values).filter (!·.isAdded), item.tag ≠ .cached := by
  have hremoved : (List.replicate (groups - values.length)
      (⟨.null, .removed⟩ : Entry Value)).filter (!·.isAdded)
      = List.replicate (groups - values.length) ⟨.null, .removed⟩ :=
    List.filter_eq_self.mpr (by simp [Entry.isAdded])
  rw [feed, List.filter_append, List.filter_append, filter_map_tag (fun _ => rfl), hremoved,
    filter_map_tag_eq_nil (fun _ => rfl), List.append_nil]
  constructor
  · simp only [List.length_append, List.length_map, List.length_take, List.length_replicate]
    omega
  · intro item hitem
    rcases List.mem_append.mp hitem with hmem | hmem
    · obtain ⟨value, -, rfl⟩ := List.mem_map.mp hmem
      simp
    · rw [List.eq_of_mem_replicate hmem]
      simp

end Input

namespace Driver

variable {driver : Driver σ} {accepts : NodeId → Value → Value → Prop}
  {tables : NodeId → Table Value} {id : NodeId} {node : Node σ} {product : Product}
  {items : List (Entry Value)} {answers : Value → Except Fault (List Value) → Prop}

section Kept

variable {set : List Value} {groups : List (List Value)}
  (hclosed : ∀ source ∈ node.sources, (driver.baseline source).isEmpty = false)
  (hfits : node.Fits (accepts id) UserCode.MayYield set driver.baseline groups)
  (hfollows : ∀ source ∈ node.sources, (tables source).Follows (driver.baseline source))
  (hfaults : ∀ source ∈ node.sources, (tables source).isFaulted = false)

include hclosed hfollows hfaults

/-- The items of a source that are not added continue the values of its baseline. -/
theorem continues_of_follows {source : NodeId} (hsource : source ∈ node.sources) :
    ∃ equals, List.Forall₂ (Entry.Continues equals) (driver.baseline source).values
      ((tables source).items.filter (!·.isAdded)) := by
  obtain ⟨groups, hgroups⟩ := (hfollows source hsource).1.exists_kept (hclosed source hsource)
  rw [hgroups, Table.values_kept]
  exact (hfollows source hsource).continues (hfaults source hsource) hgroups

include hfits

/-- The items fed to a node that are not added go along with the groups of its baseline,
and the group of a cached item fits it. -/
theorem Feeds.forall₂ (hfeeds : driver.Feeds tables id node items answers)
    (hkept : driver.baseline id = .kept groups) :
    List.Forall₂ (fun item old => item.tag = .cached → Fits answers (accepts id) item.value old)
      (items.filter (!·.isAdded)) groups := by
  cases hfeeds with
  | input hrole =>
    rw [hkept, Table.length_groups_kept]
    -- An input is fed nothing cached, so it is enough to count.
    obtain ⟨hlength, htags⟩ := Input.filter_isAdded_feed groups.length (driver.valuesOf id)
    refine List.forall₂_iff_zip.mpr ⟨hlength, fun {item old} hmem htag => ?_⟩
    exact absurd htag (htags item (List.of_mem_zip hmem).1)
  | transform source function hrole =>
    rw [Node.fits_transform_iff hrole] at hfits
    -- The items of the source go along with its baseline, and so do the node's groups.
    obtain ⟨equals, hcontinues⟩ := continues_of_follows hclosed hfollows hfaults
      (Node.mem_sources_of_transform hrole)
    refine forall₂_of_common hcontinues hfits fun previous item old hitem hold htag => ?_
    rw [hitem.value_eq htag]
    exact hold
  | batch source function hrole =>
    rw [Node.fits_batch_iff hrole] at hfits
    obtain ⟨group, rfl, -⟩ := hfits
    exact .cons (by simp) .nil
  | combine left right item hrole hitem =>
    rw [Node.fits_combine_iff hrole] at hfits
    obtain ⟨single, hsingle, hpairs⟩ := hfits
    obtain ⟨equals, hcontinues⟩ := continues_of_follows hclosed hfollows hfaults
      (Node.left_mem_sources hrole)
    obtain ⟨equals', hcontinues'⟩ := continues_of_follows hclosed hfollows hfaults
      (Node.right_mem_sources hrole)
    -- If the right item is as it was, it is the one of the baseline.
    have hright : item.tag = .cached → item.value = single := by
      intro htag
      have hmem : item ∈ (tables right).items.filter (!·.isAdded) := by
        have hlive : item ∈ (tables right).items.filter Entry.isLive := by
          rw [Table.filter_isLive_of_single? hitem]
          simp
        exact List.mem_filter.mpr ⟨(List.mem_filter.mp hlive).1, by simp [Entry.isAdded, htag]⟩
      rw [hsingle] at hcontinues'
      obtain ⟨entry, rest, hentry, hrest, hall⟩ := List.forall₂_cons_left_iff.mp hcontinues'
      rw [List.forall₂_nil_left_iff] at hrest
      rw [hall, hrest, List.mem_singleton] at hmem
      rw [hmem] at htag ⊢
      exact hentry.value_eq htag
    -- Retagging makes no item an added one.
    have hfilter : ((tables left).items.map (Combine.retagged item)).filter (!·.isAdded)
        = ((tables left).items.filter (!·.isAdded)).map (Combine.retagged item) := by
      rw [List.filter_map]
      congr 1
      exact List.filter_congr fun entry _ => by simp
    rw [hfilter, List.forall₂_map_left_iff]
    refine forall₂_of_common hcontinues hpairs fun previous entry old hentry hold htag => ?_
    obtain ⟨htagr, htagl⟩ := Combine.tags_of_retagged htag
    rw [Combine.value_retagged, hentry.value_eq htagl]
    exact ⟨_, rfl, by rw [hright htagr]; exact hold⟩

end Kept

/-- Each group of a baseline has its item among those fed to the node. -/
theorem Feeds.length_groups_le (hfeeds : driver.Feeds tables id node items answers)
    (hfounded : driver.Founded accepts id node)
    (hfollows : ∀ source ∈ node.sources, (tables source).Follows (driver.baseline source))
    (hfaults : ∀ source ∈ node.sources, (tables source).isFaulted = false) :
    (driver.baseline id).groups.length ≤ (items.filter (!·.isAdded)).length := by
  cases hfounded with
  | fresh hempty =>
    rw [hempty]
    exact Nat.zero_le _
  | kept set groups hkept hclosed hfits =>
    have hall := hfeeds.forall₂ hclosed hfits hfollows hfaults hkept
    rw [hkept, Table.length_groups_kept, hall.length_eq]

/-- Each item fed to the node that is not added has its group in a baseline that holds
something. -/
theorem Feeds.length_le_groups (hfeeds : driver.Feeds tables id node items answers)
    (hfounded : driver.Founded accepts id node)
    (hfollows : ∀ source ∈ node.sources, (tables source).Follows (driver.baseline source))
    (hfaults : ∀ source ∈ node.sources, (tables source).isFaulted = false)
    (hempty : (driver.baseline id).isEmpty = false) :
    (items.filter (!·.isAdded)).length ≤ (driver.baseline id).groups.length := by
  cases hfounded with
  | fresh hfresh =>
    rw [hfresh] at hempty
    cases hempty
  | kept set groups hkept hclosed hfits =>
    have hall := hfeeds.forall₂ hclosed hfits hfollows hfaults hkept
    rw [hkept, Table.length_groups_kept, hall.length_eq]

/-- The groups of a baseline back what is kept of them. -/
theorem Feeds.backed (hfeeds : driver.Feeds tables id node items answers)
    (hfounded : driver.Founded accepts id node)
    (hfollows : ∀ source ∈ node.sources, (tables source).Follows (driver.baseline source))
    (hfaults : ∀ source ∈ node.sources, (tables source).isFaulted = false) :
    Backed (DeltaPipeline.Fits answers (accepts id)) items
      ((driver.baseline id).groups.map Group.values) := by
  cases hfounded with
  | fresh hempty =>
    rw [hempty]
    exact backed_nil items
  | kept set groups hkept hclosed hfits =>
    rw [hkept, Table.map_values_kept]
    exact backed_of_forall₂ (hfeeds.forall₂ hclosed hfits hfollows hfaults hkept)

/-- The baseline of a batch that holds something is one group. -/
theorem Founded.length_groups_batch {source : NodeId} {function : Reduction σ}
    (hfounded : driver.Founded accepts id node) (hrole : node.role = .batch source function)
    (hempty : (driver.baseline id).isEmpty = false) :
    (driver.baseline id).groups.length = 1 := by
  cases hfounded with
  | fresh hfresh =>
    rw [hfresh] at hempty
    cases hempty
  | kept set groups hkept hclosed hfits =>
    rw [Node.fits_batch_iff hrole] at hfits
    obtain ⟨group, rfl, -⟩ := hfits
    rw [hkept]
    rfl

/-! ### What a node makes fits -/

/-- Groups that fit the values of an input are single values that agree with them. -/
theorem agree_of_forall₂ {accepts : Value → Value → Prop} {values : List Value}
    {groups : List (List Value)}
    (h : List.Forall₂ (DeltaPipeline.Fits (fun value answer => answer = .ok [value]) accepts)
      values groups) :
    Agree accepts values groups.flatten ∧ ∀ group ∈ groups, group.length = 1 := by
  induction h with
  | nil => exact ⟨.nil, by simp⟩
  | @cons value group values groups hfirst hrest ih =>
    obtain ⟨outputs, houtputs, hagree⟩ := hfirst
    cases houtputs
    refine ⟨List.rel_append hagree ih.1, ?_⟩
    intro g hg
    rcases List.mem_cons.mp hg with rfl | hmem
    · exact hagree.length_eq.symm
    · exact ih.2 g hmem

/-- Groups that fit what is fed to a node fit the values of its sources. -/
theorem Feeds.fits {groups : List (List Value)}
    (hfeeds : driver.Feeds tables id node items answers)
    (hfits : List.Forall₂ (DeltaPipeline.Fits answers (accepts id))
      ((items.filter Entry.isLive).map Entry.value) groups) :
    node.Fits (accepts id) UserCode.MayYield (driver.valuesOf id) tables groups := by
  cases hfeeds with
  | input hrole =>
    rw [Input.map_value_filter_feed] at hfits
    exact (Node.fits_input_iff hrole).mpr (agree_of_forall₂ hfits)
  | transform source function hrole =>
    rw [Node.fits_transform_iff hrole, Table.values_eq]
    exact hfits
  | batch source function hrole =>
    rw [Node.fits_batch_iff hrole]
    obtain ⟨group, rest, hgroup, hrest, rfl⟩ := List.forall₂_cons_left_iff.mp hfits
    rw [List.forall₂_nil_left_iff.mp hrest]
    exact ⟨group, rfl, hgroup⟩
  | combine left right item hrole hitem =>
    rw [Node.fits_combine_iff hrole]
    -- Retagging leaves the left values as they are.
    have hlive : (((tables left).items.map (Combine.retagged item)).filter Entry.isLive).map
        Entry.value = (tables left).values := by
      have hcongr : (tables left).items.filter (Entry.isLive ∘ Combine.retagged item)
          = (tables left).items.filter Entry.isLive :=
        List.filter_congr fun entry _ => Combine.isLive_retagged
      rw [List.filter_map, hcongr, List.map_map, Table.values_eq]
      exact List.map_congr_left fun entry _ => Combine.value_retagged
    rw [hlive] at hfits
    refine ⟨item.value, Table.values_of_single? hitem, hfits.imp ?_⟩
    rintro value group ⟨outputs, houtputs, hagree⟩
    cases houtputs
    exact hagree

section Makes

variable (hfounded : driver.Founded accepts id node)
  (hfollows : ∀ source ∈ node.sources, (tables source).Follows (driver.baseline source))

include hfounded

/-- A table that is written follows the baseline. -/
theorem aligned_of_written {equals : Value → Value → Bool} {groups : List (Group Value)}
    (hwritten : Written equals answers items ((driver.baseline id).groups.map Group.values)
      groups []) : Aligned equals (driver.baseline id) groups := by
  constructor
  · intro hempty
    rw [Table.groups_of_isEmpty hempty] at hwritten
    exact hwritten.added_of_nil
  · intro hempty
    obtain ⟨taken, htaken, hcontinues⟩ := hwritten.continues
    rw [List.append_nil] at htaken
    obtain ⟨kept, hkept⟩ := hfounded.isBaseline.exists_kept hempty
    rw [hkept, Table.map_values_kept] at htaken
    rw [hkept, Table.items_kept, List.map_map, htaken]
    have hvalues : taken.flatten.map (Entry.value ∘ fun value => ⟨value, .cached⟩)
        = taken.flatten := List.map_id _
    rwa [hvalues]

include hfollows

/-- A table that is written fits the tables of the sources. -/
theorem fits_of_written {groups : List (Group Value)}
    (haccepts : ∀ kept ∈ (driver.baseline id).values, ∀ current,
      (driver.comparer id node).equals kept current = true → accepts id kept current)
    (hfeeds : driver.Feeds tables id node items answers)
    (hfaults : ∀ source ∈ node.sources, (tables source).isFaulted = false)
    (hwritten : Written (driver.comparer id node).equals answers items
      ((driver.baseline id).groups.map Group.values) groups []) :
    node.Fits (accepts id) UserCode.MayYield (driver.valuesOf id) tables
      (Group.present groups) := by
  refine hfeeds.fits (hwritten.fits (fun kept hkept current => ?_) ?_)
  · exact haccepts kept (Draft.mem_values_of_pending _ kept hkept) current
  · exact hfeeds.backed hfounded hfollows hfaults

/-- What a node makes follows its baseline and fits the tables of its sources. -/
theorem advances_of_makes
    (haccepts : ∀ kept ∈ (driver.baseline id).values, ∀ current,
      (driver.comparer id node).equals kept current = true → accepts id kept current)
    (hmakes : driver.Makes tables id node product)
    (htable : tables id = product.resolve (driver.baseline id)) :
    driver.Advances accepts tables id node := by
  -- Of a faulted table nothing else is asked.
  have hcarries : ∀ fault, tables id = .faulted fault → driver.Advances accepts tables id node := by
    intro fault hfault
    constructor <;> rw [hfault]
    · trivial
    · intro h
      cases h
    · intro h
      cases h
  cases hmakes with
  | carried source fault hfirst hfault => exact hcarries fault htable
  | refused left right hrole hfaults hstale hsingle => exact hcarries _ htable
  | failed fault hfeeds hfaults hstale hfailed => exact hcarries fault htable
  | @written items answers groups hfeeds hfaults hstale hchanged hwritten =>
    have hgroups : tables id = .populated groups := htable
    constructor <;> rw [hgroups]
    · exact ⟨hwritten.tidy, aligned_of_written hfounded hwritten⟩
    · exact fun _ => hfaults
    · exact fun _ => fits_of_written hfounded hfollows haccepts hfeeds hfaults hwritten
  | reused hsources hcompacted hempty =>
    have hbaseline : tables id = driver.baseline id := htable
    -- No source changed, so what fits the baselines fits the tables.
    have hsame : ∀ source ∈ node.sources, driver.baseline source = tables source := by
      intro source hsource
      exact ((hfollows source hsource).eq_of_isCompacted (hcompacted source hsource)).symm
    cases hfounded with
    | fresh hfresh =>
      rw [hfresh] at hempty
      cases hempty
    | kept set groups hkept hclosed hfits =>
      rw [hkept] at hbaseline
      constructor
      · rw [hbaseline]
        exact hkept
      · intro _ source hsource
        exact Table.isFaulted_of_isCompacted (hcompacted source hsource)
      · intro _
        rw [hbaseline, Table.present_kept]
        exact hfits.congr (fun source hsource => by rw [hsame source hsource])
          fun hnone => absurd hnone hsources
  | @settled items answers groups hrole hfeeds hwritten hcached hempty =>
    have hbaseline : tables id = driver.baseline id := htable
    have hnone : node.sources = [] := Node.sources_of_role hrole
    have hfaults : ∀ source ∈ node.sources, (tables source).isFaulted = false := by
      simp [hnone]
    -- The table that was written is given up for the baseline. But both hold the same
    -- values, so the baseline agrees with the values set.
    have hnew := fits_of_written hfounded hfollows haccepts hfeeds hfaults hwritten
    have hvalues := hwritten.values_of_cached hcached
    rw [← Group.flatten_present hwritten.tidy] at hvalues
    cases hfounded with
    | fresh hfresh =>
      rw [hfresh] at hempty
      cases hempty
    | kept set old hkept hclosed hfits =>
      rw [hkept] at hbaseline hvalues
      rw [Table.map_values_kept] at hvalues
      constructor
      · rw [hbaseline]
        exact hkept
      · exact fun _ => hfaults
      · intro _
        rw [Node.fits_input_iff hrole] at hfits hnew ⊢
        rw [hbaseline, Table.present_kept]
        rw [hvalues] at hnew
        exact ⟨hnew.1, hfits.2⟩

end Makes

/-- What an advancing run leaves for the next one fits again. -/
theorem founded_of_advances {next : Driver σ}
    (hnext : ∀ source ∈ id :: node.sources, next.baseline source = (tables source).asCached)
    (hfollows : ∀ source ∈ id :: node.sources, (tables source).Follows (driver.baseline source))
    (hadvances : driver.Advances accepts tables id node) : next.Founded accepts id node := by
  have hbaseline := hnext id (by simp)
  cases hfault : (tables id).isFaulted with
  | true =>
    obtain ⟨fault, htable⟩ := Table.eq_faulted_of_isFaulted hfault
    rw [htable] at hbaseline
    exact .fresh hbaseline
  | false =>
    obtain ⟨hcached, -⟩ := (hfollows id (by simp)).asCached hfault
    -- Each source leaves the values that it has in this run.
    have hsources : ∀ source ∈ node.sources, (next.baseline source).isEmpty = false ∧
        (tables source).values = (next.baseline source).values := by
      intro source hsource
      obtain ⟨hkept, hvalues⟩ := (hfollows source (by simp [hsource])).asCached
        (hadvances.closed hfault source hsource)
      rw [hnext source (by simp [hsource]), hkept, hvalues, Table.values_kept]
      exact ⟨rfl, rfl⟩
    rw [hcached] at hbaseline
    exact .kept (driver.valuesOf id) _ hbaseline (fun source hsource => (hsources source hsource).1)
      ((hadvances.fits hfault).congr (fun source hsource => (hsources source hsource).2)
        fun _ => rfl)

end Driver

end DeltaPipeline
