import DeltaPipeline.Proofs.Sweep
import DeltaPipeline.Proofs.Writing
import Mathlib.Data.List.Find

/-!
# `DeltaPipeline.Proofs.Updates`: what a node makes of its sources

The update of a node of the library's own kinds is told by the items it writes groups
for and what it may answer for each (`Driver.Feeds`), and by how it ends: with its
baseline, a fault or a table (`Driver.Makes`).

* `Driver.ensures_updateNode`: an update makes what `Driver.Makes` says, where the items
  are enough to take all groups of the baseline.
* `Driver.Makes.congr`: only the tables of the sources matter.
-/

set_option autoImplicit false

namespace DeltaPipeline

variable {σ : Type}

namespace Driver

variable {driver : Driver σ} {tables : NodeId → Table Value} {id : NodeId} {node : Node σ}

/-- The values of an input in the next run. -/
def valuesOf (driver : Driver σ) (id : NodeId) : List Value :=
  (driver.inputs id).getD []

/-- The values of an input are asked for by the element type of its node, so none are
refused. -/
theorem inputValues_of_node? (hnode : driver.pipeline.node? id = some node) :
    driver.inputValues id node.element = .ok (driver.valuesOf id) := by
  have helement : driver.pipeline.element? id = some node.element := by
    rw [Pipeline.element?, hnode]
    rfl
  unfold inputValues valuesOf
  cases driver.inputs id with
  | none => rfl
  | some values => rw [helement]; simp

/-- The items a node writes groups for, and what it may answer for the value of an
item. -/
inductive Feeds (driver : Driver σ) (tables : NodeId → Table Value) (id : NodeId)
    (node : Node σ) :
    List (Entry Value) → (Value → Except Fault (List Value) → Prop) → Prop where
  | input : node.role = .input →
    Feeds driver tables id node
      (Input.feed (driver.baseline id).groups.length (driver.valuesOf id))
      (fun value answer => answer = .ok [value])
  | transform (source : NodeId) (function : Transform σ) :
    node.role = .transform source function →
    Feeds driver tables id node (tables source).items
      (fun value => (function.call value).MayGive)
  | batch (source : NodeId) (function : Reduction σ) : node.role = .batch source function →
    Feeds driver tables id node [⟨.list (tables source).values, .modified⟩]
      (fun _ => (function.call (tables source).values).MayGive)
  | combine (left right : NodeId) (item : Entry Value) : node.role = .combine left right →
    (tables right).single? = some item →
    Feeds driver tables id node ((tables left).items.map (Combine.retagged item))
      (fun value answer => answer = .ok [.pair value item.value])

/-- Is the node's baseline out of date? If no source changed, it is only where there is
nothing in it. -/
def Stale (driver : Driver σ) (tables : NodeId → Table Value) (id : NodeId)
    (node : Node σ) : Prop :=
  node.sources ≠ [] → (∀ source ∈ node.sources, (tables source).isCompacted = true) →
    (driver.baseline id).isEmpty = true

/-- What the update of a node may end with. -/
inductive Makes (driver : Driver σ) (tables : NodeId → Table Value) (id : NodeId)
    (node : Node σ) : Product → Prop where
  /-- no source changed -/
  | reused : node.sources ≠ [] → (∀ source ∈ node.sources, (tables source).isCompacted = true) →
    (driver.baseline id).isEmpty = false → Makes driver tables id node .unchanged
  /-- the values of an input were accepted in place of those before -/
  | settled {items : List (Entry Value)} {answers : Value → Except Fault (List Value) → Prop}
    {groups : List (Group Value)} :
    node.role = .input → Feeds driver tables id node items answers →
    Written (driver.comparer id node).equals answers items
      ((driver.baseline id).groups.map Group.values) groups [] →
    groups.all Group.isCached = true → (driver.baseline id).isEmpty = false →
    Makes driver tables id node .unchanged
  /-- the fault of the first source that has one -/
  | carried (source : NodeId) (fault : Fault) :
    node.sources.find? (fun source => (tables source).isFaulted) = some source →
    tables source = .faulted fault → Makes driver tables id node (.table (.faulted fault))
  /-- the right side of a combine is not a single item -/
  | refused (left right : NodeId) : node.role = .combine left right →
    (∀ source ∈ node.sources, (tables source).isFaulted = false) →
    driver.Stale tables id node → (tables right).single? = none →
    Makes driver tables id node (.table (.faulted
      ⟨.error (.invalidState (.rightNotSingle id (tables right).values.length)),
        .engine (driver.site id 0)⟩))
  /-- the node's function gave a fault -/
  | failed {items : List (Entry Value)} {answers : Value → Except Fault (List Value) → Prop}
    (fault : Fault) : Feeds driver tables id node items answers →
    (∀ source ∈ node.sources, (tables source).isFaulted = false) →
    driver.Stale tables id node →
    Failed (driver.comparer id node).equals answers items
      ((driver.baseline id).groups.map Group.values) fault →
    Makes driver tables id node (.table (.faulted fault))
  /-- a table was written, and all groups of the baseline were taken -/
  | written {items : List (Entry Value)} {answers : Value → Except Fault (List Value) → Prop}
    {groups : List (Group Value)} : Feeds driver tables id node items answers →
    (∀ source ∈ node.sources, (tables source).isFaulted = false) →
    driver.Stale tables id node →
    (node.role = .input → (driver.baseline id).isEmpty = false →
      groups.all Group.isCached = false) →
    Written (driver.comparer id node).equals answers items
      ((driver.baseline id).groups.map Group.values) groups [] →
    Makes driver tables id node (.table (.populated groups))

/-! ### Only the tables of the sources matter -/

/-- What feeds a node is read from its sources. -/
theorem Feeds.congr {tables' : NodeId → Table Value} {items : List (Entry Value)}
    {answers : Value → Except Fault (List Value) → Prop}
    (h : driver.Feeds tables id node items answers)
    (hsame : ∀ source ∈ node.sources, tables source = tables' source) :
    driver.Feeds tables' id node items answers := by
  cases h with
  | input hrole => exact .input hrole
  | transform source function hrole =>
    rw [hsame source (Node.mem_sources_of_transform hrole)]
    exact .transform source function hrole
  | batch source function hrole =>
    rw [hsame source (Node.mem_sources_of_batch hrole)]
    exact .batch source function hrole
  | combine left right item hrole hitem =>
    rw [hsame right (Node.right_mem_sources hrole)] at hitem
    rw [hsame left (Node.left_mem_sources hrole)]
    exact .combine left right item hrole hitem

/-- Whether a node is stale is read from its sources. -/
theorem Stale.congr {tables' : NodeId → Table Value} (h : driver.Stale tables id node)
    (hsame : ∀ source ∈ node.sources, tables source = tables' source) :
    driver.Stale tables' id node := fun hsources hcompacted =>
  h hsources fun source hsource => by
    rw [hsame source hsource]
    exact hcompacted source hsource

/-- What a node makes is read from its sources. -/
theorem Makes.congr {tables' : NodeId → Table Value} {product : Product}
    (h : driver.Makes tables id node product)
    (hsame : ∀ source ∈ node.sources, tables source = tables' source) :
    driver.Makes tables' id node product := by
  -- What is said of the tables of the sources alone carries over.
  have hsound : ∀ (P : Table Value → Prop), (∀ source ∈ node.sources, P (tables source)) →
      ∀ source ∈ node.sources, P (tables' source) := by
    intro P h source hsource
    rw [← hsame source hsource]
    exact h source hsource
  cases h with
  | reused hsources hcompacted hbaseline =>
    exact .reused hsources (hsound (·.isCompacted = true) hcompacted) hbaseline
  | settled hrole hfeeds hwritten hcached hbaseline =>
    exact .settled hrole (hfeeds.congr hsame) hwritten hcached hbaseline
  | carried source fault hfirst hfault =>
    have hmem := List.mem_of_find?_eq_some hfirst
    have hfind : node.sources.find? (fun source => (tables' source).isFaulted) = some source := by
      rw [← hfirst]
      exact List.find?_congr fun s hs => by rw [hsame s hs]
    exact .carried source fault hfind (by rw [← hsame source hmem]; exact hfault)
  | refused left right hrole hfaults hstale hsingle =>
    have hright := hsame right (Node.right_mem_sources hrole)
    rw [hright] at hsingle ⊢
    exact .refused left right hrole (hsound (·.isFaulted = false) hfaults) (hstale.congr hsame)
      hsingle
  | failed fault hfeeds hfaults hstale hfailed =>
    exact .failed fault (hfeeds.congr hsame) (hsound (·.isFaulted = false) hfaults)
      (hstale.congr hsame) hfailed
  | written hfeeds hfaults hstale hchanged hwritten =>
    exact .written (hfeeds.congr hsame) (hsound (·.isFaulted = false) hfaults)
      (hstale.congr hsame) hchanged hwritten

/-! ### The updates -/

section Updates

variable {holds : Ambient σ → Prop} {stops : Stop → Ambient σ → Prop} {a : Ambient σ}

/-- How an update from one source begins: the baseline is good if the source did not
change, and a fault of the source is carried on. -/
theorem ensures_of_source {source : NodeId} {rest : StepM σ Product}
    (ha : holds a) (hsources : node.sources = [source])
    (hrest : (∀ source ∈ node.sources, (tables source).isFaulted = false) →
      driver.Stale tables id node →
      Ensures rest a (fun product b => holds b ∧ driver.Makes tables id node product) stops) :
    Ensures (if (tables source).isCompacted && !(driver.baseline id).isEmpty then
        pure .unchanged
      else if (tables source).isFaulted then
        pure (.table ((tables source).carryFault (.engine (driver.site id 0))))
      else rest) a
      (fun product b => holds b ∧ driver.Makes tables id node product) stops := by
  by_cases hreuse : ((tables source).isCompacted && !(driver.baseline id).isEmpty) = true
  · rw [if_pos hreuse]
    simp only [Bool.and_eq_true, Bool.not_eq_true'] at hreuse
    exact Ensures.of_pure ⟨ha, .reused (by simp [hsources]) (by simpa [hsources] using hreuse.1)
      hreuse.2⟩
  rw [if_neg hreuse]
  by_cases hfaulted : (tables source).isFaulted = true
  · rw [if_pos hfaulted]
    obtain ⟨fault, htable⟩ := Table.eq_faulted_of_isFaulted hfaulted
    refine Ensures.of_pure ⟨ha, ?_⟩
    rw [htable]
    exact .carried source fault (by simp [hsources, hfaulted]) htable
  rw [if_neg hfaulted]
  -- The source has changed, or the node has no baseline to keep.
  refine hrest (by simpa [hsources] using hfaulted) fun _ hcompacted => ?_
  have hc : (tables source).isCompacted = true := hcompacted source (by simp [hsources])
  simpa [hc] using hreuse

variable (hsteady : Steady holds stops id (driver.comparer id node)
  (driver.baseline id).values node.role.Calls) (ha : holds a)

include hsteady ha

/-- An input makes what its values call for. -/
theorem ensures_input (hrole : node.role = .input) :
    Ensures (Input.update id (driver.comparer id node) (driver.baseline id)
        (driver.valuesOf id)) a
      (fun product b => holds b ∧ driver.Makes tables id node product) stops := by
  have hnone : node.sources = [] := Node.sources_of_role hrole
  refine Ensures.bind (Input.ensures_write hsteady _ _ (fun _ h => h) ha) ?_
  rintro table b ⟨hb, groups, rfl, hwritten⟩
  -- If every value set was accepted, the baseline stays as it is.
  by_cases hkeep : (!(driver.baseline id).isEmpty && groups.all Group.isCached) = true
  · show Ensures (pure (if (!(driver.baseline id).isEmpty && groups.all Group.isCached) = true
      then Product.unchanged else _)) b _ _
    rw [if_pos hkeep]
    simp only [Bool.and_eq_true, Bool.not_eq_true'] at hkeep
    exact Ensures.of_pure ⟨hb, .settled hrole (.input hrole) hwritten hkeep.2 hkeep.1⟩
  · show Ensures (pure (if (!(driver.baseline id).isEmpty && groups.all Group.isCached) = true
      then Product.unchanged else _)) b _ _
    rw [if_neg hkeep]
    refine Ensures.of_pure ⟨hb, .written (.input hrole) (by simp [hnone])
      (fun h => absurd hnone h) (fun _ hbaseline => ?_) hwritten⟩
    simpa [hbaseline] using hkeep

omit hsteady ha

/-- How an update ends that made a draft of the items fed to the node: with its table. -/
theorem ensures_table {items : List (Entry Value)}
    {answers : Value → Except Fault (List Value) → Prop} {draft : Draft Value}
    (hfeeds : driver.Feeds tables id node items answers) (hrole : node.role ≠ .input)
    (hfaults : ∀ source ∈ node.sources, (tables source).isFaulted = false)
    (hstale : driver.Stale tables id node)
    (hwrites : (Draft.against (driver.baseline id)).Writes (driver.comparer id node).equals
      answers items draft)
    (htaken : (driver.baseline id).groups.length ≤ (items.filter (!·.isAdded)).length)
    {b : Ambient σ} (hb : holds b) :
    Ensures (do return .table (← StepM.publish draft) : StepM σ Product) b
      (fun product c => holds c ∧ driver.Makes tables id node product) stops := by
  obtain ⟨groups, rfl, hwritten⟩ := hwrites.eq_of_length_le htaken
  refine Ensures.bind (I := fun table c => table = .populated groups ∧ holds c)
    (ensures_publish rfl rfl ⟨rfl, hb⟩) ?_
  rintro table c ⟨rfl, hc⟩
  exact Ensures.of_pure ⟨hc, .written hfeeds hfaults hstale (fun h => absurd h hrole) hwritten⟩

include hsteady

/-- How an update ends at a fault of the node's function. -/
theorem ensures_failWith {items : List (Entry Value)}
    {answers : Value → Except Fault (List Value) → Prop} {fault : Fault}
    (hfeeds : driver.Feeds tables id node items answers)
    (hfaults : ∀ source ∈ node.sources, (tables source).isFaulted = false)
    (hstale : driver.Stale tables id node)
    (hfailed : Failed (driver.comparer id node).equals answers items
      ((driver.baseline id).groups.map Group.values) fault)
    {b : Ambient σ} (hb : holds b) :
    Ensures (StepM.failWith id fault) b
      (fun product c => holds c ∧ driver.Makes tables id node product) stops := by
  refine hsteady.bind_check hb fun c hc => ?_
  refine hsteady.bind_record rfl hc fun d hd => ?_
  exact Ensures.of_pure ⟨hd, .failed fault hfeeds hfaults hstale hfailed⟩

include ha

/-- A transform makes what its items call for. -/
theorem ensures_transform {source : NodeId} {function : Transform σ}
    (hrole : node.role = .transform source function)
    (htaken : (tables source).isFaulted = false →
      (driver.baseline id).groups.length ≤ ((tables source).items.filter (!·.isAdded)).length) :
    Ensures (function.update (driver.site id 0) (driver.comparer id node) (driver.baseline id)
        (tables source)) a
      (fun product b => holds b ∧ driver.Makes tables id node product) stops := by
  have hsources : node.sources = [source] := Node.sources_of_role hrole
  have hcalls := Node.calls_of_transform hrole
  refine ensures_of_source ha hsources fun hfaults hstale => ?_
  have hfeeds : driver.Feeds tables id node _ _ := .transform source function hrole
  refine Ensures.bind
    (Transform.ensures_write hsteady hcalls _ (Draft.mem_values_of_pending _) ha) ?_
  rintro (fault | draft) b ⟨hb, hends⟩
  · exact ensures_failWith hsteady hfeeds hfaults hstale hends hb
  · refine hsteady.bind_check hb fun c hc => ?_
    exact ensures_table hfeeds (by simp [hrole]) hfaults hstale hends
      (htaken (hfaults source (by simp [hsources]))) hc

/-- The function of a batch node is called with all values at once. -/
theorem ensures_apply {source : NodeId} {function : Reduction σ}
    (hrole : node.role = .batch source function) (values : List Value) :
    Ensures (Batch.apply function id values) a
      (fun answer b => holds b ∧ (function.call values).MayGive answer) stops := by
  have hcall := Node.calls_of_batch hrole values
  have hinvoke := ensures_invoke hsteady (.list values) hcall ha
  cases function with
  | collect => exact Ensures.of_pure ⟨ha, a.env, a.env, rfl⟩
  | one f =>
    unfold Ensures
    rw [Batch.run_apply_one]
    exact hinvoke
  | many f => exact hinvoke

/-- A batch node makes what the values of its source call for. -/
theorem ensures_batch {source : NodeId} {function : Reduction σ}
    (hrole : node.role = .batch source function)
    (hsingle : (driver.baseline id).isEmpty = false → (driver.baseline id).groups.length = 1) :
    Ensures (Batch.update function (driver.site id 0) (driver.comparer id node)
        (driver.baseline id) (tables source)) a
      (fun product b => holds b ∧ driver.Makes tables id node product) stops := by
  have hsources : node.sources = [source] := Node.sources_of_role hrole
  refine ensures_of_source ha hsources fun hfaults hstale => ?_
  have hfeeds : driver.Feeds tables id node _ _ := .batch source function hrole
  refine Ensures.bind (ensures_apply hsteady ha hrole _) ?_
  rintro (fault | outputs) b ⟨hb, hgives⟩
  · exact ensures_failWith hsteady hfeeds hfaults hstale
      (failed_head [] rfl (by simp) hgives) hb
  refine hsteady.bind_check hb fun c hc => ?_
  unfold Batch.write
  -- Without a baseline the outputs are added. Otherwise they revise its only group.
  by_cases hempty : (driver.baseline id).isEmpty = true
  · rw [if_pos hempty]
    have hnil : (driver.baseline id).groups = [] := Table.groups_of_isEmpty hempty
    have hpending : (Draft.against (driver.baseline id)).pending = [] := by simp [hnil]
    exact ensures_table hfeeds (by simp [hrole]) hfaults hstale
      ((Draft.places_add (by simp) (.inr hpending) hgives).cons .nil) (by simp [hnil]) hc
  · have hone := hsingle (by simpa using hempty)
    rw [if_neg hempty, if_pos hone]
    refine Ensures.bind (ensures_reviseOrAdd hsteady (Draft.mem_values_of_pending _) outputs hc) ?_
    rintro draft d ⟨hd, rfl⟩
    exact ensures_table hfeeds (by simp [hrole]) hfaults hstale
      ((Draft.places_reviseOrAdd (by simp) (.inl rfl) hgives).cons .nil) hone.le hd

/-- A combining node makes what its left items call for, each with the single right item. -/
theorem ensures_combine {left right : NodeId} (hrole : node.role = .combine left right)
    (htaken : ∀ item, (tables right).single? = some item → (tables left).isFaulted = false →
      (tables right).isFaulted = false → (driver.baseline id).groups.length
        ≤ (((tables left).items.map (Combine.retagged item)).filter (!·.isAdded)).length) :
    Ensures (Combine.update (driver.site id 0) (driver.comparer id node) (driver.baseline id)
        (tables left) (tables right)) a
      (fun product b => holds b ∧ driver.Makes tables id node product) stops := by
  have hsources : node.sources = [left, right] := Node.sources_of_role hrole
  unfold Combine.update
  by_cases hreuse : ((tables left).isCompacted && (tables right).isCompacted
      && !(driver.baseline id).isEmpty) = true
  · rw [if_pos hreuse]
    simp only [Bool.and_eq_true, Bool.not_eq_true'] at hreuse
    exact Ensures.of_pure ⟨ha, .reused (by simp [hsources]) (by simpa [hsources] using hreuse.1)
      hreuse.2⟩
  rw [if_neg hreuse]
  -- If both sources failed, the fault of the left one is carried on.
  by_cases hleft : (tables left).isFaulted = true
  · rw [if_pos hleft]
    obtain ⟨fault, htable⟩ := Table.eq_faulted_of_isFaulted hleft
    refine Ensures.of_pure ⟨ha, ?_⟩
    rw [htable]
    exact .carried left fault (by simp [hsources, hleft]) htable
  rw [if_neg hleft]
  by_cases hright : (tables right).isFaulted = true
  · rw [if_pos hright]
    obtain ⟨fault, htable⟩ := Table.eq_faulted_of_isFaulted hright
    refine Ensures.of_pure ⟨ha, ?_⟩
    rw [htable]
    exact .carried right fault (by simp [hsources, hleft, hright]) htable
  rw [if_neg hright]
  have hfaults : ∀ source ∈ node.sources, (tables source).isFaulted = false := by
    simp [hsources, hleft, hright]
  have hstale : driver.Stale tables id node := by
    intro _ hcompacted
    have hl : (tables left).isCompacted = true := hcompacted left (by simp [hsources])
    have hr : (tables right).isCompacted = true := hcompacted right (by simp [hsources])
    simpa [hl, hr] using hreuse
  cases hitem : (tables right).single? with
  | none =>
    refine hsteady.bind_record rfl ha fun b hb => ?_
    exact Ensures.of_pure ⟨hb, .refused left right hrole hfaults hstale hitem⟩
  | some item =>
    refine Ensures.bind
      (Combine.ensures_write hsteady (tables left).items (Draft.mem_values_of_pending _) ha) ?_
    rintro draft b ⟨hb, hwrites⟩
    refine hsteady.bind_check hb fun c hc => ?_
    exact ensures_table (.combine left right item hrole hitem) (by simp [hrole]) hfaults hstale
      hwrites (htaken item hitem (by simpa using hleft) (by simpa using hright)) hc

/-- The update of a node makes what it may, if the items fed to it are enough to take all
groups of its baseline and the baseline of a batch is one group. -/
theorem ensures_updateNode (hnode : driver.pipeline.node? id = some node)
    (hbuiltIn : node.role.isBuiltIn = true)
    (htaken : ∀ items answers, driver.Feeds tables id node items answers →
      (∀ source ∈ node.sources, (tables source).isFaulted = false) →
      (driver.baseline id).groups.length ≤ (items.filter (!·.isAdded)).length)
    (hsingle : ∀ source function, node.role = .batch source function →
      (driver.baseline id).isEmpty = false → (driver.baseline id).groups.length = 1) :
    Ensures (driver.updateNode tables id node) a
      (fun product b => holds b ∧ driver.Makes tables id node product) stops := by
  refine hsteady.bind_check ha fun b hb => ?_
  refine hsteady.bind_record rfl hb fun c hc => ?_
  refine hsteady.bind_check hc fun d hd => ?_
  unfold updateFrom
  cases hrole : node.role with
  | input =>
    simp only [inputValues_of_node? hnode]
    exact ensures_input hsteady hd hrole
  | transform source function =>
    refine ensures_transform hsteady hd hrole fun hfault => ?_
    refine htaken _ _ (.transform source function hrole) ?_
    simpa [Node.sources, hrole, Role.sources] using hfault
  | batch source function =>
    exact ensures_batch hsteady hd hrole (hsingle source function hrole)
  | combine left right =>
    refine ensures_combine hsteady hd hrole fun item hitem hleft hright => ?_
    refine htaken _ _ (.combine left right item hrole hitem) ?_
    simpa [Node.sources, hrole, Role.sources] using ⟨hleft, hright⟩
  | custom name turns program =>
    rw [hrole] at hbuiltIn
    cases hbuiltIn

end Updates

end Driver

end DeltaPipeline
