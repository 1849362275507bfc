import DeltaPipeline.Proofs.Alignment

/-!
# `DeltaPipeline.Proofs.Positions`: an input is compared position by position

The baseline of an input has one group for each value that was set before. The update goes
through it in three loops: it revises groups by the values set, drops the groups that are left,
and adds the values that are left. What comes of this is the revision of the old values by the
new ones as two lists, each item of it in a group of its own. So the groups can be read off the
two lists position by position.

* `revised?`, `getElem?_revision`: a revision at one position.
* `Group.single`, `Input.revisedGroups`: the items of a revision in groups of their own.
* `Input.run_update`, `Driver.Makes.eq_product`: what the update of an input gives.
* `Input.ByPosition`, `Input.Lawful`: the law of this update.
* `Driver.lawful_after`: every input keeps to it in every run that completes.
* `Driver.input_by_position`: so does every update of an input, whatever the baseline holds.
-/

set_option autoImplicit false

namespace DeltaPipeline

/-! ### Revisions by position -/

section Revision

variable {α : Type} (equals : α → α → Bool)

/-- The item of a revision at a position, by the old and the new value there. -/
def revised? : Option α → Option α → Option (Entry α)
  | some previous, some current =>
    some (if equals previous current then ⟨previous, .cached⟩ else ⟨current, .modified⟩)
  | some previous, none => some ⟨previous, .removed⟩
  | none, some current => some ⟨current, .added⟩
  | none, none => none

/-- A revision goes position by position. -/
theorem getElem?_revision (old new : List α) (i : Nat) :
    (revision equals old new)[i]? = revised? equals old[i]? new[i]? := by
  induction old generalizing new i with
  | nil =>
    rw [revision_nil_left, List.getElem?_map, List.getElem?_nil]
    cases new[i]? <;> rfl
  | cons previous old ih =>
    cases new with
    | nil =>
      rw [revision_nil_right, List.getElem?_map, List.getElem?_nil]
      cases (previous :: old)[i]? <;> rfl
    | cons current new =>
      cases i with
      | zero => rfl
      | succ i => simpa [revision] using ih new i

/-- A revision is all cached exactly if the values are as many and each is accepted in place of
the old one. -/
theorem all_cached_revision_iff (old new : List α) :
    (revision equals old new).all (·.tag = .cached) = true
      ↔ List.Forall₂ (fun previous current => equals previous current = true) old new := by
  induction old generalizing new with
  | nil => cases new <;> simp
  | cons previous old ih =>
    cases new with
    | nil => simp
    | cons current new =>
      rw [List.forall₂_cons, ← ih new]
      by_cases he : equals previous current = true
      · simp [revision, he]
      · simp [revision, he]

end Revision

/-! ### Groups of one item -/

namespace Group

variable {α : Type}

/-- The group of one item. If the item is removed, so is the group. -/
def single (item : Entry α) : Group α where
  items := [item]
  removed := item.tag = .removed

/-- The group of one item is cached exactly if the item is. -/
@[simp] theorem isCached_single (item : Entry α) :
    (single item).isCached = decide (item.tag = .cached) := by
  obtain ⟨value, tag⟩ := item
  cases tag <;> simp [single, isCached]

/-- Of groups of one item each those of present items are left, and each holds one value. -/
theorem present_single (items : List (Entry Value)) :
    present (items.map single)
      = ((items.filter Entry.isLive).map Entry.value).map ([·]) := by
  induction items with
  | nil => rfl
  | cons item items ih =>
    obtain ⟨value, tag⟩ := item
    unfold present at ih ⊢
    cases tag <;> simp [single, Entry.isLive, values, ih]

end Group

/-! ### What an input writes -/

namespace Input

section Groups

variable (equals : Value → Value → Bool) {olds values : List Value}

/-- The groups of an input whose values were `olds` and are now `values`. -/
def revisedGroups (olds values : List Value) : List (Group Value) :=
  (revision equals olds values).map Group.single

/-- With no old values left the new ones are added. -/
theorem revisedGroups_nil_left (values : List Value) :
    revisedGroups equals [] values = values.map fun value => Group.tagged .added [value] := by
  simp [revisedGroups, Group.single, Group.tagged, Function.comp_def]

/-- With no new values left the old ones are dropped. -/
theorem revisedGroups_nil_right (olds : List Value) :
    revisedGroups equals olds [] = olds.map fun old => Group.dropped [old] := by
  simp [revisedGroups, Group.single, Group.dropped, Function.comp_def]

/-- Where there is an old value and a new one, their group is the revision of one by the
other. -/
theorem revisedGroups_cons_cons (old value : Value) :
    revisedGroups equals (old :: olds) (value :: values)
      = { items := revision equals [old] [value] } :: revisedGroups equals olds values := by
  unfold revisedGroups
  by_cases he : equals old value = true
  · simp [revision, he, Group.single]
  · simp [revision, he, Group.single]

/-- The groups are all as they were exactly if the values set are as many and each is accepted
in place of the old one. -/
theorem all_isCached_revisedGroups_iff :
    (revisedGroups equals olds values).all Group.isCached = true
      ↔ List.Forall₂ (fun old value => equals old value = true) olds values := by
  rw [← all_cached_revision_iff, revisedGroups, List.all_map]
  simp

/-- The values in the groups are those of the revision. -/
theorem values_revisedGroups (olds values : List Value) :
    (Table.populated (revisedGroups equals olds values)).values
      = ({ items := revision equals olds values } : Group Value).values := by
  have hitems : (Table.populated (revisedGroups equals olds values)).items
      = revision equals olds values := by
    simp [Table.items, Table.groups, revisedGroups, Group.single, List.flatMap_map]
  rw [Table.values_eq, hitems]
  rfl

/-- The groups leave the values that are present now. -/
theorem asCached_revisedGroups (olds values : List Value) :
    (Table.populated (revisedGroups equals olds values)).asCached
      = .kept ((((revision equals olds values).filter Entry.isLive).map Entry.value).map
        ([·])) := by
  rw [Table.asCached_populated, revisedGroups, Group.present_single]

/-- With no group to go by all values are to be added. -/
theorem feed_zero (values : List Value) : feed 0 values = values.map (⟨·, .added⟩) := by
  simp [feed]

/-- A group that no value is left for is to be removed. -/
theorem feed_succ_nil (groups : Nat) :
    feed (groups + 1) [] = ⟨.null, .removed⟩ :: feed groups [] := by
  simp [feed, List.replicate_succ]

/-- A value that there is a group for is to be compared with it. -/
theorem feed_succ_cons (groups : Nat) (value : Value) (values : List Value) :
    feed (groups + 1) (value :: values) = ⟨value, .modified⟩ :: feed groups values := by
  simp [feed, Nat.succ_min_succ]

/-- The groups that may be written for single values are these and no others. -/
theorem eq_revisedGroups_of_written {groups : List (Group Value)}
    (h : Written equals (fun value answer => answer = .ok [value]) (feed olds.length values)
      (olds.map ([·])) groups []) : groups = revisedGroups equals olds values := by
  induction olds generalizing values groups with
  | nil =>
    rw [List.length_nil, feed_zero] at h
    rw [revisedGroups_nil_left]
    induction values generalizing groups with
    | nil =>
      cases h
      rfl
    | cons value values ih =>
      cases h with
      | cons hfirst hrest =>
        cases hfirst with
        | added value tag outputs pending htag hadded houtputs =>
          cases houtputs
          rw [ih hrest]
          rfl
  | cons old olds ih =>
    cases values with
    | nil =>
      rw [List.length_cons, feed_succ_nil, List.map_cons] at h
      cases h with
      | cons hfirst hrest =>
        cases hfirst with
        | dropped value old rest =>
          rw [ih hrest, revisedGroups_nil_right, revisedGroups_nil_right]
          rfl
        | added value tag outputs pending htag hadded houtputs => exact absurd rfl htag
    | cons value values =>
      rw [List.length_cons, feed_succ_cons, List.map_cons] at h
      cases h with
      | cons hfirst hrest =>
        cases hfirst with
        | revised value old outputs rest houtputs =>
          cases houtputs
          rw [ih hrest, revisedGroups_cons_cons]
          rfl
        -- There is a group to compare with, so the value is not added.
        | added value tag outputs pending htag hadded houtputs => simp at hadded

/-- What the update of an input gives, if no comparison gives up. -/
def product (baseline : Table Value) (olds values : List Value) : Product :=
  let groups := revisedGroups equals olds values
  if !baseline.isEmpty && groups.all Group.isCached then .unchanged else .table (.populated groups)

end Groups

/-! ### The loops of an input -/

section Loops

variable {σ : Type} {comparer : Comparer σ} {olds values : List Value}

/-- The loops of an input, from where some groups are written. -/
theorem run_loops (node : NodeId) (hspares : ∀ pair ∈ olds.zip values, comparer.SparesRun pair)
    (groups : List (Group Value)) (a : Ambient σ) :
    (do
      let draft ← reviseEach node comparer (values.take (min olds.length values.length))
        { pending := olds.map ([·]), groups }
      StepM.publish (draft.dropAll.addEach (values.drop (min olds.length values.length))) :
      StepM σ (Table Value)).run.run a
      = match (comparer.effects (olds.zip values)).run.run a.env with
        | (.ok (), env) =>
          (.ok (.populated (groups ++ revisedGroups comparer.equals olds values)), { a with env })
        | (.error panic, env) => (.error (.panic panic), { a with env }) := by
  -- By induction on the positions that both have. Where one of the lists ends, nothing is left
  -- to compare, and the other is dropped or added as a whole.
  induction olds generalizing values groups a with
  | nil =>
    rw [List.length_nil, Nat.zero_min, List.take_zero, List.drop_zero, revisedGroups_nil_left]
    simp only [reviseEach, pure_bind, StepM.run_publish, Draft.addEach_eq]
    simp [Draft.dropAll, Draft.finalRemarks, Draft.finish]
  | cons old olds ih =>
    cases values with
    | nil =>
      rw [List.length_nil, Nat.min_zero, List.take_zero, List.drop_zero, revisedGroups_nil_right]
      simp only [reviseEach, pure_bind, StepM.run_publish, Draft.addEach_eq]
      simp [Draft.dropAll, Draft.finalRemarks, Draft.finish, Function.comp_def]
    | cons value values =>
      have hfirst := StepM.run_reviseOrAdd_of_spares node comparer
        { pending := [old] :: olds.map ([·]), groups } [value]
        (by simpa [Draft.comparisons] using hspares (old, value) (by simp)) a
      have hcomparisons : Draft.comparisons
          { pending := [old] :: olds.map ([·]), groups } [value] = [(old, value)] := rfl
      rw [hcomparisons, Comparer.run_effects_singleton] at hfirst
      have hrest := @ih values (fun pair hpair => hspares pair (by simp [hpair]))
        (groups ++ [{ items := revision comparer.equals [old] [value] }])
      simp only [List.append_assoc, List.singleton_append, ← revisedGroups_cons_cons] at hrest
      rw [List.length_cons, List.length_cons, Nat.add_min_add_right, List.take_succ_cons,
        List.drop_succ_cons, List.map_cons, List.zip_cons_cons, Comparer.run_effects_cons]
      simp only [reviseEach, bind_assoc]
      rw [StepM.run_bind, hfirst]
      -- The pair at this position is compared first, and it may end the update.
      rcases (comparer.effect old value).run.run a.env with ⟨panic | _, env⟩
      · rfl
      · exact hrest { a with env }

/-- What an input writes over a baseline of single values. -/
theorem run_write (node : NodeId) {baseline : Table Value}
    (hbaseline : baseline.groups.map Group.values = olds.map ([·]))
    (hspares : ∀ pair ∈ olds.zip values, comparer.SparesRun pair) (a : Ambient σ) :
    (write node comparer baseline values).run.run a
      = match (comparer.effects (olds.zip values)).run.run a.env with
        | (.ok (), env) =>
          (.ok (.populated (revisedGroups comparer.equals olds values)), { a with env })
        | (.error panic, env) => (.error (.panic panic), { a with env }) := by
  have hlength : baseline.groups.length = olds.length := by
    simpa using congrArg List.length hbaseline
  unfold write Draft.against
  rw [hbaseline, hlength]
  exact run_loops node hspares [] a

/-- The update of an input over a baseline of single values ends with its product, or as the
first comparison does that gives up. As no comparison cancels the run, only the host's own state
may change. -/
theorem run_update (node : NodeId) {baseline : Table Value}
    (hbaseline : baseline.groups.map Group.values = olds.map ([·]))
    (hspares : ∀ pair ∈ olds.zip values, comparer.SparesRun pair) (a : Ambient σ) :
    (update node comparer baseline values).run.run a
      = match (comparer.effects (olds.zip values)).run.run a.env with
        | (.ok (), env) => (.ok (product comparer.equals baseline olds values), { a with env })
        | (.error panic, env) => (.error (.panic panic), { a with env }) := by
  unfold update
  rw [StepM.run_bind, run_write node hbaseline hspares]
  rcases (comparer.effects (olds.zip values)).run.run a.env with ⟨panic | _, env⟩ <;> rfl

end Loops

/-! ### The law of an input -/

/-- The groups are those of old values and new ones, position by position. -/
structure ByPosition (equals : Value → Value → Bool) (olds values : List Value)
    (groups : List (Group Value)) : Prop where
  /-- There is a group at each position that the old or the new values have. -/
  length_eq : groups.length = max olds.length values.length
  /-- Each group has one item. -/
  single : ∀ group ∈ groups, group.items.length = 1
  /-- At a position that both have, the old value is kept if the new one is accepted in its
  place, and otherwise the new one is put there. -/
  shared : ∀ (i : Nat) (old value : Value), olds[i]? = some old → values[i]? = some value →
    groups[i]? = some (if equals old value then Group.tagged .cached [old]
      else Group.tagged .modified [value])
  /-- Such a position is never one of a removed or an added item. -/
  continued : ∀ (i : Nat) (group : Group Value), i < min olds.length values.length →
    groups[i]? = some group → group.removed = false ∧
      ∀ item ∈ group.items, item.tag ≠ .removed ∧ item.tag ≠ .added
  /-- An old value beyond the new ones is removed, and its group is flagged so. -/
  dropped : ∀ (i : Nat) (old : Value), values.length ≤ i → olds[i]? = some old →
    groups[i]? = some (Group.dropped [old])
  /-- A new value beyond the old ones is added. -/
  added : ∀ (i : Nat) (value : Value), olds.length ≤ i → values[i]? = some value →
    groups[i]? = some (Group.tagged .added [value])

/-- The law of the update of an input over a baseline that holds `olds`, with `values` set. -/
structure Lawful (equals : Value → Value → Bool) (baseline : Table Value)
    (olds values : List Value) (product : Product) : Prop where
  /-- The baseline itself is given exactly if there is one, the values are as many as before,
  and each is accepted in place of the old one. -/
  unchanged_iff : product = .unchanged ↔ baseline.isEmpty = false ∧
    List.Forall₂ (fun old value => equals old value = true) olds values
  /-- Otherwise a new table is given, position by position. -/
  written : product ≠ .unchanged →
    ∃ groups, product = .table (.populated groups) ∧ ByPosition equals olds values groups
  /-- Either way the next run finds a group of one value for each value set. -/
  leaves : ∃ news : List Value, news.length = values.length ∧
    (product.resolve baseline).asCached = .kept (news.map ([·]))

section Law

variable {equals : Value → Value → Bool} {baseline : Table Value} {olds values : List Value}

/-- The group at a position is told by the two values there. -/
theorem getElem?_revisedGroups (i : Nat) :
    (revisedGroups equals olds values)[i]?
      = (revised? equals olds[i]? values[i]?).map Group.single := by
  rw [revisedGroups, List.getElem?_map, getElem?_revision]

/-- Where there is a value before and after, the comparer decides which one stands there. -/
theorem getElem?_revisedGroups_shared {i : Nat} {old value : Value} (hold : olds[i]? = some old)
    (hvalue : values[i]? = some value) :
    (revisedGroups equals olds values)[i]?
      = some (if equals old value then Group.tagged .cached [old]
        else Group.tagged .modified [value]) := by
  rw [getElem?_revisedGroups, hold, hvalue, revised?]
  by_cases he : equals old value = true
  · simp [he, Group.single, Group.tagged]
  · simp [he, Group.single, Group.tagged]

/-- What an input writes goes position by position. -/
theorem byPosition_revisedGroups (equals : Value → Value → Bool) (olds values : List Value) :
    ByPosition equals olds values (revisedGroups equals olds values) where
  length_eq := by rw [revisedGroups, List.length_map, length_revision]
  single := by
    intro group hgroup
    obtain ⟨item, -, rfl⟩ := List.mem_map.mp hgroup
    rfl
  shared := fun _ _ _ => getElem?_revisedGroups_shared
  continued := by
    intro i group hi hgroup
    have hold : i < olds.length := by omega
    have hvalue : i < values.length := by omega
    rw [getElem?_revisedGroups_shared (List.getElem?_eq_getElem hold)
      (List.getElem?_eq_getElem hvalue), Option.some.injEq] at hgroup
    subst hgroup
    split <;> simp [Group.tagged]
  dropped := by
    intro i old hi hold
    rw [getElem?_revisedGroups, hold, List.getElem?_eq_none hi]
    simp [revised?, Group.single, Group.dropped]
  added := by
    intro i value hi hvalue
    rw [getElem?_revisedGroups, hvalue, List.getElem?_eq_none hi]
    simp [revised?, Group.single, Group.tagged]

/-- The baseline is given if it holds something and the groups would all be as they were. -/
theorem product_eq_unchanged_iff :
    product equals baseline olds values = .unchanged ↔ baseline.isEmpty = false ∧
      List.Forall₂ (fun old value => equals old value = true) olds values := by
  rw [← all_isCached_revisedGroups_iff]
  show (if !baseline.isEmpty && (revisedGroups equals olds values).all Group.isCached then
    Product.unchanged else .table (.populated (revisedGroups equals olds values))) = _ ↔ _
  split
  · next hkept => simpa using hkept
  · next hkept => simpa using hkept

/-- An input that does not keep its table makes one of the revised groups. -/
theorem product_of_ne_unchanged (h : product equals baseline olds values ≠ .unchanged) :
    product equals baseline olds values = .table (.populated (revisedGroups equals olds values)) :=
  (ite_eq_or_eq _ _ _).resolve_left h

end Law

end Input

/-! ### Baselines of single values -/

/-- The baseline holds these values in groups of their own. A node without a baseline has an
empty one. -/
inductive Table.HoldsSingly : Table Value → List Value → Prop where
  | nothing : HoldsSingly .empty []
  | singles (values : List Value) : HoldsSingly (.kept (values.map ([·]))) values

namespace Table.HoldsSingly

variable {equals : Value → Value → Bool} {baseline : Table Value} {olds values : List Value}

/-- Each group holds one of the values. -/
theorem map_values (h : baseline.HoldsSingly olds) :
    baseline.groups.map Group.values = olds.map ([·]) := by
  cases h with
  | nothing => rfl
  | singles => rw [map_values_kept]

/-- What the update of an input gives obeys its law. -/
theorem lawful (h : baseline.HoldsSingly olds) :
    Input.Lawful equals baseline olds values (Input.product equals baseline olds values) where
  unchanged_iff := Input.product_eq_unchanged_iff
  written := fun hne =>
    ⟨_, Input.product_of_ne_unchanged hne, Input.byPosition_revisedGroups equals olds values⟩
  leaves := by
    by_cases hunchanged : Input.product equals baseline olds values = .unchanged
    · -- The baseline goes on as it is, with as many values as are set.
      obtain ⟨hempty, hall⟩ := Input.product_eq_unchanged_iff.mp hunchanged
      rw [hunchanged]
      cases h with
      | nothing => cases hempty
      | singles => exact ⟨olds, hall.length_eq, rfl⟩
    · rw [Input.product_of_ne_unchanged hunchanged]
      refine ⟨_, ?_, Input.asCached_revisedGroups equals olds values⟩
      rw [List.length_map, length_live_revision]

/-- The values that an input has then are those set, or were accepted in their place. -/
theorem agree (h : baseline.HoldsSingly olds) :
    Agree (fun old value => equals old value = true) values
      ((Input.product equals baseline olds values).resolve baseline).values := by
  by_cases hunchanged : Input.product equals baseline olds values = .unchanged
  · obtain ⟨hempty, hall⟩ := Input.product_eq_unchanged_iff.mp hunchanged
    rw [hunchanged]
    cases h with
    | nothing => cases hempty
    | singles =>
      show Agree _ values (kept _).values
      rw [values_kept, ← List.flatMap_def, List.flatMap_singleton']
      exact hall.flip.imp fun _ _ => .inr
  · rw [Input.product_of_ne_unchanged hunchanged]
    show Agree _ values (populated _).values
    rw [Input.values_revisedGroups]
    exact agree_revision equals olds values fun _ _ _ => id

end Table.HoldsSingly

namespace Driver

variable {σ : Type} {driver : Driver σ} {accepts : NodeId → Value → Value → Prop}
  {tables : NodeId → Table Value} {id : NodeId} {node : Node σ} {product : Product}

/-! ### Inputs in a run -/

/-- Lists of one value each are made of the values that they hold together. -/
theorem eq_map_flatten_of_length_eq_one {groups : List (List Value)}
    (h : ∀ group ∈ groups, group.length = 1) : groups = groups.flatten.map ([·]) := by
  induction groups with
  | nil => rfl
  | cons group groups ih =>
    obtain ⟨value, rfl⟩ := List.length_eq_one_iff.mp (h group List.mem_cons_self)
    rw [List.flatten_cons, List.map_append, ← ih fun g hg => h g (List.mem_cons_of_mem _ hg)]
    rfl

/-- The baseline of an input holds single values. -/
theorem Founded.holdsSingly (h : driver.Founded accepts id node) (hrole : node.role = .input) :
    (driver.baseline id).HoldsSingly (driver.baseline id).values := by
  cases h with
  | fresh hfresh =>
    rw [hfresh]
    exact .nothing
  | kept set groups hkept hclosed hfits =>
    have hsingles := eq_map_flatten_of_length_eq_one ((Node.fits_input_iff hrole).mp hfits).2
    rw [hkept, Table.values_kept]
    nth_rewrite 1 [hsingles]
    exact .singles _

/-- What an input is fed are the values set. -/
theorem Feeds.of_input {items : List (Entry Value)}
    {answers : Value → Except Fault (List Value) → Prop}
    (h : driver.Feeds tables id node items answers) (hrole : node.role = .input) :
    items = Input.feed (driver.baseline id).groups.length (driver.valuesOf id) ∧
      answers = fun value answer => answer = .ok [value] := by
  cases h with
  | input _ => exact ⟨rfl, rfl⟩
  | transform source function hother =>
    rw [hrole] at hother
    cases hother
  | batch source function hother =>
    rw [hrole] at hother
    cases hother
  | combine left right item hother hitem =>
    rw [hrole] at hother
    cases hother

/-- An input makes its product of the values that its baseline holds and those set. -/
theorem Makes.eq_product (h : driver.Makes tables id node product)
    (hfounded : driver.Founded accepts id node) (hrole : node.role = .input) :
    product = Input.product (driver.comparer id node).equals (driver.baseline id)
      (driver.baseline id).values (driver.valuesOf id) := by
  have hnone : node.sources = [] := Node.sources_of_role hrole
  -- The baseline holds single values, so there is only one way to write the groups.
  have hgroups : ∀ {items answers groups}, driver.Feeds tables id node items answers →
      Written (driver.comparer id node).equals answers items
        ((driver.baseline id).groups.map Group.values) groups [] →
      groups = Input.revisedGroups (driver.comparer id node).equals (driver.baseline id).values
        (driver.valuesOf id) := by
    intro items answers groups hfeeds hwritten
    obtain ⟨rfl, rfl⟩ := hfeeds.of_input hrole
    have hvalues := (hfounded.holdsSingly hrole).map_values
    have hlength := congrArg List.length hvalues
    rw [List.length_map, List.length_map] at hlength
    rw [hvalues, hlength] at hwritten
    exact Input.eq_revisedGroups_of_written _ hwritten
  cases h with
  | reused hsources hcompacted hempty => exact absurd hnone hsources
  | settled _ hfeeds hwritten hall hempty =>
    rw [hgroups hfeeds hwritten, Input.all_isCached_revisedGroups_iff] at hall
    exact (Input.product_eq_unchanged_iff.mpr ⟨hempty, hall⟩).symm
  | carried source fault hfirst hfault =>
    rw [hnone] at hfirst
    cases hfirst
  | refused left right hother hfaults hstale hsingle =>
    rw [hrole] at hother
    cases hother
  | failed fault hfeeds hfaults hstale hfailed =>
    obtain ⟨rfl, rfl⟩ := hfeeds.of_input hrole
    obtain ⟨before, item, rest, groups, left, -, -, -, -, hgives⟩ := hfailed
    cases hgives
  | written hfeeds hfaults hstale hchanged hwritten =>
    rw [hgroups hfeeds hwritten] at hchanged ⊢
    refine (Input.product_of_ne_unchanged fun hunchanged => ?_).symm
    -- The baseline would have been kept if nothing had changed.
    obtain ⟨hempty, haccepted⟩ := Input.product_eq_unchanged_iff.mp hunchanged
    have hall := (Input.all_isCached_revisedGroups_iff _).mpr haccepted
    rw [hchanged hrole hempty] at hall
    cases hall

/-- Whatever was done to a driver before: the baseline of an input holds single values, and in
a run that completes the table of the input is what its law says for these and the values set,
by the comparer of this run. -/
theorem lawful_after {pipeline : Pipeline σ} (hbuiltIn : pipeline.IsBuiltIn) (tracksSteps : Bool)
    (ops : List (Operation σ)) (env : Env σ) (hnode : pipeline.node? id = some node)
    (hrole : node.role = .input) :
    let driver := (fresh pipeline tracksSteps).after ops
    let olds := (driver.baseline id).values
    (driver.baseline id).HoldsSingly olds ∧
      ∀ report, (driver.run env).result = .ok report →
        ∃ product, report.find? id = some (product.resolve (driver.baseline id)) ∧
          Input.Lawful (driver.comparer id node).equals (driver.baseline id) olds
            (driver.valuesOf id) product := by
  intro driver olds
  have hpipeline : driver.pipeline = pipeline := pipeline_after ops
  have hcoherent : driver.Coherent fun _ _ _ => True :=
    coherent_of_history hbuiltIn tracksSteps ops
  have hnode' : driver.pipeline.node? id = some node := hpipeline ▸ hnode
  have hfounded := hcoherent id node hnode'
  have hbaseline := hfounded.holdsSingly hrole
  refine ⟨hbaseline, fun report hrun => ?_⟩
  obtain ⟨hcompletes, -, -⟩ :=
    completes_of_run (hpipeline ▸ hbuiltIn) hcoherent (admits_true driver) hrun
  -- What the run found for the input is made from its baseline and the values set.
  obtain ⟨product, hmakes, htable⟩ := (hcompletes.computes id node hnode').makes
  refine ⟨product, ?_, ?_⟩
  · rw [← htable]
    exact hcompletes.find?_eq_some hnode'
  · rw [hmakes.eq_product hfounded hrole]
    exact hbaseline.lawful

/-! ### A single update of an input -/

/-- In a run that nobody cancelled, an input checks for that, reads its values and is updated by
them. It pulls no other node. -/
theorem run_update_of_input (pull : NodeId → RunM σ Computed) {s : Scratch σ}
    {values : List Value} (hrole : node.role = .input)
    (hlive : s.ambient.env.cancelled = false)
    (hvalues : driver.inputValues id node.element = .ok values) :
    (driver.update pull id node).run.run s
      = (RunM.step (Input.update id (driver.comparer id node) (driver.baseline id) values)).run.run
        s := by
  have hcheck : (RunM.step StepM.check : RunM σ Unit).run.run s = (.ok (), s) := by
    rw [RunM.run_step, StepM.run_check, hlive]
    rfl
  unfold update
  simp only [hrole, hvalues]
  rw [Stoppable.run_bind, hcheck]

/-- The update of an input in a run that nobody cancelled, if comparing the values at the
positions that both have cancels it neither. It gives what its law says for the values that the
baseline holds and those that are set, and changes nothing but the host's own state, as comparing
does. If a comparison gives up, the update ends as the first one does that gives up. -/
theorem input_by_position (driver : Driver σ) (pull : NodeId → RunM σ Computed) (id : NodeId)
    (node : Node σ) (s : Scratch σ) (olds values : List Value) (hrole : node.role = .input)
    (hlive : s.ambient.env.cancelled = false)
    (hvalues : driver.inputValues id node.element = .ok values)
    (hbaseline : (driver.baseline id).HoldsSingly olds)
    (hspares : ∀ pair ∈ olds.zip values, (driver.comparer id node).SparesRun pair) :
    let comparer := driver.comparer id node
    let ran := (driver.update pull id node).run.run s
    let compared := (comparer.effects (olds.zip values)).run.run s.ambient.env
    let after := { s with ambient := { s.ambient with env := compared.2 } }
    (compared.1 = .ok () → ∃ product, ran = (.ok product, after) ∧
        Input.Lawful comparer.equals (driver.baseline id) olds values product) ∧
      ∀ panic, compared.1 = .error panic → ran = (.error (.panic panic), after) := by
  intro comparer ran compared after
  have hran : ran = (RunM.step (Input.update id comparer (driver.baseline id) values)).run.run s :=
    run_update_of_input pull hrole hlive hvalues
  rw [RunM.run_step, Input.run_update id hbaseline.map_values hspares] at hran
  have hcompared : (comparer.effects (olds.zip values)).run.run s.ambient.env
    = (compared.1, compared.2) := rfl
  refine ⟨fun hok => ⟨_, ?_, hbaseline.lawful⟩, fun panic hpanic => ?_⟩
  · rw [hran, hcompared, hok]
  · rw [hran, hcompared, hpanic]

end Driver

/-! ### A small case -/

namespace Sample

/-- Accepts any truth value in place of any other, and nothing else. -/
def anyTruth : Comparer Unit where
  equals
    | .bool _, .bool _ => true
    | _, _ => false

/-- A driver whose input held three values and is now set to two. -/
def shrunk : Driver Unit where
  pipeline := pipeline
  baselines := [(⟨0⟩, .kept [[.bool true], [.null], [.bool false]])]
  inputs := NodeId.update (fun _ => none) ⟨0⟩ (some [.bool false, .bool true])
  overrides := NodeId.update (fun _ => none) ⟨0⟩ (some anyTruth)

/-- A run that just began. -/
def begun : Scratch Unit where
  ambient := { env := ⟨(), false⟩ }

/-- What is written: the first value is kept although another one is set, the second is not
accepted, and the third has none in its place. -/
def rewritten : List (Group Value) :=
  [Group.tagged .cached [.bool true], Group.tagged .modified [.bool true],
    Group.dropped [.bool false]]

end Sample

/-- The input of the small driver has a group at each of the three positions. -/
theorem Driver.input_by_position_sample :
    Sample.begun.ambient.env.cancelled = false ∧
      Sample.shrunk.inputValues ⟨0⟩ .value = .ok [.bool false, .bool true] ∧
      (Sample.shrunk.baseline ⟨0⟩).HoldsSingly [.bool true, .null, .bool false] ∧
      (∀ pair ∈ List.zip [.bool true, .null, .bool false] [.bool false, .bool true],
        Sample.anyTruth.SparesRun pair) ∧
      Input.Lawful Sample.anyTruth.equals (Sample.shrunk.baseline ⟨0⟩)
        [.bool true, .null, .bool false] [.bool false, .bool true]
        (.table (.populated Sample.rewritten)) := by
  have hbaseline : (Sample.shrunk.baseline ⟨0⟩).HoldsSingly [.bool true, .null, .bool false] :=
    .singles [.bool true, .null, .bool false]
  have hspares : ∀ pair ∈ List.zip [.bool true, .null, .bool false] [.bool false, .bool true],
      Sample.anyTruth.SparesRun pair := fun _ _ _ => rfl
  have h := Driver.input_by_position Sample.shrunk (fun _ => throw .tooDeep) ⟨0⟩
    ⟨.input, .structural, .value⟩ Sample.begun _ _ rfl rfl rfl hbaseline hspares
  obtain ⟨product, hrun, hlawful⟩ := h.1 rfl
  have hproduct : product = .table (.populated Sample.rewritten) :=
    (Except.ok.inj (congrArg Prod.fst hrun)).symm
  rw [hproduct] at hlawful
  exact ⟨rfl, rfl, hbaseline, hspares, hlawful⟩

end DeltaPipeline
