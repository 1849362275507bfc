import DeltaPipeline.Proofs.Parallel
import DeltaPipeline.Proofs.Traces

/-!
# `DeltaPipeline.Proofs.Pairing`: a combine is a transform that pairs

A combine has one right value for all of its left values, so it does what a transform
does whose function pairs a value with that one. What differs is when a left item counts
as it was: where the right item changed, no pair did, so the transform is given the left
items with the cached ones as modified ones.

The two loops are written apart and fall back in different ways. Where no group of the
baseline is left to keep, a combine asks for a revision, which finds none to revise and
adds the pair; a transform calls its function and adds the output.

* `Combine.pairing`: the function of that transform.
* `Combine.alike_pairing`: one left item in both loops.
* `Combine.alike_write_pairing`: the two loops side by side.
* `Combine.update_eq_pairing`: both updates give the same table.
-/

set_option autoImplicit false

namespace DeltaPipeline.Combine

variable {σ : Type}

/-- Pairs each value with the value `right`. -/
def pairing (right : Value) : Transform σ :=
  .select fun left => return .ok (.pair left right)

/-- Pairing neither reads nor changes the environment. -/
theorem run_call_pairing (right left : Value) (env : Env σ) :
    ((pairing right).call left).run.run env = (.ok (.ok [.pair left right]), env) := rfl

/-! ### The two loops -/

section Loops

variable {node : NodeId} {comparer : Comparer σ}

/-- The two runs are in the same environment. Their journals differ: a combine calls no
function. -/
def SameEnv (a a' : Ambient σ) : Prop :=
  a.env = a'.env

/-- The steps of a combine do the same in the same environment. It runs no user code but the
comparer. -/
theorem parallel_sameEnv (node : NodeId) (comparer : Comparer σ) :
    Parallel Origin.forget (SameEnv (σ := σ)) (fun _ => True) node comparer (fun _ => False) where
  cancelled_eq := fun _ _ henv => congrArg Env.cancelled henv
  stops_of_cancelled := fun _ _ _ _ => trivial
  note := fun _ _ _ _ _ _ henv => henv
  perform := fun _ hcalls => hcalls.elim
  compare := by
    intro previous current a a' henv
    rw [StepM.run_observeOne, StepM.run_observeOne]
    -- What comparing does to the environment does not depend on the journal.
    have hsame : a.env = a'.env := henv
    rw [← hsame]
    have hafter : ∀ env, SameEnv (StepM.watched node .comparer a.env { a with env })
        (StepM.watched node .comparer a.env { a' with env }) := by
      intro env
      rw [SameEnv, StepM.env_watched, StepM.env_watched]
    rcases (comparer.effect previous current).run.run a.env with ⟨panic | _, env⟩
    · exact .stopped trivial (hafter env)
    · exact .answered trivial (hafter env)

/-- A call of the pairing function is nothing to a run that makes none. -/
theorem alike_invoke_pairing {α β : Type} {same : α → β → Prop} {m : StepM σ α}
    {f : Except Fault (List Value) → StepM σ β} (right left : Value)
    (h : Alike SameEnv (fun _ => True) same m (f (.ok [.pair left right]))) :
    Alike SameEnv (fun _ => True) same m
      (StepM.invoke node left ((pairing right).call left) >>= f) := by
  intro a a' henv
  unfold StepM.invoke
  rw [StepM.run_bind, StepM.run_bind, StepM.run_record]
  simp only [StepM.run_perform, run_call_pairing]
  -- What is left of the call is its entry in the journal.
  refine h a _ (Eq.trans henv ?_)
  rw [StepM.env_watched]
  rfl

/-- With no group left, revising adds. -/
theorem reviseOrAdd_of_pending_nil {draft : Draft Value} (hpending : draft.pending = [])
    (values : List Value) :
    (StepM.reviseOrAdd node comparer draft values : StepM σ (Draft Value))
      = pure (draft.add values .added) := by
  have hcomparisons : draft.comparisons values = [] := by simp [Draft.comparisons, hpending]
  have hadd : draft.reviseOrAdd comparer.equals values = draft.add values .added := by
    rw [Draft.reviseOrAdd, (draft.revise?_eq_none_iff _ _).mpr hpending]
    rfl
  unfold StepM.reviseOrAdd
  rw [hcomparisons, hadd]
  rfl

/-- Where a combine revises by the pair, the transform has a modified item. -/
theorem alike_revise_pairing (right value : Value) (draft : Draft Value) :
    Alike SameEnv (fun _ => True) (fun next result => result = .ok next)
      (StepM.reviseOrAdd node comparer draft [.pair value right] : StepM σ (Draft Value))
      ((pairing right).recompute node comparer ⟨value, .modified⟩ draft) := by
  refine alike_invoke_pairing right value ?_
  exact ((parallel_sameEnv node comparer).reviseOrAdd draft _).rewrite fun _ _ hnext => by
    rw [hnext]

/-- Where a combine adds the pair, so does the transform. -/
theorem alike_add_pairing (right : Value) (item : Entry Value) (draft : Draft Value)
    (htag : item.tag ≠ .modified) :
    Alike SameEnv (fun _ => True) (fun next result => result = .ok next)
      (pure (draft.add [.pair item.value right] .added) : StepM σ (Draft Value))
      ((pairing right).recompute node comparer item draft) := by
  refine alike_invoke_pairing right item.value ?_
  simp only [htag, if_false]
  exact .of_pure rfl

/-- Both loops write the same for a left item. -/
theorem alike_pairing (right left : Entry Value) (draft : Draft Value) :
    Alike SameEnv (fun _ => True) (fun next result => result = .ok next)
      (visit node comparer right left draft : StepM σ (Draft Value))
      ((pairing right.value).visit node comparer (retagged right left) draft) := by
  obtain ⟨value, tag⟩ := left
  unfold visit Transform.visit retagged
  cases tag with
  | removed =>
    simp only [reduceCtorEq, and_false, if_false]
    exact .of_pure rfl
  | added => simpa using alike_add_pairing right.value ⟨value, .added⟩ draft (by simp)
  | modified => simpa using alike_revise_pairing right.value value draft
  | cached =>
    by_cases hright : right.tag = .cached
    · simp only [hright, ne_eq, not_true_eq_false, false_and, if_false]
      cases hkeep : draft.keep? with
      | some kept => exact .of_pure rfl
      | none =>
        -- No group is left, so the combine finds none to revise and the transform adds.
        have hnil := draft.keep?_eq_none_iff.mp hkeep
        simp only [reviseOrAdd_of_pending_nil hnil]
        exact alike_add_pairing right.value ⟨value, .cached⟩ draft (by simp)
    · -- The right item is not as it was, so no pair counts as kept.
      simp only [hright, ne_eq, not_false_eq_true, true_and, if_true]
      cases hr : right.tag with
      | cached => exact absurd hr hright
      | added => exact alike_revise_pairing right.value value draft
      | modified => exact alike_revise_pairing right.value value draft
      | removed => exact alike_revise_pairing right.value value draft

/-- The two loops do the same. -/
theorem alike_write_pairing (right : Entry Value) (lefts : List (Entry Value))
    (draft : Draft Value) :
    Alike SameEnv (fun _ => True) (fun next result => result = .ok next)
      (write node comparer right lefts draft : StepM σ (Draft Value))
      ((pairing right.value).write node comparer (lefts.map (retagged right)) draft) := by
  -- Both loops check before each item, so they stop at the same one if the run is cancelled.
  induction lefts generalizing draft with
  | nil => exact .of_pure rfl
  | cons left lefts ih =>
    refine (parallel_sameEnv node comparer).check.bind fun _ _ _ => ?_
    refine (alike_pairing right left draft).bind ?_
    rintro next result rfl
    exact ih next

end Loops

/-! ### The updates -/

section Updates

variable {comparer : Comparer σ} {baseline left right source : Table Value} {item : Entry Value}

/-- Both updates end alike, the transform's from a source with the left items. -/
theorem alike_update_pairing (site : Site) (hleft : left.isFaulted = false)
    (hright : right.isFaulted = false) (hitem : right.single? = some item)
    (hdue : (left.isCompacted && right.isCompacted && !baseline.isEmpty) = false)
    (hitems : source.items = left.items.map (retagged item)) (hsource : source.isFaulted = false)
    (hfresh : source.isCompacted = false) :
    Alike (SameEnv (σ := σ)) (fun _ => True) Eq (update site comparer baseline left right)
      ((pairing item.value).update site comparer baseline source) := by
  have hparallel := parallel_sameEnv (σ := σ) site.node comparer
  unfold update Transform.update
  simp only [hleft, hright, hitem, hdue, hsource, hfresh, hitems, Bool.false_and,
    Bool.false_eq_true, if_false]
  refine (alike_write_pairing item left.items (.against baseline)).bind ?_
  rintro draft result rfl
  refine hparallel.check.bind fun _ _ _ => (hparallel.publish draft).bind ?_
  rintro table _ rfl
  exact .of_pure rfl

/-- A run that nobody cancels is not cancelled by single steps that call no function. -/
theorem steady_live (hquiet : comparer.Quiet) (node : NodeId) (olds : List Value) :
    Steady (fun a : Ambient σ => a.env.cancelled = false) (fun _ _ => False) node comparer olds
      (fun _ => False) where
  check := by
    intro a hlive hcancelled
    rw [hlive] at hcancelled
    cases hcancelled
  note := fun _ _ _ hlive => hlive
  perform := fun _ hcalls => hcalls.elim
  compare := by
    intro previous _ current a hlive
    have hafter := hquiet.neverCancels (previous, current) a.env
    unfold Ensures
    rw [StepM.run_observeOne, hquiet.neverPanics previous current a.env]
    show (StepM.watched _ _ _ _).env.cancelled = false
    rw [StepM.env_watched]
    exact hafter.trans hlive

/-- A run that nobody cancels gives a table of pairs. -/
theorem exists_populated (site : Site) (hquiet : comparer.Quiet) {a : Ambient σ}
    (hlive : a.env.cancelled = false) (hleft : left.isFaulted = false)
    (hright : right.isFaulted = false) (hitem : right.single? = some item)
    (hdue : (left.isCompacted && right.isCompacted && !baseline.isEmpty) = false) :
    ∃ groups, ((update site comparer baseline left right).run.run a).1
      = .ok (.table (.populated groups)) := by
  have hsteady := steady_live (σ := σ) hquiet site.node baseline.values
  have hends : Ensures (update site comparer baseline left right) a
      (fun product _ => ∃ groups, product = .table (.populated groups)) fun _ _ => False := by
    unfold update
    simp only [hleft, hright, hitem, hdue, Bool.false_eq_true, if_false]
    refine Ensures.bind (ensures_write hsteady left.items (Draft.mem_values_of_pending _) hlive) ?_
    rintro draft b ⟨hb, -⟩
    refine hsteady.bind_check hb fun c _ => ?_
    -- Whatever is remarkable about the draft is logged and does not stop the update.
    unfold Ensures
    rw [StepM.run_bind, StepM.run_publish]
    exact ⟨draft.groups, rfl⟩
  cases hrun : (update site comparer baseline left right).run.run a with
  | mk result b =>
    cases result with
    | ok product =>
      obtain ⟨groups, rfl⟩ := hends.of_ok hrun
      exact ⟨groups, rfl⟩
    | error stop => exact (hends.of_error hrun).elim

end Updates

/-- A combine whose right side has the one item `item`, and of whose sides not both are as
they were, ends as the transform does that pairs each value with that item's: with the same
table or for the same reason, and in the same environment. If nobody cancels the run that is
a table. The source of the transform has the left items, the cached ones as modified if the
right item is not cached. -/
theorem update_eq_pairing (site : Site) (comparer : Comparer σ)
    (baseline left right source : Table Value) (item : Entry Value) (a : Ambient σ)
    (hleft : left.isFaulted = false) (hright : right.isFaulted = false)
    (hitem : right.items.filter Entry.isLive = [item])
    (hdue : (left.isCompacted && right.isCompacted && !baseline.isEmpty) = false)
    (hitems : source.items = left.items.map (retagged item)) (hsource : source.isFaulted = false)
    (hfresh : source.isCompacted = false) :
    let combined := (update site comparer baseline left right).run.run a
    let paired := ((pairing item.value).update site comparer baseline source).run.run a
    combined.1 = paired.1 ∧ combined.2.env = paired.2.env ∧
      (a.env.cancelled = false → comparer.Quiet →
        ∃ groups, combined.1 = .ok (.table (.populated groups))) := by
  intro combined paired
  have hsingle : right.single? = some item := by simp [Table.single?, hitem]
  have halike : Alike (SameEnv (σ := σ)) (fun _ => True) Eq
      (update site comparer baseline left right)
      ((pairing item.value).update site comparer baseline source) :=
    alike_update_pairing site hleft hright hsingle hdue hitems hsource hfresh
  have hpopulated : a.env.cancelled = false → comparer.Quiet →
      ∃ groups, combined.1 = .ok (.table (.populated groups)) := fun hlive hquiet =>
    exists_populated site hquiet hlive hleft hright hsingle hdue
  obtain ⟨hresult, henv⟩ := (halike a a rfl).same_result
  exact ⟨hresult, henv, hpopulated⟩

/-! ### A small case -/

namespace Sample

/-- The right side: the one value changed. -/
def right : Table Value :=
  .populated [{ items := [⟨.text "old", .removed⟩, ⟨.text "r", .modified⟩] }]

/-- The left side, with more counterparts than there are groups. -/
def left : Table Value :=
  .populated [
    { items := [⟨.text "a", .cached⟩, ⟨.text "b", .removed⟩] },
    { items := [⟨.text "c", .added⟩, ⟨.text "d", .cached⟩, ⟨.text "e", .modified⟩] }]

/-- The left items as the transform is given them. -/
def source : Table Value :=
  .populated [{ items := left.items.map (retagged ⟨.text "r", .modified⟩) }]

/-- Two groups are left of the run before. -/
def baseline : Table Value :=
  .compacted [Group.tagged .cached [.pair (.text "a") (.text "r")], Group.tagged .cached []]

/-- What is written: only the first two items have a group to go by. -/
def written : List (Group Value) :=
  [ Group.tagged .cached [.pair (.text "a") (.text "r")],
    Group.dropped [],
    Group.tagged .added [.pair (.text "c") (.text "r")],
    Group.tagged .added [.pair (.text "d") (.text "r")],
    Group.tagged .added [.pair (.text "e") (.text "r")] ]

/-- The run that the updates are part of. -/
def start : Ambient Unit where
  env := ⟨(), false⟩

end Sample

/-- In the small case both write the same table, although the baseline is too short. -/
theorem update_eq_pairing_sample :
    Sample.left.isFaulted = false ∧ Sample.right.isFaulted = false ∧
      Sample.right.items.filter Entry.isLive = [⟨.text "r", .modified⟩] ∧
      (Sample.left.isCompacted && Sample.right.isCompacted && !Sample.baseline.isEmpty) = false ∧
      Sample.source.items = Sample.left.items.map (retagged ⟨.text "r", .modified⟩) ∧
      Sample.source.isFaulted = false ∧ Sample.source.isCompacted = false ∧
      ((update ⟨0, 0, ⟨2⟩, 0⟩ .structural Sample.baseline Sample.left Sample.right).run.run
        Sample.start).1 = .ok (.table (.populated Sample.written)) ∧
      (((pairing (.text "r")).update ⟨0, 0, ⟨2⟩, 0⟩ .structural Sample.baseline
        Sample.source).run.run Sample.start).1 = .ok (.table (.populated Sample.written)) := by
  have h := update_eq_pairing ⟨0, 0, ⟨2⟩, 0⟩ .structural Sample.baseline Sample.left Sample.right
    Sample.source ⟨.text "r", .modified⟩ Sample.start rfl rfl rfl rfl rfl rfl rfl
  have hcombined : ((update ⟨0, 0, ⟨2⟩, 0⟩ .structural Sample.baseline Sample.left
      Sample.right).run.run Sample.start).1 = .ok (.table (.populated Sample.written)) := rfl
  exact ⟨rfl, rfl, rfl, rfl, rfl, rfl, rfl, hcombined, h.1.symm.trans hcombined⟩

end DeltaPipeline.Combine
