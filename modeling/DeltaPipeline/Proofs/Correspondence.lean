import DeltaPipeline.Proofs.Tracking
import DeltaPipeline.Proofs.Traces
import DeltaPipeline.Proofs.Writing

/-!
# `DeltaPipeline.Proofs.Correspondence`: one group for each present item

A transform goes through the items of its source and through the groups of its baseline
at once. The source may be any table that is neither faulted nor compacted: a custom node
may write items that claim a counterpart where the baseline has none, or leave groups of
the baseline without one. Whatever it wrote, the transform writes one group for each item
that is present, and the next run starts from these.

* `Transform.Becomes`: what becomes of one item, by the next group of the baseline.
* `Transform.Line`, `Transform.Lines`: the items in order, each with what became of it.
* `Transform.Corresponds`: the table of a transform against the lines it was made by.
* `Transform.ensures_lines`: the loop goes by such lines.
* `Transform.one_group_each`: every update that ends with a table does.
-/

set_option autoImplicit false

namespace DeltaPipeline.Transform

variable {σ : Type}

/-! ### Items and what becomes of them -/

/-- What becomes of an item: the call of the function, if it is called, and the group
written, if one is. `next?` are the values of the next group of the baseline, if one is
left. -/
inductive Becomes (function : Transform σ) (equals : Value → Value → Bool) :
    Entry Value → Option (List Value) → Option (Call σ) → Option (Group Value) → Prop where
  /-- nothing is left to drop -/
  | skipped (value : Value) : Becomes function equals ⟨value, .removed⟩ none none none
  | dropped (value : Value) (old : List Value) :
    Becomes function equals ⟨value, .removed⟩ (some old) none (some (Group.dropped old))
  | kept (value : Value) (old : List Value) :
    Becomes function equals ⟨value, .cached⟩ (some old) none (some (Group.tagged .cached old))
  | revised (value : Value) (old outputs : List Value) (before after : Env σ) :
    (function.call value).run.run before = (.ok (.ok outputs), after) →
    Becomes function equals ⟨value, .modified⟩ (some old)
      (some ⟨value, before, .ok outputs, after⟩)
      (some { items := revision equals old outputs })
  /-- the item is new, or nothing is left to keep or to revise -/
  | added (value : Value) (tag : Tag) (next? : Option (List Value)) (outputs : List Value)
    (before after : Env σ) : tag ≠ .removed → tag = .added ∨ next? = none →
    (function.call value).run.run before = (.ok (.ok outputs), after) →
    Becomes function equals ⟨value, tag⟩ next? (some ⟨value, before, .ok outputs, after⟩)
      (some (Group.tagged .added outputs))

namespace Becomes

variable {function : Transform σ} {equals : Value → Value → Bool} {item : Entry Value}
  {next? : Option (List Value)} {call? : Option (Call σ)} {group? : Option (Group Value)}

/-- An item that is present has a group that is not flagged removed. -/
theorem exists_group (h : Becomes function equals item next? call? group?)
    (hlive : item.isLive = true) : ∃ group, group? = some group ∧ group.removed = false := by
  cases h with
  | skipped value => cases hlive
  | dropped value old => cases hlive
  | kept value old => exact ⟨_, rfl, rfl⟩
  | revised value old outputs before after hrun => exact ⟨_, rfl, rfl⟩
  | added value tag next? outputs before after htag hadded hrun => exact ⟨_, rfl, rfl⟩

/-- The group of an item that disappeared is flagged removed. -/
theorem removed_of_group (h : Becomes function equals item next? call? group?)
    (hlive : item.isLive = false) : ∀ group, group? = some group → group.removed = true := by
  cases h with
  | skipped value => simp
  | dropped value old => simp [Group.dropped]
  | kept value old => cases hlive
  | revised value old outputs before after hrun => cases hlive
  | added value tag next? outputs before after htag hadded hrun =>
    exact absurd (by simpa [Entry.isLive] using hlive) htag

end Becomes

/-- One item of the source and what became of it. -/
structure Line (σ : Type) where
  item : Entry Value
  /-- The values of the next group of the baseline, if one is left. -/
  next? : Option (List Value)
  call? : Option (Call σ)
  group? : Option (Group Value)

/-- The lines go through the items and through the groups of the baseline, whose values are
`olds`. -/
structure Lines (function : Transform σ) (equals : Value → Value → Bool)
    (items : List (Entry Value)) (olds : List (List Value)) (lines : List (Line σ)) : Prop where
  items_eq : lines.map Line.item = items
  /-- Each item that is not added takes one group, as long as any is left. -/
  takes : ∀ (n : Nat) (line : Line σ), lines[n]? = some line →
    line.next? = olds[((items.take n).filter (!·.isAdded)).length]?
  becomes : ∀ line ∈ lines,
    Becomes function equals line.item line.next? line.call? line.group?

namespace Lines

variable {function : Transform σ} {equals : Value → Value → Bool} {items : List (Entry Value)}
  {olds : List (List Value)} {line : Line σ} {lines : List (Line σ)}

/-- No items have no lines. -/
theorem nil (olds : List (List Value)) : Lines function equals [] olds [] where
  items_eq := rfl
  takes := by simp
  becomes := by simp

/-- A line goes before others if they start from the groups that it leaves. -/
theorem cons (hfirst : Becomes function equals line.item olds.head? line.call? line.group?)
    (hnext : line.next? = olds.head?)
    (hrest : Lines function equals items
      (olds.drop (if line.item.isAdded then 0 else 1)) lines) :
    Lines function equals (line.item :: items) olds (line :: lines) where
  items_eq := by rw [List.map_cons, hrest.items_eq]
  takes := by
    intro n other hother
    cases n with
    | zero =>
      cases hother
      rw [hnext, List.head?_eq_getElem?]
      rfl
    | succ n =>
      -- What comes later counts from behind the group taken here, if one is.
      rw [hrest.takes n other (by simpa using hother), List.getElem?_drop, List.take_succ_cons]
      by_cases hadded : line.item.isAdded = true
      · rw [if_pos hadded, List.filter_cons_of_neg (by simp [hadded]), Nat.zero_add]
      · rw [if_neg hadded, List.filter_cons_of_pos (by simp [hadded]), List.length_cons,
          Nat.add_comm]
  becomes := by
    intro other hother
    rcases List.mem_cons.mp hother with rfl | hmem
    · rw [hnext]
      exact hfirst
    · exact hrest.becomes other hmem

/-- The lines of present items have the groups that are not flagged removed, in order. -/
theorem present (hbecomes : ∀ line ∈ lines,
      Becomes function equals line.item line.next? line.call? line.group?) :
    List.Forall₂ (fun line group => line.group? = some group)
      (lines.filter (·.item.isLive)) ((lines.filterMap Line.group?).filter (!·.removed)) := by
  induction lines with
  | nil => exact .nil
  | cons line lines ih =>
    have hrest := ih fun other hother => hbecomes other (List.mem_cons_of_mem line hother)
    have hline := hbecomes line (by simp)
    by_cases hlive : line.item.isLive = true
    · obtain ⟨group, hgroup, hremoved⟩ := hline.exists_group hlive
      rw [List.filter_cons_of_pos (by simp [hlive]), List.filterMap_cons_some hgroup,
        List.filter_cons_of_pos (by simp [hremoved])]
      exact .cons hgroup hrest
    · -- Neither the item nor its group, if it has one, counts.
      have hremoved := hline.removed_of_group (by simpa using hlive)
      rw [List.filter_cons_of_neg (by simp [hlive])]
      cases hgroup : line.group? with
      | none => rwa [List.filterMap_cons_none hgroup]
      | some group =>
        rw [List.filterMap_cons_some hgroup,
          List.filter_cons_of_neg (by simp [hremoved group hgroup])]
        exact hrest

end Lines

/-- A table corresponds to the items of the source, line by line. -/
structure Corresponds (function : Transform σ) (equals : Value → Value → Bool)
    (baseline source : Table Value) (lines : List (Line σ)) (table : Table Value) : Prop where
  made : Lines function equals source.items (baseline.groups.map Group.values) lines
  table_eq : table = .populated (lines.filterMap Line.group?)
  /-- There is one group that is not flagged removed for each present item, in order. -/
  present : List.Forall₂ (fun line group => line.group? = some group)
    (lines.filter (·.item.isLive)) (table.groups.filter (!·.removed))
  /-- So there is in what the table leaves for the next run. -/
  kept : List.Forall₂
    (fun line group => ∃ written, line.group? = some written ∧
      group = Group.tagged .cached written.values)
    (lines.filter (·.item.isLive)) table.asCached.groups
  length_kept : table.asCached.groups.length = (source.items.filter Entry.isLive).length

/-- What is written by lines corresponds to them. -/
theorem Lines.corresponds {function : Transform σ} {equals : Value → Value → Bool}
    {baseline source : Table Value} {lines : List (Line σ)}
    (h : Lines function equals source.items (baseline.groups.map Group.values) lines) :
    Corresponds function equals baseline source lines
      (.populated (lines.filterMap Line.group?)) := by
  have hpresent := Lines.present h.becomes
  have hkept : (Table.populated (lines.filterMap Line.group?)).asCached.groups
      = ((lines.filterMap Line.group?).filter (!·.removed)).map
        fun group => Group.tagged .cached group.values := Group.filterMap_asCached? _
  have hlive : (lines.filter (·.item.isLive)).length
      = (source.items.filter Entry.isLive).length := by
    rw [← h.items_eq, List.filter_map, List.length_map]
    rfl
  exact {
    made := h
    table_eq := rfl
    present := hpresent
    kept := by
      rw [hkept, List.forall₂_map_right_iff]
      exact hpresent.imp fun line group hgroup => ⟨group, hgroup, rfl⟩
    length_kept := by rw [hkept, List.length_map, ← hpresent.length_eq, hlive] }

/-! ### The loop -/

/-- The reason is one for which an update may stop: the run is cancelled, or user code gave
up. -/
def Halts (stop : Stop) (a : Ambient σ) : Prop :=
  stop = .error .cancelled ∧ a.env.cancelled = true ∨ ∃ panic, stop = .panic panic

section Loop

variable {function : Transform σ} {node : NodeId} {comparer : Comparer σ} {a : Ambient σ}

/-- Where no function is called, only comparisons change the environment. -/
theorem steady_leads (env : Env σ) (olds : List Value) :
    Steady (fun a => comparer.Leads env a.env) Halts node comparer olds (fun _ => False) where
  check := fun _ _ hcancelled => .inl ⟨rfl, hcancelled⟩
  note := fun _ _ _ ha => ha
  perform := fun _ hcalls => hcalls.elim
  compare := by
    intro previous _ current a ha
    unfold Ensures
    rw [StepM.run_observeOne]
    cases hrun : (comparer.effect previous current).run.run a.env with
    | mk answer after =>
      cases answer with
      | error panic => exact .inr ⟨panic, rfl⟩
      | ok =>
        show comparer.Leads env (StepM.watched _ _ _ _).env
        rw [StepM.env_watched]
        exact ha.trans (.of_run hrun)

/-- Only a run that is not cancelled goes on. -/
theorem ensures_check_live :
    Ensures (StepM.check : StepM σ Unit) a (fun _ b => b = a ∧ a.env.cancelled = false)
      Halts := by
  rw [ensures_check_iff]
  by_cases hcancelled : a.env.cancelled = true
  · rw [if_pos hcancelled]
    exact .inl ⟨rfl, hcancelled⟩
  · rw [if_neg hcancelled]
    exact ⟨rfl, by simpa using hcancelled⟩

/-- A call of the function is made in the environment that is there, and leaves its own. -/
theorem ensures_invoke_run (argument : Value) (code : UserCode σ (Except Fault (List Value))) :
    Ensures (StepM.invoke node argument code) a
      (fun answer b => code.run.run a.env = (.ok answer, b.env)) Halts := by
  unfold Ensures StepM.invoke
  rw [StepM.run_bind, StepM.run_record]
  simp only [StepM.run_perform, Ambient.env_note]
  cases hrun : code.run.run a.env with
  | mk result after =>
    cases result with
    | error panic => exact .inr ⟨panic, rfl⟩
    | ok answer =>
      show (_, after) = (_, (StepM.watched _ _ _ _).env)
      rw [StepM.env_watched]

/-- Finishing a draft changes nothing but the journal. -/
theorem ensures_publish_env (draft : Draft Value) {stopped : Stop → Ambient σ → Prop} :
    Ensures (StepM.publish draft) a (fun table b => table = draft.finish ∧ b.env = a.env)
      stopped := by
  have henv : ∀ remarks : List Draft.Remark,
      (remarks.foldl (fun b remark => b.note (.noticed (.written remark))) a).env = a.env := by
    intro remarks
    induction remarks generalizing a with
    | nil => rfl
    | cons remark remarks ih => exact ih
  unfold Ensures
  rw [StepM.run_publish]
  exact ⟨rfl, henv _⟩

/-- How the writing of one item from a draft ends: with a draft that goes on by what became
of the item, or with a fault of the function. -/
def LineEnds (function : Transform σ) (comparer : Comparer σ) (item : Entry Value)
    (draft : Draft Value) (a : Ambient σ) : Except Fault (Draft Value) → Ambient σ → Prop
  | .ok next, b => ∃ call? group?,
    Becomes function comparer.equals item draft.pending.head? call? group? ∧
      next.pending = draft.pending.drop (if item.isAdded then 0 else 1) ∧
      next.groups = draft.groups ++ group?.toList ∧
      Threads comparer.Leads a.env call?.toList b.env
  | .error fault, _ => item.isLive = true ∧ (function.call item.value).MayGive (.error fault)

/-- Outputs are added for an item that is new, or for which nothing is left. -/
theorem lineEnds_add {item : Entry Value} {draft : Draft Value} {outputs : List Value}
    {after : Env σ} {b : Ambient σ} (hlive : item.tag ≠ .removed)
    (hadded : item.tag = .added ∨ draft.pending = [])
    (hrun : (function.call item.value).run.run a.env = (.ok (.ok outputs), after))
    (hcall : Threads comparer.Leads a.env [⟨item.value, a.env, .ok outputs, after⟩] b.env) :
    LineEnds function comparer item draft a (.ok (draft.add outputs .added)) b := by
  refine ⟨some ⟨item.value, a.env, .ok outputs, after⟩, some (Group.tagged .added outputs),
    ?_, ?_, rfl, hcall⟩
  · refine .added item.value item.tag _ outputs a.env after hlive ?_ hrun
    exact hadded.imp_right fun hpending => by rw [hpending]; rfl
  · rcases hadded with hadded | hpending
    · simp [Entry.isAdded, hadded]
    · simp [hpending]

/-- An item that is called for ends its line, with the answer of its function. -/
theorem ensures_recompute_line {item : Entry Value} {draft : Draft Value}
    (hrun : a.env.cancelled = false) (hlive : item.tag ≠ .removed)
    (hcached : item.tag = .cached → draft.pending = []) :
    Ensures (recompute function node comparer item draft) a
      (LineEnds function comparer item draft a) Halts := by
  refine Ensures.bind (ensures_invoke_run item.value (function.call item.value)) ?_
  rintro (fault | outputs) b hcalled
  · exact Ensures.of_pure ⟨by simp [Entry.isLive, hlive], a.env, b.env, hcalled⟩
  -- The call starts from the environment that is there.
  have hcall : ∀ {c : Ambient σ}, comparer.Leads b.env c.env →
      Threads comparer.Leads a.env [⟨item.value, a.env, .ok outputs, b.env⟩] c.env :=
    fun hleads => .cons _ (.refl comparer a.env) hrun (.nil hleads)
  by_cases htag : item.tag = .modified
  · simp only [htag, if_true]
    refine Ensures.bind (ensures_reviseOrAdd (steady_leads b.env draft.pending.flatten)
      (fun _ h => h) outputs (.refl comparer b.env)) ?_
    rintro next c ⟨hleads, rfl⟩
    refine Ensures.of_pure ?_
    obtain ⟨value, tag⟩ := item
    cases htag
    obtain ⟨pending, groups, remarks⟩ := draft
    -- With no group left there is nothing to revise, and the outputs are added after all.
    cases pending with
    | nil => exact lineEnds_add hlive (.inr rfl) hcalled (hcall hleads)
    | cons old rest =>
      exact ⟨_, _, .revised value old outputs a.env b.env hcalled, rfl, rfl, hcall hleads⟩
  · simp only [htag, if_false]
    have hadded := added_or_pending_nil hlive hcached htag
    exact Ensures.of_pure (lineEnds_add hlive hadded hcalled (hcall (.refl comparer b.env)))

/-- Each item is written as its tag and the next group of the baseline ask. -/
theorem ensures_line (item : Entry Value) (draft : Draft Value)
    (hrun : a.env.cancelled = false) :
    Ensures (visit function node comparer item draft) a
      (LineEnds function comparer item draft a) Halts := by
  have hnone : Threads comparer.Leads a.env [] a.env := .nil (.refl comparer a.env)
  rcases visit_cases function node comparer item draft with
    ⟨value, rfl, hvisit⟩ | ⟨value, kept, rfl, hkept, hvisit⟩ | ⟨hlive, hcached, hvisit⟩
  · rw [hvisit]
    refine Ensures.of_pure ?_
    obtain ⟨pending, groups, remarks⟩ := draft
    cases pending with
    | nil => exact ⟨none, none, .skipped value, rfl, by simp [Draft.drop?], hnone⟩
    | cons old rest => exact ⟨none, _, .dropped value old, rfl, rfl, hnone⟩
  · rw [hvisit]
    refine Ensures.of_pure ?_
    obtain ⟨pending, groups, remarks⟩ := draft
    cases pending with
    | nil => cases hkept
    | cons old rest =>
      cases hkept
      exact ⟨none, _, .kept value old, rfl, rfl, hnone⟩
  · rw [hvisit]
    exact ensures_recompute_line hrun hlive hcached

/-- How the writing of items from a draft ends: with a draft that goes on by lines, or with
a fault that the function gave for one of them. -/
def LinesEnd (function : Transform σ) (comparer : Comparer σ)
    (items : List (Entry Value)) (draft : Draft Value) (a : Ambient σ) :
    Except Fault (Draft Value) → Ambient σ → Prop
  | .ok last, b => ∃ lines, Lines function comparer.equals items draft.pending lines ∧
      last.groups = draft.groups ++ lines.filterMap Line.group? ∧
      Threads comparer.Leads a.env (lines.filterMap Line.call?) b.env
  | .error fault, _ => ∃ item ∈ items, item.isLive = true ∧
      (function.call item.value).MayGive (.error fault)

/-- The loop of a transform goes by lines. -/
theorem ensures_lines (items : List (Entry Value)) (draft : Draft Value) :
    Ensures (write function node comparer items draft) a
      (LinesEnd function comparer items draft a) Halts := by
  -- By induction on the items. What was written before an item matters to it only by the
  -- groups that are left.
  induction items generalizing draft a with
  | nil =>
    exact Ensures.of_pure ⟨[], .nil _, (List.append_nil _).symm, .nil (.refl comparer a.env)⟩
  | cons item items ih =>
    refine Ensures.bind ensures_check_live ?_
    rintro - b ⟨rfl, hlive⟩
    refine Ensures.bind (ensures_line item draft hlive) ?_
    rintro (fault | next) c hline
    · exact Ensures.of_pure ⟨item, by simp, hline⟩
    -- The item is written, and the rest goes on from the groups that it leaves.
    obtain ⟨call?, group?, hbecomes, hpending, hgroups, hcall⟩ := hline
    refine (ih next).mono ?_ fun _ _ h => h
    rintro (fault | last) d hrest
    · obtain ⟨culprit, hmem, hfault⟩ := hrest
      exact ⟨culprit, List.mem_cons_of_mem item hmem, hfault⟩
    obtain ⟨lines, hlines, hlast, hcalls⟩ := hrest
    rw [hpending] at hlines
    let line : Line σ := ⟨item, draft.pending.head?, call?, group?⟩
    have hcons : Lines function comparer.equals (line.item :: items) draft.pending
        (line :: lines) := Lines.cons hbecomes rfl hlines
    refine ⟨line :: lines, hcons, ?_, ?_⟩
    · rw [hlast, hgroups, List.append_assoc]
      cases group? <;> rfl
    · have hthreads := hcall.append .trans hcalls
      cases call? <;> exact hthreads

end Loop

/-- The update of a transform from a source that is neither faulted nor compacted gives a
table with one group for each present item, unless the function gives a fault for one of
them. The function is called as the lines of the table say and not otherwise. -/
theorem one_group_each (function : Transform σ) (site : Site) (comparer : Comparer σ)
    (baseline source : Table Value) (a : Ambient σ) (hfaulted : source.isFaulted = false)
    (hcompacted : source.isCompacted = false) :
    Ensures (function.update site comparer baseline source) a
      (fun product b => b.env.cancelled = false ∧
        ((∃ value ∈ source.values, ∃ fault, (function.call value).MayGive (.error fault) ∧
            product = .table (.faulted fault)) ∨
          ∃ lines table, product = .table table ∧
            function.Corresponds comparer.equals baseline source lines table ∧
            Threads comparer.Leads a.env (lines.filterMap Line.call?) b.env))
      Halts := by
  unfold update
  simp only [hfaulted, hcompacted, Bool.false_and, Bool.false_eq_true, if_false]
  -- The loop ends with a fault of the function, or with a line for each item.
  refine Ensures.bind (ensures_lines source.items (.against baseline)) ?_
  rintro (fault | draft) b hends
  · obtain ⟨item, hitem, hlive, hfault⟩ := hends
    have hvalue : item.value ∈ source.values := by
      rw [Table.values_eq]
      exact List.mem_map_of_mem (List.mem_filter.mpr ⟨hitem, hlive⟩)
    unfold Ensures
    rw [StepM.run_failWith]
    by_cases hcancelled : b.env.cancelled = true
    · rw [if_pos hcancelled]
      exact .inl ⟨rfl, hcancelled⟩
    · rw [if_neg hcancelled]
      exact ⟨by simpa using hcancelled, .inl ⟨item.value, hvalue, fault, hfault, rfl⟩⟩
  · obtain ⟨lines, hlines, hgroups, hcalls⟩ := hends
    refine Ensures.bind ensures_check_live ?_
    rintro - c ⟨rfl, hlive⟩
    refine Ensures.bind (ensures_publish_env draft) ?_
    rintro table d ⟨htable, henv⟩
    have htable' : table = .populated (lines.filterMap Line.group?) := by
      rw [htable, Draft.finish, hgroups]
      rfl
    rw [htable']
    refine Ensures.of_pure ⟨by rw [henv, hlive], .inr ⟨lines, _, rfl, hlines.corresponds, ?_⟩⟩
    rw [henv]
    exact hcalls

/-! ### A small case -/

namespace Sample

/-- Gives each value twice. -/
def twice : Transform Unit :=
  .selectMany fun value => return .ok [value, value]

/-- A source such as a custom node may write: it claims more counterparts than there are. -/
def source : Table Value :=
  .populated [
    { items := [⟨.text "a", .cached⟩, ⟨.text "b", .removed⟩] },
    { items := [⟨.text "c", .added⟩, ⟨.text "d", .modified⟩] },
    { items := [⟨.text "e", .cached⟩, ⟨.text "f", .removed⟩] }]

/-- A baseline of three groups, one of them without values. -/
def baseline : Table Value :=
  .kept [[.text "x"], [], [.text "d", .text "y", .text "z"]]

/-- What is written: the group of `e` is added, as none is left to keep. -/
def written : List (Group Value) :=
  [ Group.tagged .cached [.text "x"],
    Group.dropped [],
    Group.tagged .added [.text "c", .text "c"],
    { items := [⟨.text "d", .cached⟩, ⟨.text "d", .modified⟩, ⟨.text "z", .removed⟩] },
    Group.tagged .added [.text "e", .text "e"] ]

/-- The update runs to its end. -/
theorem exists_run_update :
    ∃ after, (twice.update ⟨0, 0, ⟨1⟩, 0⟩ .structural baseline source).run.run ⟨⟨(), false⟩, []⟩
      = (.ok (.table (.populated written)), after) :=
  ⟨_, rfl⟩

end Sample

/-- In the small case the table corresponds to its source line by line, although the baseline
is too short. -/
theorem one_group_each_sample :
    Sample.source.isFaulted = false ∧ Sample.source.isCompacted = false ∧
      ∃ lines, Sample.twice.Corresponds (Comparer.structural : Comparer Unit).equals
        Sample.baseline Sample.source lines (.populated Sample.written) := by
  obtain ⟨after, hrun⟩ := Sample.exists_run_update
  have h := (one_group_each Sample.twice ⟨0, 0, ⟨1⟩, 0⟩ .structural Sample.baseline
    Sample.source ⟨⟨(), false⟩, []⟩ rfl rfl).of_ok hrun
  refine ⟨rfl, rfl, ?_⟩
  rcases h.2 with ⟨value, hvalue, fault, hfault, hproduct⟩ |
    ⟨lines, table, hproduct, hcorresponds, -⟩
  · cases hproduct
  · cases hproduct
    exact ⟨lines, hcorresponds⟩

end DeltaPipeline.Transform
