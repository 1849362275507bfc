import DeltaPipeline.Proofs.Drift

/-!
# `DeltaPipeline.Proofs.Recompute`: a run gives what computing anew gives

Where comparers accept equal values only and functions are pure, what a run keeps of the
runs before cannot be told from what it would compute. Every run that completes obeys
the same equations: what a node gives follows from what its sources give, without any
regard to baselines. The equations have one solution, since sources come before the
nodes that draw on them.

* `Table.outcome`: the values of a node, or the cause of its failure.
* `Node.recompute`: what a node gives from what its sources give.
* `Driver.outcome_of_computes`: a run obeys these equations.
* `Driver.given_unique`: the equations have one solution.
-/

set_option autoImplicit false

namespace DeltaPipeline

variable {σ : Type}

/-! ### Computing anew -/

/-- What a node gave: its values, or the cause of its failure. -/
def Table.outcome (table : Table Value) : Except Cause (List Value) :=
  match table.fault? with
  | some fault => .error fault.cause
  | none => .ok table.values

/-- What a node gives if nothing is kept, from what its functions answer, the values set
on it if it is an input, and what its sources give. -/
def Node.recompute
    (answer : UserCode σ (Except Fault (List Value)) → Except Cause (List Value))
    (set : List Value) (given : NodeId → Except Cause (List Value)) (id : NodeId)
    (node : Node σ) : Except Cause (List Value) :=
  match node.role with
  | .input => .ok set
  | .transform source function => do
    let values ← given source
    let groups ← values.mapM fun value => answer (function.call value)
    return groups.flatten
  | .batch source function => do
    let values ← given source
    answer (function.call values)
  | .combine left right => do
    let lefts ← given left
    let rights ← given right
    match rights with
    | [single] => return lefts.map (Value.pair · single)
    | _ => throw (.error (.invalidState (.rightNotSingle id rights.length)))
  | .custom _ _ _ => .ok []

namespace Node

variable {answer : UserCode σ (Except Fault (List Value)) → Except Cause (List Value)}
  {set : List Value} {given : NodeId → Except Cause (List Value)} {id : NodeId}
  {node : Node σ} {source left right : NodeId} {values lefts rights : List Value}

/-- An input comes to the values that it was set to. -/
theorem recompute_of_input (hrole : node.role = .input) :
    node.recompute answer set given id = .ok set := by
  simp only [recompute, hrole]

/-- A transform calls its function for each value of its source. -/
theorem recompute_of_transform {function : Transform σ}
    (hrole : node.role = .transform source function) (hgiven : given source = .ok values) :
    node.recompute answer set given id
      = (values.mapM fun value => answer (function.call value)).map List.flatten := by
  simp only [recompute, hrole, hgiven]
  show (values.mapM (fun value => answer (function.call value)) >>= fun groups =>
    pure groups.flatten) = _
  rcases values.mapM (fun value => answer (function.call value)) with _ | _ <;> rfl

/-- A batch calls its function once. -/
theorem recompute_of_batch {function : Reduction σ}
    (hrole : node.role = .batch source function) (hgiven : given source = .ok values) :
    node.recompute answer set given id = answer (function.call values) := by
  simp only [recompute, hrole, hgiven]
  rfl

/-- A combine pairs each left value with the single right one. -/
theorem recompute_of_combine {single : Value} (hrole : node.role = .combine left right)
    (hleft : given left = .ok lefts) (hright : given right = .ok [single]) :
    node.recompute answer set given id = .ok (lefts.map (Value.pair · single)) := by
  simp only [recompute, hrole, hleft, hright]
  rfl

/-- A combine fails if there is no right value or several. -/
theorem recompute_of_combine_of_length_ne (hrole : node.role = .combine left right)
    (hleft : given left = .ok lefts) (hright : given right = .ok rights)
    (hcount : rights.length ≠ 1) :
    node.recompute answer set given id
      = .error (.error (.invalidState (.rightNotSingle id rights.length))) := by
  simp only [recompute, hrole, hleft, hright]
  cases rights with
  | nil => rfl
  | cons first rest =>
    cases rest with
    | nil => exact absurd rfl hcount
    | cons second rest => rfl

/-- A node fails if its first source did. -/
theorem recompute_of_first_error {rest : List NodeId} {cause : Cause}
    (hsources : node.sources = source :: rest) (hgiven : given source = .error cause) :
    node.recompute answer set given id = .error cause := by
  -- The first source of each form is the one that it reads first.
  unfold Node.sources at hsources
  unfold recompute
  cases hrole : node.role with
  | input =>
    rw [hrole] at hsources
    cases hsources
  | transform source function =>
    rw [hrole] at hsources
    cases hsources
    dsimp only
    rw [hgiven]
    rfl
  | batch source function =>
    rw [hrole] at hsources
    cases hsources
    dsimp only
    rw [hgiven]
    rfl
  | combine left right =>
    rw [hrole] at hsources
    cases hsources
    dsimp only
    rw [hgiven]
    rfl
  | custom name turns program =>
    rw [hrole] at hsources
    cases hsources

/-- A combine fails if its right source did. -/
theorem recompute_of_right_error {cause : Cause} (hrole : node.role = .combine left right)
    (hleft : given left = .ok lefts) (hright : given right = .error cause) :
    node.recompute answer set given id = .error cause := by
  simp only [recompute, hrole, hleft, hright]
  rfl

end Node

/-- The outcome of a faulted table is the cause of its fault. -/
@[simp] theorem Table.outcome_faulted (fault : Fault) :
    (Table.faulted fault).outcome = .error fault.cause := rfl

/-- The outcome of a table without a fault is its values. -/
theorem Table.outcome_of_isFaulted_eq_false {table : Table Value}
    (h : table.isFaulted = false) : table.outcome = .ok table.values := by
  cases table with
  | empty => rfl
  | faulted fault => cases h
  | compacted groups => rfl
  | populated groups => rfl

/-- One function answers for all code that is pure. -/
theorem Pipeline.IsPure.exists_answer {pipeline : Pipeline σ} (h : pipeline.IsPure) :
    ∃ answer : UserCode σ (Except Fault (List Value)) → Except Cause (List Value),
      ∀ node ∈ pipeline.nodes, ∀ code, node.role.Calls code → code.Gives (answer code) := by
  have hall : ∀ code : UserCode σ (Except Fault (List Value)), ∃ answer,
      (∃ given, code.Gives given) → code.Gives answer := by
    intro code
    -- Code without one answer is called by no node, so any answer will do for it.
    by_cases hgives : ∃ given, code.Gives given
    · obtain ⟨given, hgiven⟩ := hgives
      exact ⟨given, fun _ => hgiven⟩
    · exact ⟨.ok [], fun hpure => absurd hpure hgives⟩
  choose answer hanswer using hall
  exact ⟨answer, fun node hnode code hcalls => hanswer code (h node hnode code hcalls)⟩

section MapM

variable {α β ε : Type} {f : α → Except ε β}

/-- Where each element is answered, so is the list, in order. -/
theorem mapM_eq_ok {as : List α} {bs : List β}
    (h : List.Forall₂ (fun a b => f a = .ok b) as bs) : as.mapM f = .ok bs := by
  induction h with
  | nil => rfl
  | cons hfirst hrest ih =>
    rw [List.mapM_cons, hfirst, ih]
    rfl

/-- The first error ends the walk over a list. -/
theorem mapM_eq_error {before after : List α} {bs : List β} {a : α} {e : ε}
    (h : List.Forall₂ (fun a b => f a = .ok b) before bs) (ha : f a = .error e) :
    (before ++ a :: after).mapM f = .error e := by
  induction h with
  | nil =>
    rw [List.nil_append, List.mapM_cons, ha]
    rfl
  | cons hfirst hrest ih =>
    rw [List.cons_append, List.mapM_cons, hfirst, ih]
    rfl

end MapM

namespace Driver

variable {driver : Driver σ} {tables : NodeId → Table Value} {id : NodeId} {node : Node σ}
  {answer : UserCode σ (Except Fault (List Value)) → Except Cause (List Value)}

/-! ### A run obeys the equations -/

section Equations

variable (hanswer : ∀ code, node.role.Calls code → code.Gives (answer code))

include hanswer

/-- A pure function has one answer, up to the place of its fault. -/
theorem answer_of_mayGive {code : UserCode σ (Except Fault (List Value))}
    (hcalls : node.role.Calls code) {given : Except Fault (List Value)}
    (h : code.MayGive given) : answer code = given.mapError Fault.cause :=
  ((hanswer code hcalls).mapError_eq h).symm

/-- Values that fit those of the sources, with nothing but equal values accepted, are the
values computed anew. -/
theorem recompute_of_fits {set : List Value} {groups : List (List Value)}
    (hbuiltIn : node.role.isBuiltIn = true)
    (hfaults : ∀ source ∈ node.sources, (tables source).isFaulted = false)
    (h : node.Fits Eq UserCode.MayYield set tables groups) :
    node.recompute answer set (fun source => (tables source).outcome) id
      = .ok groups.flatten := by
  have hgiven : ∀ source ∈ node.sources, (tables source).outcome = .ok (tables source).values :=
    fun source hsource => Table.outcome_of_isFaulted_eq_false (hfaults source hsource)
  cases hrole : node.role with
  | input =>
    rw [Node.fits_input_iff hrole] at h
    rw [Node.recompute_of_input hrole, h.1.eq]
  | transform source function =>
    rw [Node.fits_transform_iff hrole] at h
    -- Nothing but equal values stands in, so each group is what the function gives.
    have hmap : (tables source).values.mapM (fun value => answer (function.call value))
        = .ok groups := by
      refine mapM_eq_ok (h.imp ?_)
      rintro value group ⟨outputs, houtputs, hagree⟩
      have hcalls := Node.calls_of_transform hrole value
      rw [hagree.eq, answer_of_mayGive hanswer hcalls houtputs]
      rfl
    rw [Node.recompute_of_transform hrole (hgiven source (Node.mem_sources_of_transform hrole)),
      hmap]
    rfl
  | batch source function =>
    rw [Node.fits_batch_iff hrole] at h
    obtain ⟨group, rfl, outputs, houtputs, hagree⟩ := h
    have hcalls := Node.calls_of_batch hrole (tables source).values
    rw [Node.recompute_of_batch hrole (hgiven source (Node.mem_sources_of_batch hrole)),
      answer_of_mayGive hanswer hcalls houtputs, hagree.eq, List.flatten_singleton]
    rfl
  | combine left right =>
    rw [Node.fits_combine_iff hrole] at h
    obtain ⟨single, hsingle, hpairs⟩ := h
    have hgroups : groups = (tables left).values.map fun value => [Value.pair value single] := by
      have heq : List.Forall₂ (fun group value => group = [Value.pair value single])
          groups (tables left).values := hpairs.flip.imp fun _ _ hagree => Agree.eq hagree
      have hmapped := List.forall₂_map_right_iff.mpr heq
      rwa [List.forall₂_eq_eq_eq] at hmapped
    have hright := hgiven right (Node.right_mem_sources hrole)
    rw [hsingle] at hright
    rw [Node.recompute_of_combine hrole (hgiven left (Node.left_mem_sources hrole)) hright,
      hgroups, ← List.flatMap_def, List.map_eq_flatMap]
  | custom name turns program =>
    rw [hrole] at hbuiltIn
    cases hbuiltIn

end Equations

/-- The fault of the first source that has one is the fault of a node computed anew. -/
theorem recompute_of_carried {set : List Value} {source : NodeId} {fault : Fault}
    (hfirst : node.sources.find? (fun source => (tables source).isFaulted) = some source)
    (hfault : tables source = .faulted fault) :
    node.recompute answer set (fun source => (tables source).outcome) id
      = .error fault.cause := by
  have hgiven : (tables source).outcome = .error fault.cause := by
    rw [hfault, Table.outcome_faulted]
  cases hsources : node.sources with
  | nil =>
    rw [hsources] at hfirst
    cases hfirst
  | cons first rest =>
    rw [hsources, List.find?_cons] at hfirst
    cases hleft : (tables first).isFaulted with
    | true =>
      rw [hleft] at hfirst
      cases hfirst
      exact Node.recompute_of_first_error hsources hgiven
    | false =>
      -- A source after the first one is the right one of a combine.
      rw [hleft] at hfirst
      have hrole := Node.role_of_sources_cons hsources (List.mem_of_find?_eq_some hfirst)
      exact Node.recompute_of_right_error hrole (Table.outcome_of_isFaulted_eq_false hleft) hgiven

/-- A combine computed anew fails as well if its right side is not a single value. -/
theorem recompute_of_refused {set : List Value} {left right : NodeId}
    (hrole : node.role = .combine left right)
    (hfaults : ∀ source ∈ node.sources, (tables source).isFaulted = false)
    (hcount : (tables right).values.length ≠ 1) :
    node.recompute answer set (fun source => (tables source).outcome) id
      = .error (.error (.invalidState (.rightNotSingle id (tables right).values.length))) := by
  have hleft := hfaults left (Node.left_mem_sources hrole)
  have hright := hfaults right (Node.right_mem_sources hrole)
  exact Node.recompute_of_combine_of_length_ne hrole (Table.outcome_of_isFaulted_eq_false hleft)
    (Table.outcome_of_isFaulted_eq_false hright) hcount

section Failed

variable (hanswer : ∀ code, node.role.Calls code → code.Gives (answer code))
  (hfounded : driver.Founded (fun _ => Eq) id node)
  (hfollows : ∀ source ∈ node.sources, (tables source).Follows (driver.baseline source))
  (hadmits : ∀ kept ∈ (driver.baseline id).values, ∀ current,
    (driver.comparer id node).equals kept current = true → kept = current)

include hanswer hfounded hfollows hadmits

/-- A node that failed at what its function gave fails if computed anew. The groups
written before were given, or kept, for values that the function does not fail for. -/
theorem recompute_of_failed {set : List Value} {items : List (Entry Value)}
    {answers : Value → Except Fault (List Value) → Prop} {fault : Fault}
    (hfeeds : driver.Feeds tables id node items answers)
    (hfaults : ∀ source ∈ node.sources, (tables source).isFaulted = false)
    (hfailed : Failed (driver.comparer id node).equals answers items
      ((driver.baseline id).groups.map Group.values) fault) :
    node.recompute answer set (fun source => (tables source).outcome) id
      = .error fault.cause := by
  obtain ⟨before, item, rest, groups, left, hitems, hwritten, hlive, -, hgives⟩ := hfailed
  have hbacked := hfeeds.backed hfounded hfollows hfaults
  rw [hitems] at hbacked
  -- The groups before the culprit fit their values, though some were only kept.
  have hbefore := hwritten.fits
    (fun kept hkept current => hadmits kept (Draft.mem_values_of_pending _ kept hkept) current)
    hbacked.of_append
  have hgiven : ∀ source ∈ node.sources, (tables source).outcome = .ok (tables source).values :=
    fun source hsource => Table.outcome_of_isFaulted_eq_false (hfaults source hsource)
  cases hfeeds with
  | input hrole => cases hgives
  | combine left right item hrole hitem => cases hgives
  | transform source function hrole =>
    have hcalls := Node.calls_of_transform hrole
    have hvalues : (tables source).values = (before.filter Entry.isLive).map Entry.value ++
        item.value :: (rest.filter Entry.isLive).map Entry.value := by
      rw [Table.values_eq, hitems, List.filter_append, List.filter_cons_of_pos hlive,
        List.map_append, List.map_cons]
    have hmap : (tables source).values.mapM (fun value => answer (function.call value))
        = .error fault.cause := by
      rw [hvalues]
      refine mapM_eq_error (hbefore.imp ?_) (answer_of_mayGive hanswer (hcalls _) hgives)
      rintro value group ⟨outputs, houtputs, hagree⟩
      rw [answer_of_mayGive hanswer (hcalls value) houtputs, Agree.eq hagree]
      rfl
    rw [Node.recompute_of_transform hrole (hgiven source (Node.mem_sources_of_transform hrole)),
      hmap]
    rfl
  | batch source function hrole =>
    have hcalls := Node.calls_of_batch hrole (tables source).values
    rw [Node.recompute_of_batch hrole (hgiven source (Node.mem_sources_of_batch hrole)),
      answer_of_mayGive hanswer hcalls hgives]
    rfl

/-- What a node gives in a run is what it gives if computed anew. -/
theorem outcome_of_computes (hbuiltIn : node.role.isBuiltIn = true)
    (h : driver.Computes (fun _ => Eq) tables id node) :
    (tables id).outcome = node.recompute answer (driver.valuesOf id)
      (fun source => (tables source).outcome) id := by
  cases hfault : (tables id).isFaulted with
  | false =>
    have hfits := h.advances.fits hfault
    have hself : (tables id).Follows (driver.baseline id) :=
      ⟨hfounded.isBaseline, _, h.advances.tracks⟩
    rw [Table.outcome_of_isFaulted_eq_false hfault, (hself.asCached hfault).2,
      recompute_of_fits hanswer hbuiltIn (h.advances.closed hfault) hfits]
  | true =>
    obtain ⟨fault, htable⟩ := Table.eq_faulted_of_isFaulted hfault
    obtain ⟨⟨product, hmakes, hproduct⟩, -⟩ := h
    rw [htable] at hproduct ⊢
    rw [Table.outcome_faulted]
    -- A baseline is never faulted, so the node ended with a fault of its own.
    cases hmakes with
    | reused hsources hcompacted hempty => exact absurd hproduct.symm hfounded.ne_faulted
    | settled hrole hfeeds hwritten hcached hempty =>
      exact absurd hproduct.symm hfounded.ne_faulted
    | carried source fault' hfirst hsource =>
      cases hproduct
      exact (recompute_of_carried hfirst hsource).symm
    | refused left right hrole hfaults hstale hsingle =>
      cases hproduct
      exact (recompute_of_refused hrole hfaults
        (Table.length_values_of_single?_eq_none hsingle)).symm
    | failed fault' hfeeds hfaults hstale hfailed =>
      cases hproduct
      exact (recompute_of_failed hanswer hfounded hfollows hadmits hfeeds hfaults hfailed).symm
    | written hfeeds hfaults hstale hchanged hwritten => cases hproduct

end Failed

/-! ### The equations have one solution -/

/-- What a node gives if computed anew depends on its role and on what its sources give. -/
theorem recompute_congr {node' : Node σ} {set set' : List Value}
    {given given' : NodeId → Except Cause (List Value)} (hrole : node'.role = node.role)
    (hset : set = set') (hgiven : ∀ source ∈ node.sources, given source = given' source) :
    node.recompute answer set given id = node'.recompute answer set' given' id := by
  subst hset
  unfold Node.recompute
  rw [hrole]
  cases hcase : node.role with
  | input => rfl
  | transform source function =>
    simp only [hgiven source (Node.mem_sources_of_transform hcase)]
  | batch source function =>
    simp only [hgiven source (Node.mem_sources_of_batch hcase)]
  | combine left right =>
    simp only [hgiven left (Node.left_mem_sources hcase),
      hgiven right (Node.right_mem_sources hcase)]
  | custom name turns program => rfl

/-- Two solutions over nodes with the same roles and the same values set agree. -/
theorem given_unique {pipeline other : Pipeline σ}
    (hroles : other.nodes.map Node.role = pipeline.nodes.map Node.role)
    {set set' : NodeId → List Value} (hset : ∀ id ∈ pipeline.ids, set id = set' id)
    {given given' : NodeId → Except Cause (List Value)}
    (hgiven : ∀ id node, pipeline.node? id = some node →
      given id = node.recompute answer (set id) given id)
    (hgiven' : ∀ id node, other.node? id = some node →
      given' id = node.recompute answer (set' id) given' id) :
    ∀ id node, pipeline.node? id = some node → given id = given' id := by
  -- Sources have smaller numbers than the nodes that draw on them.
  suffices h : ∀ count : Nat, ∀ id node, id.raw < count → pipeline.node? id = some node →
      given id = given' id from fun id node hnode => h (id.raw + 1) id node (by omega) hnode
  intro count
  induction count with
  | zero =>
    intro id node hlt
    exact absurd hlt (Nat.not_lt_zero _)
  | succ count ih =>
    intro id node hlt hnode
    -- The other pipeline has a node with the same role at this number.
    have hother : (other.node? id).map Node.role = some node.role := by
      have hat := congrArg (·[id.raw]?) hroles
      simp only [List.getElem?_map] at hat
      show (other.nodes[id.raw]?).map Node.role = _
      rw [hat]
      exact congrArg (Option.map Node.role) hnode
    obtain ⟨node', hnode', hrole⟩ := Option.map_eq_some_iff.mp hother
    have hid : id ∈ pipeline.ids :=
      (Pipeline.mem_ids _ id).mpr ((Pipeline.contains_iff _ id).mpr ⟨node, hnode⟩)
    rw [hgiven id node hnode, hgiven' id node' hnode']
    refine recompute_congr hrole (hset id hid) fun source hsource => ?_
    obtain ⟨hbefore, before, hsourceNode⟩ := Pipeline.exists_source hnode hsource
    exact ih source before (by omega) hsourceNode

end Driver

end DeltaPipeline
