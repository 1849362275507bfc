import DeltaPipeline.Proofs.Histories
import DeltaPipeline.Workspace

/-!
# `DeltaPipeline.Proofs.Workspaces`: histories of several pipelines and drivers

What each command does is said once, guards included. From that it follows what every
history keeps: a pipeline is numbered by its position, a driver has the pipeline it was
given, which does not change any more, and no two drivers have the same one.

* `Workspace.Performs`: what each command does, and its answer.
* `Workspace.act`, `Workspace.after`: commands and histories of them.
* `Workspace.IsSound`: what every history keeps.
* `Workspace.Declared`, `Workspace.Reported`: the handles and reports of a history.
-/

set_option autoImplicit false

namespace DeltaPipeline

variable {σ : Type}

/-! ### Declarations -/

namespace Pipeline

variable {pipeline : Pipeline σ}

/-- In no nodes all sources are declared before their readers. -/
theorem sources_lt_nil (i : Nat) (node : Node σ) (h : ([] : List (Node σ))[i]? = some node) :
    ∀ source ∈ node.sources, source.raw < i := by
  simp at h

/-- A pipeline in which nothing is declared yet. -/
def fresh (id : Nat) : Pipeline σ where
  id := id
  sources_lt := sources_lt_nil

/-- What a declaration does that is accepted. -/
theorem declare_ok {declaration : Declaration σ} {handle : Handle} {next : Pipeline σ}
    (h : pipeline.declare declaration = .ok (handle, next)) :
    (∀ source ∈ declaration.role.sources, pipeline.owns source = true) ∧
      handle = ⟨pipeline.id, ⟨pipeline.size⟩, declaration.element⟩ ∧ next.id = pipeline.id ∧
      next.nodes = pipeline.nodes ++
        [⟨declaration.role.map Handle.node, declaration.comparer, declaration.element⟩] := by
  unfold declare at h
  split at h
  · cases h
  · next hown =>
    cases h
    refine ⟨fun source hsource => ?_, rfl, rfl, rfl⟩
    simpa using List.find?_eq_none.mp hown source hsource

/-- A node is added, so there is one more. -/
theorem size_of_declare_ok {declaration : Declaration σ} {handle : Handle} {next : Pipeline σ}
    (h : pipeline.declare declaration = .ok (handle, next)) : next.size = pipeline.size + 1 := by
  rw [size, (declare_ok h).2.2.2, List.length_append]
  rfl

/-- A name is set for an own handle only, and changes nothing else. -/
theorem setName_ok {handle : Handle} {name : String} {next : Pipeline σ}
    (h : pipeline.setName handle name = .ok next) : next.id = pipeline.id ∧
      next.nodes = pipeline.nodes := by
  unfold setName at h
  split at h
  · cases h
    exact ⟨rfl, rfl⟩
  · cases h

/-- A pipeline accepts a name for each node of its own. -/
theorem setName_of_owns {handle : Handle} (h : pipeline.owns handle = true) (name : String) :
    ∃ next, pipeline.setName handle name = .ok next := by
  unfold setName
  rw [if_pos h]
  exact ⟨_, rfl⟩

/-- A pipeline that has no fewer nodes owns all the handles. -/
theorem owns_mono {next : Pipeline σ} (hid : next.id = pipeline.id)
    (hsize : pipeline.size ≤ next.size) {handle : Handle} (h : pipeline.owns handle = true) :
    next.owns handle = true := by
  simp only [owns, contains, Bool.and_eq_true, decide_eq_true_eq] at h ⊢
  exact ⟨h.1.trans hid.symm, Nat.lt_of_lt_of_le h.2 hsize⟩

end Pipeline

/-- Values can be set on an own node, unless it is no input. -/
theorem Driver.setInput_of_owns {driver : Driver σ} {handle : Handle}
    (h : driver.pipeline.owns handle = true) (values : List Value) :
    (∃ changed, driver.change (.setInput handle values) = .ok changed) ∨
      ∃ kind : Kind, kind.name ≠ "input" ∧ driver.change (.setInput handle values)
        = .error (.invalidState (.notAnInput handle.node kind)) := by
  have hcontains : driver.pipeline.contains handle.node = true := by
    simp only [Pipeline.owns, Bool.and_eq_true] at h
    exact h.2
  obtain ⟨node, hnode⟩ := (driver.pipeline.contains_iff handle.node).mp hcontains
  have hkind : driver.pipeline.kind? handle.node = some node.kind := by
    rw [Pipeline.kind?, hnode]
    rfl
  unfold change setInput
  dsimp only
  rw [if_pos h, hkind]
  dsimp only
  by_cases hname : node.kind.name = "input"
  · rw [if_pos hname]
    exact .inl ⟨_, rfl⟩
  · rw [if_neg hname]
    exact .inr ⟨node.kind, hname, rfl⟩

namespace Workspace

variable {workspace next : Workspace σ} {command : Command σ} {answer : Answer σ}

/-! ### What commands do -/

/-- What each command does, and how it is answered. -/
inductive Performs (workspace : Workspace σ) : Command σ → Answer σ → Workspace σ → Prop where
  | create : Performs workspace .create (.created workspace.pipelines.length)
    { workspace with pipelines := workspace.pipelines ++ [.fresh workspace.pipelines.length] }
  | declare {number : Nat} {declaration : Declaration σ} {pipeline declared : Pipeline σ}
    {handle : Handle} : workspace.open? number = some pipeline →
    pipeline.declare declaration = .ok (handle, declared) →
    Performs workspace (.declare number declaration) (.declared handle)
      (workspace.setPipeline number declared)
  | declareForeign {number : Nat} {declaration : Declaration σ} {pipeline : Pipeline σ}
    {foreign : ForeignHandle} : workspace.open? number = some pipeline →
    pipeline.declare declaration = .error foreign →
    Performs workspace (.declare number declaration) (.foreign foreign) workspace
  | setName {number : Nat} {handle : Handle} {name : String} {pipeline named : Pipeline σ} :
    workspace.open? number = some pipeline → pipeline.setName handle name = .ok named →
    Performs workspace (.setName number handle name) .done (workspace.setPipeline number named)
  | setNameForeign {number : Nat} {handle : Handle} {name : String} {pipeline : Pipeline σ}
    {foreign : ForeignHandle} : workspace.open? number = some pipeline →
    pipeline.setName handle name = .error foreign →
    Performs workspace (.setName number handle name) (.foreign foreign) workspace
  | drive {number : Nat} {tracksSteps : Bool} {pipeline : Pipeline σ} :
    workspace.open? number = some pipeline →
    Performs workspace (.drive number tracksSteps) (.driving workspace.drivers.length)
      { workspace with drivers := workspace.drivers ++ [Driver.fresh pipeline tracksSteps] }
  | change {number : Nat} {change : Driver.Change σ} {driver changed : Driver σ} :
    workspace.drivers[number]? = some driver → driver.change change = .ok changed →
    Performs workspace (.change number change) .done (workspace.setDriver number changed)
  | refuse {number : Nat} {change : Driver.Change σ} {driver : Driver σ} {e : Error} :
    workspace.drivers[number]? = some driver → driver.change change = .error e →
    Performs workspace (.change number change) (.refused e) workspace
  | run {number : Nat} {token : Option Nat} {env : Env σ} {driver : Driver σ} :
    workspace.drivers[number]? = some driver → workspace.shared.env? token = some env →
    Performs workspace (.run number token) (.ran (driver.run env))
      { workspace.setDriver number (driver.run env).driver with
        shared := workspace.shared.leave token (driver.run env).env }
  | shared {command : Shared.Command σ} {answer : Shared.Answer} {shared : Shared σ} :
    workspace.shared.perform command = some (answer, shared) →
    Performs workspace (.shared command) (.shared answer) { workspace with shared }

/-- What the relation says of a command is what performing it gives. -/
theorem Performs.perform (h : workspace.Performs command answer next) :
    workspace.perform command = some (answer, next) := by
  cases h with
  | create => rfl
  | declare hopen hdeclare => simp [Workspace.perform, hopen, hdeclare]
  | declareForeign hopen hdeclare => simp [Workspace.perform, hopen, hdeclare]
  | setName hopen hname => simp [Workspace.perform, hopen, hname]
  | setNameForeign hopen hname => simp [Workspace.perform, hopen, hname]
  | drive hopen => simp [Workspace.perform, hopen, Driver.fresh]
  | change hdriver hchange => simp [Workspace.perform, hdriver, hchange]
  | refuse hdriver hchange => simp [Workspace.perform, hdriver, hchange]
  | run hdriver henv => simp [Workspace.perform, hdriver, henv]
  | shared hperform => simp [Workspace.perform, hperform]

/-- A command that the workspace performs is one that the relation describes. -/
theorem performs_of_perform (h : workspace.perform command = some (answer, next)) :
    workspace.Performs command answer next := by
  -- In each case the premises of the relation are the guards that the command passed.
  cases command with
  | create =>
    cases h
    exact .create
  | declare number declaration =>
    cases hopen : workspace.open? number with
    | none => simp [Workspace.perform, hopen] at h
    | some pipeline =>
      cases hdeclare : pipeline.declare declaration with
      | error foreign =>
        simp [Workspace.perform, hopen, hdeclare] at h
        obtain ⟨rfl, rfl⟩ := h
        exact .declareForeign hopen hdeclare
      | ok made =>
        simp [Workspace.perform, hopen, hdeclare] at h
        obtain ⟨rfl, rfl⟩ := h
        exact .declare hopen hdeclare
  | setName number handle name =>
    cases hopen : workspace.open? number with
    | none => simp [Workspace.perform, hopen] at h
    | some pipeline =>
      cases hname : pipeline.setName handle name with
      | error foreign =>
        simp [Workspace.perform, hopen, hname] at h
        obtain ⟨rfl, rfl⟩ := h
        exact .setNameForeign hopen hname
      | ok named =>
        simp [Workspace.perform, hopen, hname] at h
        obtain ⟨rfl, rfl⟩ := h
        exact .setName hopen hname
  | drive number tracksSteps =>
    cases hopen : workspace.open? number with
    | none => simp [Workspace.perform, hopen] at h
    | some pipeline =>
      simp [Workspace.perform, hopen] at h
      obtain ⟨rfl, rfl⟩ := h
      exact .drive hopen
  | change number change =>
    cases hdriver : workspace.drivers[number]? with
    | none => simp [Workspace.perform, hdriver] at h
    | some driver =>
      cases hchange : driver.change change with
      | error e =>
        simp [Workspace.perform, hdriver, hchange] at h
        obtain ⟨rfl, rfl⟩ := h
        exact .refuse hdriver hchange
      | ok changed =>
        simp [Workspace.perform, hdriver, hchange] at h
        obtain ⟨rfl, rfl⟩ := h
        exact .change hdriver hchange
  | run number token =>
    cases hdriver : workspace.drivers[number]? with
    | none => simp [Workspace.perform, hdriver] at h
    | some driver =>
      cases henv : workspace.shared.env? token with
      | none => simp [Workspace.perform, hdriver, henv] at h
      | some env =>
        simp [Workspace.perform, hdriver, henv] at h
        obtain ⟨rfl, rfl⟩ := h
        exact .run hdriver henv
  | shared command =>
    cases hperform : workspace.shared.perform command with
    | none => simp [Workspace.perform, hperform] at h
    | some result =>
      simp [Workspace.perform, hperform] at h
      obtain ⟨rfl, rfl⟩ := h
      exact .shared hperform

/-- The pipeline that is open at a number is the one there, and no driver has it. -/
theorem open?_eq_some_iff {number : Nat} {pipeline : Pipeline σ} :
    workspace.open? number = some pipeline ↔
      workspace.pipelines[number]? = some pipeline ∧
        ∀ driver ∈ workspace.drivers, driver.pipeline.id ≠ number := by
  unfold open? isDriven
  cases hdriven : workspace.drivers.any (·.pipeline.id = number) with
  | true =>
    obtain ⟨driver, hmem, hid⟩ := List.any_eq_true.mp hdriven
    simp only [if_true, reduceCtorEq, false_iff]
    exact fun h => h.2 driver hmem (of_decide_eq_true hid)
  | false =>
    have hnone := List.any_eq_false.mp hdriven
    simp only [Bool.false_eq_true, if_false]
    exact ⟨fun h => ⟨h, fun driver hmem hid => hnone driver hmem (decide_eq_true hid)⟩,
      fun h => h.1⟩

/-! ### Histories -/

/-- The workspace after a command. A command without an answer changes nothing. -/
def act (workspace : Workspace σ) (command : Command σ) : Workspace σ :=
  ((workspace.perform command).map Prod.snd).getD workspace

/-- How the command is answered, if it is. -/
def answer? (workspace : Workspace σ) (command : Command σ) : Option (Answer σ) :=
  (workspace.perform command).map Prod.fst

/-- The workspace after a history of commands. -/
def after (workspace : Workspace σ) (history : List (Command σ)) : Workspace σ :=
  history.foldl act workspace

/-- The workspace of a host in this state, in which nothing is there yet. -/
def fresh (host : σ) : Workspace σ where
  shared := { host }

/-- The workspace that a history leads to from nothing. -/
def reached (host : σ) (history : List (Command σ)) : Workspace σ :=
  (fresh host).after history

/-- A history one command longer ends where that command leads. -/
theorem reached_concat (host : σ) (history : List (Command σ)) (command : Command σ) :
    reached host (history ++ [command]) = (reached host history).act command :=
  List.foldl_concat ..

/-- A history in two parts goes on from where its first part ends. -/
theorem reached_append (host : σ) (history rest : List (Command σ)) :
    reached host (history ++ rest) = (reached host history).after rest :=
  List.foldl_append

/-- A command that is performed leads to the workspace it leaves. -/
theorem Performs.act (h : workspace.Performs command answer next) :
    workspace.act command = next := by
  rw [Workspace.act, h.perform]
  rfl

/-- A command that is performed is answered. -/
theorem Performs.answer? (h : workspace.Performs command answer next) :
    workspace.answer? command = some answer := by
  rw [Workspace.answer?, h.perform]
  rfl

/-- A command that is answered does what it may. -/
theorem performs_of_answer? (h : workspace.answer? command = some answer) :
    workspace.Performs command answer (workspace.act command) := by
  obtain ⟨result, hperform, rfl⟩ := Option.map_eq_some_iff.mp h
  have hperforms : workspace.Performs command result.1 result.2 := performs_of_perform hperform
  rw [hperforms.act]
  exact hperforms

/-- A command changes nothing, or it does what it may. -/
theorem act_cases (workspace : Workspace σ) (command : Command σ) :
    workspace.act command = workspace ∨
      ∃ answer, workspace.Performs command answer (workspace.act command) := by
  cases hanswer : workspace.answer? command with
  | none =>
    left
    rw [Workspace.act, Option.map_eq_none_iff.mp hanswer]
    rfl
  | some answer => exact .inr ⟨answer, performs_of_answer? hanswer⟩

/-- A number is that of one pipeline, and a driver has the pipeline it was given, which no
other has. -/
structure IsSound (workspace : Workspace σ) : Prop where
  numbered : ∀ (number : Nat) (pipeline : Pipeline σ),
    workspace.pipelines[number]? = some pipeline → pipeline.id = number
  driven : ∀ driver ∈ workspace.drivers,
    workspace.pipelines[driver.pipeline.id]? = some driver.pipeline
  apart : (workspace.drivers.map (·.pipeline.id)).Nodup

namespace IsSound

/-- What is shared may change. -/
theorem of_same (h : workspace.IsSound) (hpipelines : next.pipelines = workspace.pipelines)
    (hdrivers : next.drivers = workspace.drivers) : next.IsSound := by
  constructor
  case numbered =>
    rw [hpipelines]
    exact h.numbered
  case driven =>
    rw [hpipelines, hdrivers]
    exact h.driven
  case apart =>
    rw [hdrivers]
    exact h.apart

/-- A pipeline that no driver has may be changed. -/
theorem setPipeline (h : workspace.IsSound) {number : Nat} {pipeline changed : Pipeline σ}
    (hopen : workspace.open? number = some pipeline) (hid : changed.id = pipeline.id) :
    (workspace.setPipeline number changed).IsSound := by
  obtain ⟨hpipeline, hundriven⟩ := open?_eq_some_iff.mp hopen
  have hnumber := h.numbered number pipeline hpipeline
  constructor
  case numbered =>
    intro other found hfound
    simp only [Workspace.setPipeline, List.getElem?_set] at hfound
    split at hfound
    · split at hfound
      · cases hfound
        omega
      · cases hfound
    · exact h.numbered other found hfound
  case driven =>
    -- The drivers have other pipelines, which stay.
    intro driver hdriver
    simp only [Workspace.setPipeline, List.getElem?_set_ne (Ne.symm (hundriven driver hdriver))]
    exact h.driven driver hdriver
  case apart => exact h.apart

/-- A driver may be changed that keeps its pipeline. -/
theorem setDriver (h : workspace.IsSound) {number : Nat} {driver changed : Driver σ}
    (hdriver : workspace.drivers[number]? = some driver)
    (hpipeline : changed.pipeline = driver.pipeline) :
    (workspace.setDriver number changed).IsSound := by
  constructor
  case numbered => exact h.numbered
  case driven =>
    intro found hfound
    rcases List.mem_or_eq_of_mem_set hfound with hmem | rfl
    · exact h.driven found hmem
    · rw [hpipeline]
      exact h.driven driver (List.mem_of_getElem? hdriver)
  case apart =>
    -- The numbers of the pipelines that drivers have are as before.
    obtain ⟨hlt, rfl⟩ := List.getElem?_eq_some_iff.mp hdriver
    have hsame : (workspace.drivers.set number changed).map (·.pipeline.id)
        = workspace.drivers.map (·.pipeline.id) := by
      calc (workspace.drivers.set number changed).map (·.pipeline.id)
          = (workspace.drivers.set number workspace.drivers[number]).map (·.pipeline.id) := by
            rw [List.map_set, List.map_set, hpipeline]
        _ = workspace.drivers.map (·.pipeline.id) := by rw [List.set_getElem_self]
    show ((workspace.drivers.set number changed).map _).Nodup
    rw [hsame]
    exact h.apart

/-- A new pipeline has an identity that none has. -/
theorem create (h : workspace.IsSound) : IsSound { workspace with
    pipelines := workspace.pipelines ++ [.fresh workspace.pipelines.length] } := by
  constructor
  case numbered =>
    intro number pipeline hpipeline
    rcases Nat.lt_trichotomy number workspace.pipelines.length with hlt | rfl | hlt
    · rw [List.getElem?_append_left hlt] at hpipeline
      exact h.numbered number pipeline hpipeline
    · simp only [List.getElem?_concat_length, Option.some.injEq] at hpipeline
      rw [← hpipeline]
      rfl
    · rw [List.getElem?_eq_none (by simp; omega)] at hpipeline
      cases hpipeline
  case driven =>
    intro driver hdriver
    have hold := h.driven driver hdriver
    rw [List.getElem?_append_left (List.getElem?_eq_some_iff.mp hold).1]
    exact hold
  case apart => exact h.apart

/-- A new driver runs a pipeline of the workspace. -/
theorem drive (h : workspace.IsSound) {number : Nat} {pipeline : Pipeline σ}
    (tracksSteps : Bool) (hopen : workspace.open? number = some pipeline) :
    IsSound { workspace with
      drivers := workspace.drivers ++ [Driver.fresh pipeline tracksSteps] } := by
  obtain ⟨hpipeline, hundriven⟩ := open?_eq_some_iff.mp hopen
  have hnumber := h.numbered number pipeline hpipeline
  constructor
  case numbered => exact h.numbered
  case driven =>
    intro driver hdriver
    rcases List.mem_append.mp hdriver with hmem | hmem
    · exact h.driven driver hmem
    · rw [List.mem_singleton.mp hmem]
      show workspace.pipelines[pipeline.id]? = some pipeline
      rw [hnumber]
      exact hpipeline
  case apart =>
    rw [List.map_append, List.nodup_append]
    refine ⟨h.apart, List.nodup_singleton _, ?_⟩
    intro id hid id' hid' heq
    obtain ⟨driver, hmem, rfl⟩ := List.mem_map.mp hid
    rw [List.map_singleton, List.mem_singleton] at hid'
    exact hundriven driver hmem (heq.trans (hid'.trans hnumber))

/-- Each command keeps the workspace sound. -/
theorem performs (h : workspace.IsSound) (hperforms : workspace.Performs command answer next) :
    next.IsSound := by
  cases hperforms with
  | create => exact h.create
  | declare hopen hdeclare => exact h.setPipeline hopen (Pipeline.declare_ok hdeclare).2.2.1
  | declareForeign hopen hdeclare => exact h
  | setName hopen hname => exact h.setPipeline hopen (Pipeline.setName_ok hname).1
  | setNameForeign hopen hname => exact h
  | drive hopen => exact h.drive _ hopen
  | change hdriver hchange =>
    exact h.setDriver hdriver (Driver.changesTo_of_change hchange).frame.1
  | refuse hdriver hchange => exact h
  | run hdriver henv =>
    exact (h.setDriver hdriver (Driver.act_cases _ (.run _)).1).of_same rfl rfl
  | shared hperform => exact h.of_same rfl rfl

/-- A command without an answer changes nothing, so every command keeps what is sound. -/
theorem act (h : workspace.IsSound) (command : Command σ) : (workspace.act command).IsSound := by
  rcases act_cases workspace command with hsame | ⟨answer, hperforms⟩
  · rw [hsame]
    exact h
  · exact h.performs hperforms

end IsSound

/-- Every history of commands leads to a sound workspace. -/
theorem isSound_reached (host : σ) (history : List (Command σ)) :
    (reached host history).IsSound := by
  induction history using List.reverseRecOn with
  | nil => exact ⟨fun number pipeline h => (nomatch h), fun driver h => (nomatch h), .nil⟩
  | append_singleton history command ih =>
    rw [reached_concat]
    exact ih.act command

/-! ### Handles and reports -/

/-- A pipeline stays, with its number and no fewer nodes. -/
theorem Performs.pipeline (h : workspace.Performs command answer next) {number : Nat}
    {pipeline : Pipeline σ} (hpipeline : workspace.pipelines[number]? = some pipeline) :
    ∃ later, next.pipelines[number]? = some later ∧ later.id = pipeline.id ∧
      pipeline.size ≤ later.size := by
  have hkept : ∃ later, workspace.pipelines[number]? = some later ∧ later.id = pipeline.id ∧
      pipeline.size ≤ later.size := ⟨pipeline, hpipeline, rfl, Nat.le_refl _⟩
  -- An open pipeline may be changed into one that is no smaller.
  have hset : ∀ {other : Nat} {before changed : Pipeline σ},
      workspace.open? other = some before → changed.id = before.id → before.size ≤ changed.size →
      ∃ later, (workspace.setPipeline other changed).pipelines[number]? = some later ∧
        later.id = pipeline.id ∧ pipeline.size ≤ later.size := by
    intro other before changed hopen hid hsize
    have hbefore := (open?_eq_some_iff.mp hopen).1
    by_cases heq : other = number
    · subst heq
      rw [hpipeline, Option.some.injEq] at hbefore
      subst hbefore
      have hlt := (List.getElem?_eq_some_iff.mp hpipeline).1
      exact ⟨changed, List.getElem?_set_self hlt, hid, hsize⟩
    · refine ⟨pipeline, ?_, rfl, Nat.le_refl _⟩
      show (workspace.pipelines.set other changed)[number]? = some pipeline
      rw [List.getElem?_set_ne heq]
      exact hpipeline
  cases h with
  | create =>
    refine ⟨pipeline, ?_, rfl, Nat.le_refl _⟩
    rw [List.getElem?_append_left (List.getElem?_eq_some_iff.mp hpipeline).1]
    exact hpipeline
  | declare hopen hdeclare =>
    have hsize := Pipeline.size_of_declare_ok hdeclare
    exact hset hopen (Pipeline.declare_ok hdeclare).2.2.1 (by omega)
  | declareForeign hopen hdeclare => exact hkept
  | setName hopen hname =>
    obtain ⟨hid, hnodes⟩ := Pipeline.setName_ok hname
    exact hset hopen hid (by simp [Pipeline.size, hnodes])
  | setNameForeign hopen hname => exact hkept
  | drive hopen => exact hkept
  | change hdriver hchange => exact hkept
  | refuse hdriver hchange => exact hkept
  | run hdriver henv => exact hkept
  | shared hperform => exact hkept

/-- A driver stays, with its pipeline. -/
theorem Performs.driver (h : workspace.Performs command answer next) {driver : Driver σ}
    (hdriver : driver ∈ workspace.drivers) :
    ∃ later ∈ next.drivers, later.pipeline = driver.pipeline := by
  have hset : ∀ {number : Nat} {before changed : Driver σ},
      workspace.drivers[number]? = some before → changed.pipeline = before.pipeline →
      ∃ later ∈ (workspace.setDriver number changed).drivers,
        later.pipeline = driver.pipeline := by
    intro number before changed hbefore hpipeline
    -- Either it is the driver that is replaced, or it stays at its own place.
    obtain ⟨other, hother⟩ := List.mem_iff_getElem?.mp hdriver
    by_cases heq : number = other
    · subst heq
      rw [hbefore, Option.some.injEq] at hother
      subst hother
      have hlt := (List.getElem?_eq_some_iff.mp hbefore).1
      exact ⟨changed, List.mem_set hlt changed, hpipeline⟩
    · refine ⟨driver, List.mem_iff_getElem?.mpr ⟨other, ?_⟩, rfl⟩
      show (workspace.drivers.set number changed)[other]? = some driver
      rw [List.getElem?_set_ne heq]
      exact hother
  cases h with
  | create => exact ⟨driver, hdriver, rfl⟩
  | declare hopen hdeclare => exact ⟨driver, hdriver, rfl⟩
  | declareForeign hopen hdeclare => exact ⟨driver, hdriver, rfl⟩
  | setName hopen hname => exact ⟨driver, hdriver, rfl⟩
  | setNameForeign hopen hname => exact ⟨driver, hdriver, rfl⟩
  | drive hopen => exact ⟨driver, List.mem_append_left _ hdriver, rfl⟩
  | change hbefore hchange =>
    exact hset hbefore (Driver.changesTo_of_change hchange).frame.1
  | refuse hbefore hchange => exact ⟨driver, hdriver, rfl⟩
  | run hbefore henv => exact hset hbefore (Driver.act_cases _ (.run _)).1
  | shared hperform => exact ⟨driver, hdriver, rfl⟩

/-- A pipeline stays where it is, keeps its identity and loses no node. -/
theorem exists_pipeline_after {number : Nat} {pipeline : Pipeline σ}
    (hpipeline : workspace.pipelines[number]? = some pipeline) (history : List (Command σ)) :
    ∃ later, (workspace.after history).pipelines[number]? = some later ∧
      later.id = pipeline.id ∧ pipeline.size ≤ later.size := by
  induction history generalizing workspace pipeline with
  | nil => exact ⟨pipeline, hpipeline, rfl, Nat.le_refl _⟩
  | cons command history ih =>
    show ∃ later, ((workspace.act command).after history).pipelines[number]? = some later ∧ _
    rcases act_cases workspace command with hsame | ⟨answer, hperforms⟩
    · rw [hsame]
      exact ih hpipeline
    · obtain ⟨middle, hmiddle, hid, hsize⟩ := hperforms.pipeline hpipeline
      obtain ⟨later, hlater, hid', hsize'⟩ := ih hmiddle
      exact ⟨later, hlater, hid'.trans hid, Nat.le_trans hsize hsize'⟩

/-- A driver keeps the pipeline that it took. -/
theorem exists_driver_after {driver : Driver σ} (hdriver : driver ∈ workspace.drivers)
    (history : List (Command σ)) :
    ∃ later ∈ (workspace.after history).drivers, later.pipeline = driver.pipeline := by
  induction history generalizing workspace driver with
  | nil => exact ⟨driver, hdriver, rfl⟩
  | cons command history ih =>
    show ∃ later ∈ ((workspace.act command).after history).drivers, _
    rcases act_cases workspace command with hsame | ⟨answer, hperforms⟩
    · rw [hsame]
      exact ih hdriver
    · obtain ⟨middle, hmiddle, hpipeline⟩ := hperforms.driver hdriver
      obtain ⟨later, hlater, hpipeline'⟩ := ih hmiddle
      exact ⟨later, hlater, hpipeline'.trans hpipeline⟩

section Named

variable {host : σ} {history : List (Command σ)} {number : Nat}

/-- In the history the pipeline with this number declared a node and gave this handle. -/
def Declared (host : σ) (history : List (Command σ)) (number : Nat) (handle : Handle) : Prop :=
  ∃ before declaration rest, history = before ++ .declare number declaration :: rest ∧
    (reached host before).answer? (.declare number declaration) = some (.declared handle)

/-- In the history a driver of the pipeline with this number completed a run with this
report. -/
def Reported (host : σ) (history : List (Command σ)) (number : Nat) (report : Report) : Prop :=
  ∃ before place token rest ran, history = before ++ .run place token :: rest ∧
    (reached host before).answer? (.run place token) = some (.ran ran) ∧
    ran.driver.pipeline.id = number ∧ ran.result = .ok report

/-- A handle is of the pipeline that gave it, which owns it from then on. -/
theorem Declared.owns {handle : Handle} (h : Declared host history number handle) :
    handle.pipeline = number ∧ ∃ pipeline,
      (reached host history).pipelines[number]? = some pipeline ∧
        pipeline.owns handle = true := by
  obtain ⟨before, declaration, rest, rfl, hanswer⟩ := h
  have hperforms := performs_of_answer? hanswer
  rw [reached_append]
  -- The node is there once it is declared, and the pipeline loses none after that.
  generalize hnext : (reached host before).act (.declare number declaration) = next at hperforms
  cases hperforms with
  | @declare _ _ pipeline declared _ hopen hdeclare =>
    have hsize := Pipeline.size_of_declare_ok hdeclare
    obtain ⟨-, rfl, hid, -⟩ := Pipeline.declare_ok hdeclare
    have hpipeline := (open?_eq_some_iff.mp hopen).1
    have hnumber := (isSound_reached host before).numbered number pipeline hpipeline
    have hlt := (List.getElem?_eq_some_iff.mp hpipeline).1
    have hdeclared : ((reached host before).setPipeline number declared).pipelines[number]?
        = some declared := List.getElem?_set_self hlt
    rw [← hnext] at hdeclared
    obtain ⟨later, hlater, hid', hsize'⟩ := exists_pipeline_after hdeclared rest
    have hown : declared.owns ⟨pipeline.id, ⟨pipeline.size⟩, declaration.element⟩ = true := by
      simp [Pipeline.owns, Pipeline.contains, hid, hsize]
    exact ⟨hnumber, later, hlater, Pipeline.owns_mono hid' hsize' hown⟩

/-- A report is of a run of the driver of this pipeline, which does not change any more. -/
theorem Reported.exists_run {report : Report} (h : Reported host history number report) :
    ∃ (driver : Driver σ) (env : Env σ), driver.pipeline.id = number ∧
      (driver.run env).result = .ok report ∧
      (reached host history).pipelines[number]? = some driver.pipeline := by
  obtain ⟨before, place, token, rest, ran, rfl, hanswer, hnumber, hresult⟩ := h
  have hperforms := performs_of_answer? hanswer
  -- A driver has its pipeline for good, so it is the same that was run and that is there now.
  generalize (reached host before).act (.run place token) = next at hperforms
  cases hperforms with
  | @run _ _ env driver hdriver henv =>
    have hkept : (driver.run env).driver.pipeline = driver.pipeline :=
      (Driver.act_cases driver (.run env)).1
    rw [hkept] at hnumber
    obtain ⟨later, hlater, hsame⟩ :=
      exists_driver_after (List.mem_of_getElem? hdriver) (.run place token :: rest)
    rw [← reached_append] at hlater
    have hdriven := (isSound_reached host _).driven later hlater
    rw [hsame, hnumber] at hdriven
    exact ⟨driver, env, hnumber, hresult, hdriven⟩

end Named

end Workspace

end DeltaPipeline
