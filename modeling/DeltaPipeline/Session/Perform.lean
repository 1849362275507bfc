import DeltaPipeline.Session.Basic
import DeltaPipeline.Session.Command

/-!
# `DeltaPipeline.Session.Perform`: carrying out commands

A command is about the workspace, clones a token, or is a question.

* `Session.task?`: what a command asks of the workspace.
* `Session.absorb`: the session once the workspace has answered.
* `Session.clone?`: clones a token.
* `Session.inspect?`: answers a question.
* `Session.perform`, `Session.performAll`: carry out commands.
-/

set_option autoImplicit false

namespace DeltaPipeline

/-- The view of a driver's baselines. -/
def StateView.ofDriver {σ : Type} (driver : Driver σ) : StateView where
  runs := driver.runs
  size := driver.baselines.length
  nodes := driver.pipeline.ids.map driver.baseline?

/-- The description of a pipeline. -/
def Description.ofPipeline {σ : Type} (pipeline : Pipeline σ) (handle : Option Handle)
    (id : Option NodeId) : Description where
  size := pipeline.size
  nodes := pipeline.ids.map fun id => (id, pipeline.kind? id, pipeline.names id)
  owns := handle.map pipeline.owns
  probe := id.map fun id => ⟨id, pipeline.contains id, pipeline.kind? id, pipeline.names id⟩

/-- An answer with the messages logged on the way. -/
structure Reply where
  answer : Answer
  notices : List Notice := []

namespace Session

/-! ### Commands about the workspace -/

/-- What a command asks of the workspace, with names looked up. -/
def task? (session : Session) : Command → Option (Workspace.Command Host)
  | .pipeline => some .create
  | .declare pipeline name recipe =>
    (recipe.declaration? session.handles name).map (.declare pipeline ·)
  | .setName pipeline node name => (session.handle? node).map (.setName pipeline · name)
  | .driver pipeline tracks => some (.drive pipeline (tracks.getD false))
  | .setInput driver node values =>
    (session.handle? node).map fun handle => .change driver (.setInput handle values)
  | .clearInput driver node =>
    (session.handle? node).map fun handle => .change driver (.clearInput handle)
  | .setComparer driver node rule =>
    (session.handle? node).map fun handle =>
      .change driver (.setComparer handle rule.comparer)
  | .clearComparer driver node =>
    (session.handle? node).map fun handle => .change driver (.clearComparer handle)
  | .token => some (.shared .token)
  | .cancel token => session.tokens[token]?.map fun token => .shared (.signal token true)
  | .resetToken token => session.tokens[token]?.map fun token => .shared (.signal token false)
  | .run driver none => some (.run driver none)
  | .run driver (some token) => session.tokens[token]?.map fun token => .run driver (some token)
  | .reset driver => some (.change driver .reset)
  | _ => none

/-- The session once the workspace has carried out a command: a node that was
declared is known by its name, a new token gets a number, and a run leaves its report. -/
def absorb (session : Session) : Command → Workspace.Answer Host → Session
  | .declare _ name _, .declared handle => session.know name handle
  | _, .shared (.made token) => { session with tokens := session.tokens ++ [token] }
  | _, .ran ran => { session with reports := session.reports ++ ran.result.toOption.toList }
  | _, _ => session

/-- The view of a run. -/
def runView (session : Session) (ran : Ran Host) : RunView where
  result := ran.result.map fun report =>
    { report, tables := ran.driver.pipeline.ids.filterMap report.find? }
  calls := (Event.calls ran.journal).filterMap fun (node, argument) =>
    (session.nameOf? ran.driver.pipeline.id node).map (·, argument)
  cancelled := ran.env.cancelled
  state := .ofDriver ran.driver

/-- How the session replies when the workspace has carried out a command. -/
def reply? (session : Session) : Command → Workspace.Answer Host → Option Reply
  | _, .created number => some { answer := .pipeline number }
  | .declare number _ _, .declared handle => do
    let kind ← (← session.pipeline? number).kind? handle.node
    return { answer := .declared handle kind }
  | _, .driving number => do
    return { answer := .driver number (← session.driver? number).tracksSteps }
  | .reset number, .done => do
    let driver ← session.driver? number
    return { answer := .state (.ofDriver driver), notices := driver.changeNotices .reset }
  | _, .done => some { answer := .done }
  | _, .foreign handle => some { answer := .foreign handle }
  | _, .refused e => some { answer := .refused e }
  | _, .ran ran =>
    some { answer := .ran (session.runView ran), notices := Event.notices ran.journal }
  | _, .shared (.made _) => some { answer := .token (session.tokens.length - 1) }
  | _, .shared .done => some { answer := .done }
  | _, _ => none

/-- Carries out a command about the workspace. -/
def work? (session : Session) (command : Command) : Option (Reply × Session) := do
  let (answer, workspace) ← session.workspace.perform (← session.task? command)
  let after := { session with workspace }.absorb command answer
  return (← after.reply? command answer, after)

/-! ### Clones of tokens -/

/-- Clones a token. -/
def clone? (session : Session) : Command → Option (Answer × Session)
  | .cloneToken token => do
    let token ← session.tokens[token]?
    return (.token session.tokens.length, { session with tokens := session.tokens ++ [token] })
  | _ => none

/-! ### Questions -/

/-- Answers a question. -/
def inspect? (session : Session) : Command → Option Answer
  | .describe number node id => do
    let pipeline ← session.pipeline? number
    match node with
    | none => return .description (.ofPipeline pipeline none id)
    | some name => return .description (.ofPipeline pipeline (← session.handle? name) id)
  | .checkToken token => do
    return .tokenState (← session.isCancelled? token)
  | .state number node => do
    let driver ← session.driver? number
    let handle ← session.handle? node
    let baseline := driver.baseline? handle.node
    return .baseline baseline.isSome (baseline.map Table.condition) (driver.baselineOf? handle)
  | .stateAt number id => do
    let baseline := (← session.driver? number).baseline? id
    return .baselineAt baseline.isSome (baseline.map Table.condition)
  | .result number node => do
    let report ← session.reports[number]?
    match report.table (← session.handle? node) with
    | .error e => return .refused e
    | .ok table => return .result table
  | .resultAt number id => do
    let report ← session.reports[number]?
    return .resultAt (report.condition? id) report
  | _ => none

/-! ### All commands -/

/-- Carries out a command. There is no reply to a command that names something
that does not exist. -/
def perform (session : Session) (command : Command) : Option (Reply × Session) :=
  session.work? command
    <|> (session.clone? command).map (fun (answer, after) => (⟨answer, []⟩, after))
    <|> (session.inspect? command).map (fun answer => (⟨answer, []⟩, session))

/-- Carries out commands in order, as long as each has a reply. -/
def performAll (session : Session) : List Command → Option (List Reply × Session)
  | [] => some ([], session)
  | command :: commands => do
    let (reply, next) ← session.perform command
    let (replies, last) ← next.performAll commands
    return (reply :: replies, last)

end Session

end DeltaPipeline
