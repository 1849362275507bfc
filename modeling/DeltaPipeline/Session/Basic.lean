import DeltaPipeline.Recipe.Declaration
import DeltaPipeline.Workspace

/-!
# `DeltaPipeline.Session.Basic`: a workspace with names, tokens and reports

In a session nodes go by name, runs are cancelled by tokens and clones of tokens, and
the reports of completed runs are kept. Tokens, clones and reports are numbered from 0
in order of creation. The host knows the nodes by name.

* `Session`: the state.
* `Session.handle?`, `Session.nameOf?`: nodes and their names.
* `Session.isCancelled?`: tokens and the flags they share.
-/

set_option autoImplicit false

namespace DeltaPipeline

/-- A workspace with names, tokens and reports. -/
structure Session where
  workspace : Workspace Host := { shared := { host := {} } }
  /-- Tokens and their clones, each by the number of the token in the workspace. -/
  tokens : List Nat := []
  /-- The reports of completed runs. -/
  reports : List Report := []

namespace Session

/-- The pipeline with this number. -/
def pipeline? (session : Session) (number : Nat) : Option (Pipeline Host) :=
  session.workspace.pipelines[number]?

/-- The driver with this number. -/
def driver? (session : Session) (number : Nat) : Option (Driver Host) :=
  session.workspace.drivers[number]?

/-- The nodes that are known by name. -/
def handles (session : Session) : List (String × Handle) :=
  session.workspace.shared.host.handles

/-- The node known by this name. -/
def handle? (session : Session) (name : String) : Option Handle :=
  session.handles.lookup name

/-- The name of a node. -/
def nameOf? (session : Session) (pipeline : Nat) (node : NodeId) : Option String :=
  (session.handles.find? fun known =>
    known.2.pipeline = pipeline && known.2.node = node).map Prod.fst

/-- Makes a node known by a name. -/
def know (session : Session) (name : String) (handle : Handle) : Session :=
  { session with
    workspace := { session.workspace with
      shared := session.workspace.shared.mapHost fun host =>
        { host with handles := host.handles ++ [(name, handle)] } } }

/-- Is the token cancelled? -/
def isCancelled? (session : Session) (token : Nat) : Option Bool := do
  session.workspace.shared.tokens[← session.tokens[token]?]?

end Session

end DeltaPipeline
