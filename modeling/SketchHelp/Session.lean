import SketchHelp.Page.Batch

/-!
The help page of one editor over time. A session remembers the page that it shows and
tells its listeners when that changes. An editor compiles often and mostly finds the
same problem again, so an update to the page that is shown already disturbs nobody.

A listener is told by being run: it notes what it heard and then acts out a script, which
may use the session that is telling it. Which script that is depends on the page that it
is told of and on everything that happened before. The new page is stored before anybody
is told, and those told are the ones registered at that moment. A listener that gives up
ends the round, and what happened until then stays. Rounds may nest; a nesting beyond
the limit ends the run.
-/

namespace SketchHelp.Session

/-- Why a request to a session fails. -/
inductive Fault where
  /-- A listener gave up. -/
  | listener (message : Text)
  | config (fault : Config.Fault)
  | tree (fault : Tree.Fault)
  /-- A script asks for a problem that has no span. -/
  | diagnostic (fault : Span.Fault)
  /-- A script asks for a problem by a name that no problem has. -/
  | unknownProblem
  /-- A script asks for a tree that there is not. -/
  | noSuchTree
  | nesting
  deriving DecidableEq, Repr

/-- What happened at a session. -/
inductive Event where
  | heard (listener identifier : Text)
  | noted (identifier : Text)
  | added (listener : Text)
  | removed (listener : Text)
  /-- Another page was stored. -/
  | turned (identifier : Text)
  deriving DecidableEq, Repr

/-- Something done to a session or from inside one of its listeners. -/
inductive Action where
  /-- Registers the listener called `name`, which gets its script the first time. -/
  | add (name : Text) (script : List Event → Text → List Action)
  | remove (name : Text)
  | update (identifier : Text)
  | updateFrom (batch : List Diagnostic) (tree : Tree) (startOffset : Int)
  | reset
  | setFontSize (value : Value)
  /-- Notes the page that the session shows. -/
  | note
  | fail (fault : Fault)

/-- What a listener does when it is called, by what happened earlier and by the page that
it is told of. No two calls have the same history, so a listener that goes by the answers
it gets, or by something that it keeps in mind, does in any one run what some script does.
A script ends with the first request that fails: listeners that get over one are left out. -/
abbrev Script := List Event → Text → List Action

structure Listener where
  name : Text
  script : Script

/-- A session between two requests. `known` holds every listener that was ever
registered, `registered` one entry for each registration, in order. -/
structure State where
  config : Config
  last : Text
  known : List Listener
  registered : List Listener
  trace : List Event
  log : Log

/-- What a request answers. -/
inductive Reply where
  | done
  | changed (yes : Bool)
  | page (identifier : Text)
  deriving DecidableEq, Repr

/-- A run that may fail; what it did before stays done. -/
abbrev Run := ExceptT Fault (StateM State)

namespace State

/-- A session on the default page, without listeners. -/
def start (config : Config) : State :=
  ⟨config, config.defaultIdentifier, [], [], [], []⟩

/-- Whether the page shown is a particular one: not the default page, nor anything else
that is the base address with nothing but a query. -/
def hasPage (state : State) : Bool :=
  if state.config.base.isPrefixOf state.last then
    match state.last.drop state.config.base.length with
    | [] => false
    | c :: _ => c ≠ '?'
  else true

def record (state : State) (events : List Event) : State :=
  { state with trace := state.trace ++ events }

def write (state : State) (log : Log) : State :=
  { state with log := state.log ++ log }

/-- The listener called `name`, as it was first registered or else new. -/
def listenerNamed (state : State) (name : Text) (script : Script) : Listener :=
  (state.known.find? (·.name = name)).getD ⟨name, script⟩

def register (state : State) (name : Text) (script : Script) : State :=
  let listener := state.listenerNamed name script
  { state with
    known := if state.known.any (·.name = name) then state.known
      else state.known ++ [listener]
    registered := state.registered ++ [listener] }.record [.added name]

/-- Takes away the earliest registration of the listener called `name`, if there is one. -/
def unregister (state : State) (name : Text) : State :=
  if state.registered.any (·.name = name) then
    { state with registered := state.registered.eraseP (·.name = name) }.record [.removed name]
  else state

/-- The session with another page stored, of which nobody was told yet. -/
def store (page : Text) (state : State) : State :=
  ({ state with last := page }.record [.turned page]).write [.pageChanged page]

end State

/-- Stores a page and tells the listeners, unless it is the page shown already. -/
def publish (tell : Listener → Run Unit) (identifier : Text) : Run Bool := do
  let state ← get
  if identifier = state.last then return false
  set (state.store identifier)
  state.registered.forM tell
  return true

/-- Tells one listener, with `act` to act out its script. -/
def tellWith (act : Action → Run Reply) (identifier : Text) (listener : Listener) :
    Run Unit := do
  let earlier := (← get).trace
  modify (·.record [.heard listener.name identifier])
  (listener.script earlier identifier).forM fun action => discard (act action)

/-- The page for a batch under the session's configuration. -/
def pageFor (batch : List Diagnostic) (tree : Tree) (startOffset : Int) : Run Text := do
  let (result, log) := Batch.identifierFor (← get).config batch tree startOffset
  modify (·.write log)
  match result with
  | .ok identifier => return identifier
  | .error fault => throw (.tree fault)

def changeFontSize (value : Value) : Run Unit := do
  let state ← get
  match state.config.withFontSize value with
  | .ok config => set { state with config }
  | .error fault => throw (.config fault)

/-- One request, with rounds nested at most `limit` deep. -/
def perform : (limit : Nat) → Action → Run Reply
  | 0, _ => throw .nesting
  | limit + 1, action =>
    let publishNested (identifier : Text) : Run Bool :=
      publish (tellWith (perform limit) identifier) identifier
    match action with
    | .add name script => do
      modify (·.register name script)
      return .done
    | .remove name => do
      modify (·.unregister name)
      return .done
    | .update identifier => return .changed (← publishNested identifier)
    | .updateFrom batch tree startOffset => do
      let identifier ← pageFor batch tree startOffset
      discard (publishNested identifier)
      return .page identifier
    | .reset => do return .changed (← publishNested (← get).config.defaultIdentifier)
    | .setFontSize value => do
      changeFontSize value
      return .done
    | .note => do
      modify fun state => state.record [.noted state.last]
      return .done
    | .fail fault => throw fault

/-- The outcome of one request and the session after it, if rounds may nest `limit` deep. -/
def requestWithin (limit : Nat) (state : State) (action : Action) :
    Except Fault Reply × State :=
  (perform (limit + 1) action).run.run state

/-- How deep rounds of notification may nest. -/
def nestingLimit : Nat := 300

def request (state : State) (action : Action) : Except Fault Reply × State :=
  requestWithin nestingLimit state action

end SketchHelp.Session
