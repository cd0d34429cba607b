import LiveMarkup.Workspace.World

/-!
Workspaces: named sessions, handlers, remedies, channels and servers over one tree of files.

Every operation may be refused: a name may stand for nothing, and what is asked for may fail. What
was changed before stays changed.
-/

namespace LiveMarkup

/-- A server of a workspace, by the places of what it works with. -/
structure Server where
  project : Nat
  channel : Nat
  watchList : Nat
  config : Option (FileConfig Stage) := none

structure Workspace where
  files : FileTree := {}
  /-- The stages of a new session. -/
  table : StageTable Stage := Stage.builtins
  world : World := {}
  handlers : Naming (Nat × Handler Stage) := {}
  remedies : Naming (Remedy Stage) := {}
  channels : Naming Nat := {}
  servers : Naming Server := {}

/-- Why an operation gives nothing. -/
inductive Refusal where
  | unknown
  | failed (failure : Failure)
  deriving DecidableEq, Repr

/-- A configuration to be made: the text of a manifest, if there is one, and what goes beyond it. -/
structure ConfigPlan where
  manifest : Option Text := none
  directory : Option Text := none
  matcher : Option (Text × Text) := none
  basedir : Option Text := none
  parsers : List (StageRef Stage) := []
  processors : List (StageRef Stage) := []
  pre : List (StageRef Stage) := []
  post : List (StageRef Stage) := []
  checkMarkup : Option Bool := none
  minify : Option MinifySetting := none
  sourcemap : Option Bool := none

namespace ConfigPlan

/-- The configuration in the manifest of a plan. -/
def base (p : ConfigPlan) : Except ConfigFault (FileConfig Stage) :=
  match p.manifest with
  | none => .ok {}
  | some text => FileConfig.ofYaml text p.directory

/-- Makes the configuration. -/
def make (p : ConfigPlan) : Except Failure (FileConfig Stage) := do
  let c ← p.base.mapError Failure.config
  let matcher ← match p.matcher with
    | none => pure c.matcher
    | some (pattern, flags) => (some <$> Matcher.compile pattern flags).mapError Failure.config
  return { c with
    matcher := matcher
    basedir := p.basedir.or c.basedir
    parsers := c.parsers ++ p.parsers
    processors := c.processors ++ p.processors
    pre := c.pre ++ p.pre
    post := c.post ++ p.post
    checkMarkup := p.checkMarkup.getD c.checkMarkup
    minify := p.minify.or c.minify
    sourcemap := p.sourcemap.or c.sourcemap }

/-- Makes the configuration of a plan that may be missing. -/
def makeIf : Option ConfigPlan → Except Failure (Option (FileConfig Stage))
  | none => .ok none
  | some p => some <$> p.make

end ConfigPlan

namespace Workspace

/-- An operation on a workspace. -/
abbrev Op := ExceptT Refusal (StateM Workspace)

def refuse {α : Type} (r : Refusal) : Op α :=
  throw r

def settle {α : Type} : Except Failure α → Op α
  | .ok a => pure a
  | .error e => refuse (.failed e)

/-- What a name stands for. -/
def named {α : Type} (names : Naming α) (name : Text) : Op α :=
  match names.get? name with
  | some a => pure a
  | none => refuse .unknown

def project (session : Text) : Op (Nat × Project) := do
  let ws ← get
  let n ← named ws.world.sessions session
  match ws.world.projects[n]? with
  | some p => return (n, p)
  | none => refuse .unknown

def session (name : Text) : Op (Session Stage World) := do
  let (n, p) ← project name
  return World.session n p

/-- Runs a computation in the world of the workspace. -/
def perform {α : Type} (run : Run World α) : Op α := do
  let ws ← get
  let (result, world) := run ws.world
  set { ws with world := world }
  settle result

/-- Takes the notes that were made since they were last taken. -/
def takeNotes (ws : Workspace) : List Note × Workspace :=
  (ws.world.notes, { ws with world := { ws.world with notes := [] } })

/-! ### Sessions -/

/-- Opens a session of a new project, and tells its root. -/
def openSession (name root : Text) (minify : MinifyTool) : Op Text := do
  let ws ← get
  let root := Path.clean root
  let opened : Project := { root, table := ws.table, minify }
  set { ws with
    world := { ws.world with
      projects := ws.world.projects ++ [opened]
      sessions := ws.world.sessions.give name ws.world.projects.length } }
  return root

/-- Opens another session of the project that a session has. -/
def shareSession (session name : Text) : Op Unit := do
  let ws ← get
  let n ← named ws.world.sessions session
  set { ws with world := { ws.world with sessions := ws.world.sessions.give name n } }

def identity (name path : Text) : Op Text := do
  return Path.identity (← session name).root path

/-- The names in the stage table of a session, and which of some names are among them. -/
def tableNames (name : Text) (names : List Text) : Op (List Text × List Bool) := do
  let table := (← session name).table
  return (table.names, names.map table.has)

/-- The names of the stages that references stand for. -/
def resolve (name : Text) (refs : List (StageRef Stage)) (basedir root : Text) :
    Op (List Text) := do
  let stages ← settle ((← session name).table.resolveAll root basedir refs)
  return stages.map Stage.name

def ask (name : Text) (request : Registry.Request Stage) : Op (Registry.Reply Stage) := do
  let (n, _) ← project name
  let ws ← get
  let (reply, world) := ws.world.ask n request
  set { ws with world := world }
  match reply with
  | .failed e => refuse (.failed e)
  | reply => return reply

/-- Takes over the project-wide part of a configuration. -/
def adopt (name : Text) (plan : Option ConfigPlan) : Op Unit := do
  let (n, p) ← project name
  let config ← settle (ConfigPlan.makeIf plan)
  let (result, r) := p.registry.adopt p.table p.root (config.getD {})
  modify fun ws => { ws with world := ws.world.setRegistry n r }
  settle result

/-! ### Files -/

def write (path : Text) (entry : Entry) : Op Unit :=
  modify fun ws => { ws with files := ws.files.put path entry }

/-- Deletes what is at a path, and tells whether there was anything. -/
def delete (path : Text) : Op Bool := do
  let ws ← get
  match ws.files.holds path with
  | .ok true =>
    set { ws with files := ws.files.remove path }
    return true
  | _ => return false

def discover (path : Text) : Op (FileConfig Stage) := do
  settle (FileConfig.discover (← get).files path)

def load (path : Text) : Op (FileConfig Stage) := do
  settle (FileConfig.load (← get).files path)

/-! ### Handlers -/

/-- Makes the handler of a file. -/
def handlerOf (name file : Text) (plan : Option ConfigPlan) :
    Op (Nat × Option (Handler Stage)) := do
  let (n, p) ← project name
  let config ← settle (ConfigPlan.makeIf plan)
  let h ← settle (Handler.create (← get).files p.root p.table file config)
  return (n, h)

/-- Makes the handler of a file and names it; the name stands for nothing if there is none. -/
def openHandler (name id file : Text) (plan : Option ConfigPlan) : Op (Option (Handler Stage)) := do
  modify fun ws => { ws with handlers := ws.handlers.forget id }
  let (n, h) ← handlerOf name file plan
  match h with
  | none => return none
  | some h =>
    modify fun ws => { ws with handlers := ws.handlers.give id (n, h) }
    return some h

/-- Runs a source through a handler of a project. -/
def runIn (n : Nat) (h : Handler Stage) (src : Text) : Op (Context Stage) := do
  match (← get).world.projects[n]? with
  | some p => perform ((World.session n p).run h src)
  | none => refuse .unknown

def run (id src : Text) : Op (Context Stage) := do
  let (n, h) ← named (← get).handlers id
  runIn n h src

/-- Makes the handler of a file and runs a source through it. -/
def process (name file src : Text) (plan : Option ConfigPlan) : Op (Option (Context Stage)) := do
  let (n, h) ← handlerOf name file plan
  match h with
  | none => return none
  | some h => return some (← runIn n h src)

def transform (name file code : Text) (plan : Option ConfigPlan) (paths : ModulePaths) :
    Op Output := do
  let s ← session name
  let config ← settle (ConfigPlan.makeIf plan)
  perform (s.transform (← get).files file code config paths)

/-- Makes a remedy and names it. -/
def openRemedy (id : Text) (plan : Option ConfigPlan) : Op Unit := do
  modify fun ws => { ws with remedies := ws.remedies.forget id }
  let config ← settle (ConfigPlan.makeIf plan)
  modify fun ws => { ws with remedies := ws.remedies.give id (Remedy.ofConfig (config.getD {})) }

def applyRemedy (name id file code : Text) (paths : ModulePaths) : Op Output := do
  let s ← session name
  let r ← named (← get).remedies id
  perform (r.apply s (← get).files file code paths)

/-! ### Channels -/

def modifyChannel (n : Nat) (f : Channel → Channel) (ws : Workspace) : Workspace :=
  { ws with world := { ws.world with channels := ws.world.channels.modify n f } }

/-- Closes the channels that no name and no server holds. -/
def closeUnheld (ws : Workspace) : Workspace :=
  let held := ws.channels.values ++ ws.servers.values.map (·.channel)
  { ws with
    world := { ws.world with
      channels := ws.world.channels.mapIdx fun i c => if held.contains i then c else c.close } }

def channel (name : Text) : Op (Nat × Channel) := do
  let ws ← get
  let n ← named ws.channels name
  match ws.world.channels[n]? with
  | some c => return (n, c)
  | none => refuse .unknown

/-- Opens a channel, and tells its namespace. -/
def openChannel (name space : Text) : Op Text := do
  modify fun ws => closeUnheld { ws with
    channels := ws.channels.give name ws.world.channels.length
    world := { ws.world with channels := ws.world.channels ++ [{ space }] } }
  return space

def dropChannel (name : Text) : Op Bool := do
  let ws ← get
  set (closeUnheld { ws with channels := ws.channels.forget name })
  return ws.channels.has name

/-- The channel that a subscriber reads. -/
def channelOf? (ws : Workspace) (subscriber : Text) : Option Nat :=
  ws.world.channels.findIdx? fun c => (c.position? subscriber).isSome

/-- Ends a subscription, and tells whether there was one. -/
def unsubscribe (subscriber : Text) : Op Bool := do
  let ws ← get
  match channelOf? ws subscriber with
  | some n =>
    set (modifyChannel n (·.unsubscribe subscriber) ws)
    return true
  | none => return false

/-- Begins a subscription in the place of one with the same name. -/
def subscribe (name subscriber : Text) : Op Unit := do
  let (n, _) ← channel name
  let _ ← unsubscribe subscriber
  modify (modifyChannel n (·.subscribe subscriber))

def subscribers (name : Text) : Op Nat := do
  return (← channel name).2.readers.length

def broadcast (name : Text) (messages : List Change) : Op Unit := do
  let (n, _) ← channel name
  modify (modifyChannel n fun c => messages.foldl Channel.broadcast c)

/-- Reads what a subscriber can read now, at most `limit` messages, and tells whether the end was
found. -/
def receive (subscriber : Text) (limit : Option Nat) : Op (List Change × Bool) := do
  let ws ← get
  match channelOf? ws subscriber with
  | none => refuse .unknown
  | some n =>
    let c := ws.world.channels.getD n { space := [] }
    let (messages, ended, c) := c.drain subscriber (limit.getD (c.kept.length + 1))
    set (modifyChannel n (fun _ => c) ws)
    return (messages, ended)

/-! ### Servers -/

/-- Attaches a server to a session, and tells the namespace of its channel. -/
def attach (name id channelName : Text) (plan : Option ConfigPlan) : Op Text := do
  let (p, _) ← project name
  let (n, c) ← channel channelName
  let config ← settle (ConfigPlan.makeIf plan)
  modify fun ws =>
    let list := ws.world.watchLists.length
    let world := { ws.world with watchLists := ws.world.watchLists ++ [[]] }
    closeUnheld { ws with
      world := world.setRegistry p ((world.registry p).attach (Stage.watch list))
      servers := ws.servers.give id ⟨p, n, list, config⟩ }
  return c.space

def dropServer (id : Text) : Op Bool := do
  let ws ← get
  set (closeUnheld { ws with servers := ws.servers.forget id })
  return ws.servers.has id

/-- The live server that a server of the workspace stands for. -/
def liveServer (s : Server) : Op (LiveServer Stage World) := do
  match (← get).world.projects[s.project]? with
  | none => refuse .unknown
  | some p =>
    return {
      session := World.session s.project p
      send := fun m w =>
        (.ok (), { w with channels := w.channels.modify s.channel (·.broadcast m) })
      config := s.config }

def notify (id file : Text) : Op (Option Change) := do
  let l ← liveServer (← named (← get).servers id)
  perform (l.notify (← get).files file)

def serve (id : Text) (changed : List Text) : Op Unit := do
  let l ← liveServer (← named (← get).servers id)
  modify fun ws => { ws with world := l.serve ws.files changed ws.world }

/-- The watch list of a server, and which of some identities are on it. -/
def watched (id : Text) (names : List Text) : Op (List Text × List Bool) := do
  let s ← named (← get).servers id
  let list := (← get).world.watchLists.getD s.watchList []
  return (list, names.map list.contains)

end Workspace
end LiveMarkup
