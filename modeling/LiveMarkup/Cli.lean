import LiveMarkup.Cli.Arguments
import LiveMarkup.Cli.Variables
import LiveMarkup.Live.Config
import LiveMarkup.Workspace.World

/-!
The program: it opens the project around the working directory, carries out one command, and says
what is to be printed and sent.
-/

namespace LiveMarkup.Cli

/-- What the program is started with. The input is the text that it reads while it is live. -/
structure Start where
  directory : Text
  arguments : List Text
  environment : Variables := []
  input : Text := []

/-- What the program comes to. A failure is printed apart from the output. -/
structure Outcome where
  code : Nat
  output : Text := []
  failure : Option Failure := none
  sent : List Change := []
  space : Text := []

/-- The version of the program. -/
def versionText : Text :=
  "markmod 0.1.0\n".toList

/-- The code of a program that could not read its arguments. -/
def usageCode : Nat := 2

/-- The code of a program that failed. -/
def failureCode : Nat := 1

/-- The code of a program that was stopped because a variable could not be set. -/
def stoppedCode : Nat := 101

/-- The session of the only project, which lies at the root. -/
def session (root : Text) : Session Stage World :=
  World.session 0 { root }

/-- Makes the registry of the only project. -/
def withRegistry (root : Text) (r : Registry Stage) : World :=
  { projects := [{ root, registry := r }] }

section Commands

variable {σ W : Type}

/-- Opens the project of a session: what its manifest says for the whole project is taken over, and
its configuration and its registry are told. -/
def openProject (s : Session σ W) (files : FileTree) (minify : Bool) :
    Except Failure (FileConfig σ × Registry σ) := do
  let path := Path.join s.root Manifest.fileName
  let config ← if ← (files.holds path).mapError Failure.io then FileConfig.load files path
    else pure {}
  match Registry.adopt s.table s.root config {} with
  | (.error e, _) => throw e
  | (.ok (), r) =>
    let r := if minify then r.configure { minify := some (.enabled true) } else r
    return (config, r)

/-- The text of a source file. -/
def readSource (files : FileTree) (root file : Text) : Except Failure Text :=
  let path := Path.absolutize root file
  (files.read path).mapError fun fault => .config (.unreadable path fault)

/-- Prints the module of a file, or the file itself. In a project that is a remedy, the remedy
decides. The world in which the stages act is made from the registry of the project. -/
def transform (s : Session σ W) (enter : Registry σ → W) (files : FileTree) (file : Text)
    (minify live : Bool) : Except Failure Text := do
  let (config, registry) ← openProject s files minify
  let registry := if live || config.live.isSome then registry.enableLive else registry
  let code ← readSource files s.root file
  let run : Run W Output :=
    if config.remedy then (Remedy.ofConfig config).apply s files file code {}
    else s.transform files file code none {}
  return (← (run (enter registry)).1).text

/-- Prints the source of a file as it is processed. -/
def process (s : Session σ W) (enter : Registry σ → W) (files : FileTree) (file : Text)
    (minify : Bool) : Except Failure Text := do
  let (_, registry) ← openProject s files minify
  match ← Handler.create files s.root s.table file none with
  | none => throw (.config (.notHandled file))
  | some h =>
    let code ← readSource files s.root file
    return (← (s.run h code (enter registry)).1).src

end Commands

/-- The server of the project. -/
def server (root : Text) : LiveServer Stage World where
  session := session root
  send := fun m w => (.ok (), { w with sent := w.sent ++ [m] })

/-- The paths that lines of input give; blank lines give none. -/
def pathsOf (input : Text) : List Text :=
  (Variables.lines input |>.map Text.trim).filter (! ·.isEmpty)

/-- Where a project sends its messages: what the command says goes first, then the variables, then
the manifest. -/
def liveConfig (v : Variables) (config : FileConfig Stage) (url space : Option Text) : LiveConfig :=
  let usual := LiveConfig.ofVariables v.get?
  let named := (v.get? LiveConfig.urlVariable).orElse fun _ => config.live
  { url := url.getD (named.getD usual.url), space := space.getD usual.space }

/-- Processes the files that the input names, and sends what comes out. -/
def live (files : FileTree) (reachable : Text → Bool) (root : Text) (start : Start)
    (v : Variables) (url space : Option Text) : Except Failure (Text × List Change) := do
  let (config, registry) ← openProject (session root) files false
  let target := liveConfig v config url space
  if ! reachable target.url then throw (.channel (.unreachable target.url))
  let registry := registry.attach (Stage.watch 0)
  let world := { withRegistry root registry with watchLists := [[]] }
  let world := (server root).serve files (pathsOf start.input) world
  return (target.space, world.sent)

/-- What printing a text, or a failure, comes to. -/
def printed : Except Failure Text → Outcome
  | .ok text => { code := 0, output := text ++ ['\n'] }
  | .error e => { code := failureCode, failure := some e }

/-- Carries out a command. -/
def carryOut (files : FileTree) (reachable : Text → Bool) (root : Text) (start : Start)
    (v : Variables) : Command → Outcome
  | .transform file minify live =>
    printed (transform (session root) (withRegistry root) files file minify live)
  | .process file minify =>
    printed (process (session root) (withRegistry root) files file minify)
  | .live url space =>
    match Cli.live files reachable root start v url space with
    | .ok (space, sent) => { code := 0, sent, space }
    | .error e => { code := failureCode, failure := some e }

/-- Carries out what the arguments ask for, once the variables are set. -/
def run (files : FileTree) (reachable : Text → Bool) (start : Start) : Outcome :=
  match Variables.load? files start.directory start.environment with
  | none => { code := stoppedCode }
  | some v =>
    match readArguments start.arguments with
    | none => { code := usageCode }
    | some .version => { code := 0, output := versionText }
    | some .help => { code := 0 }
    | some (.run root command) =>
      carryOut files reachable (Path.clean (Path.join start.directory root)) start v command

end LiveMarkup.Cli
