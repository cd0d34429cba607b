import LiveMarkup.Live.Channel
import LiveMarkup.Live.WatchList
import LiveMarkup.Naming
import LiveMarkup.Remedy
import LiveMarkup.Live.Server

/-!
The world in which the stages of a workspace act: the projects with their registries, the sessions
that work on them, the watch lists, the channels, and what was noted on the way.
-/

namespace LiveMarkup

/-- What a stage does with a source. `σ` is the type of the stages that it may ask the registry of a
session for. -/
inductive Act (σ : Type) where
  | trim
  | stripComments
  | watch (list : Nat)
  | keep
  | append (text : Text)
  | prepend (text : Text)
  | const (text : Text)
  | replace (piece text : Text)
  | upper
  | banner
  | rename (filename : Text)
  | fail (message : Text)
  | failIf (piece message : Text)
  | probe
  | ask (requests : List (Text × Registry.Request σ))
  deriving Inhabited

/-- A stage that is written as data. Some leave a note when they are called. -/
inductive Stage where
  | mk (name : Text) (noted : Bool) (act : Act Stage)

namespace Stage

def name : Stage → Text
  | mk name _ _ => name

def trim : Stage :=
  mk "trim".toList false .trim

def stripComments : Stage :=
  mk "strip-comments".toList false .stripComments

instance : Inhabited Stage := ⟨trim⟩

/-- The stage that puts the files of a run on a watch list. -/
def watch (list : Nat) : Stage :=
  mk "live-watch".toList false (.watch list)

/-- A stage that was given no name. -/
def anonymous (act : Act Stage) : Stage :=
  mk "anonymous".toList false act

/-- The stages that every project has. -/
def builtins : StageTable Stage :=
  ((({} : StageTable Stage).register trim.name trim).register stripComments.name stripComments)

end Stage

/-- Something that was noted: the call of a stage, or of a minifier. -/
inductive Note where
  | stage (name filename src : Text)
  | minifier (options : MinifyOptions) (src : Text)
  deriving DecidableEq, Repr

/-- How a project minifies: as is usual, or with a tool that marks what it was given or refuses
it. -/
inductive MinifyTool where
  | basic
  | mark
  | refuse (message : Text)
  deriving DecidableEq, Repr

/-- A project, which a session and its clones share. -/
structure Project where
  root : Text
  table : StageTable Stage := Stage.builtins
  minify : MinifyTool := .basic
  registry : Registry Stage := {}

/-- All that stages and minifiers can change. Projects, watch lists and channels are known by their
place in these lists, and a session by its name. -/
structure World where
  projects : List Project := []
  sessions : Naming Nat := {}
  watchLists : List WatchList := []
  channels : List Channel := []
  /-- The messages that left the process, in order. -/
  sent : List Change := []
  notes : List Note := []

namespace World

def note (w : World) (n : Note) : World :=
  { w with notes := w.notes ++ [n] }

/-- The registry of a project. -/
def registry (project : Nat) (w : World) : Registry Stage :=
  (w.projects[project]?.map (·.registry)).getD {}

def setRegistry (project : Nat) (r : Registry Stage) (w : World) : World :=
  { w with projects := w.projects.modify project fun p => { p with registry := r } }

/-- Puts a question to the registry of a project. -/
def ask (project : Nat) (request : Registry.Request Stage) (w : World) :
    Registry.Reply Stage × World :=
  match w.projects[project]? with
  | none => (.done, w)
  | some p =>
    let (reply, r) := p.registry.serve p.table p.root request
    (reply, w.setRegistry project r)

/-- Puts a question to the registry of a session; without such a session nothing comes of it. -/
def tell (w : World) : Text × Registry.Request Stage → World
  | (session, request) =>
    match w.sessions.get? session with
    | some project => (w.ask project request).2
    | none => w

end World

namespace Text

/-- Writes `text` where `piece` occurs, `skipped` characters from here on. -/
def replaceFrom (piece text : Text) (skipped : Nat) : Text → Text
  | [] => if piece.isEmpty then text else []
  | c :: t =>
    match skipped with
    | n + 1 => replaceFrom piece text n t
    | 0 =>
      if piece.isEmpty then text ++ c :: replaceFrom piece text 0 t
      else if (after? piece (c :: t)).isSome then
        text ++ replaceFrom piece text (piece.length - 1) t
      else c :: replaceFrom piece text 0 t

/-- Writes `text` in place of each `piece`. -/
def replace (piece text t : Text) : Text :=
  replaceFrom piece text 0 t

end Text

namespace Act

/-- The part of the configuration that a stage shows. -/
def showConfig (c : FileConfig Stage) : Text :=
  '[' :: c.basedir.getD [] ++ ' ' :: (c.matcher.map (·.pattern)).getD [] ++
    ' ' :: (if c.checkMarkup then "true".toList else "false".toList) ++ [']']

/-- What an act makes of a context. -/
def run (act : Act Stage) (c : Context Stage) (w : World) :
    Except Text (Context Stage) × World :=
  match act with
  | trim => (.ok (c.withSrc (Text.trim c.src)), w)
  | stripComments => (.ok (c.withSrc (Minify.removeComments c.src)), w)
  | watch list =>
    (.ok c, { w with watchLists := w.watchLists.modify list (WatchList.add c.filename) })
  | keep => (.ok c, w)
  | append text => (.ok (c.withSrc (c.src ++ text)), w)
  | prepend text => (.ok (c.withSrc (text ++ c.src)), w)
  | const text => (.ok (c.withSrc text), w)
  | replace piece text => (.ok (c.withSrc (Text.replace piece text c.src)), w)
  | upper => (.ok (c.withSrc (c.src.map Char.toUpper)), w)
  | banner =>
    (.ok (c.withSrc ("<!-- ".toList ++ c.filename ++ " -->".toList ++ c.src)), w)
  | rename filename => (.ok ⟨{}, filename, c.src ++ ['!']⟩, w)
  | fail message => (.error message, w)
  | failIf piece message =>
    if Text.occursIn piece c.src then (.error message, w) else (.ok c, w)
  | probe => (.ok (c.withSrc (c.src ++ showConfig c.config)), w)
  | ask requests => (.ok c, requests.foldl World.tell w)

end Act

/-- Runs a stage. -/
def Stage.run : Stage → Context Stage → World → Except Text (Context Stage) × World
  | mk name noted act, c, w =>
    act.run c (if noted then w.note (.stage name c.filename c.src) else w)

/-- Runs a minifier. -/
def MinifyTool.run : MinifyTool → Minifier World
  | basic, o, src, w => (.ok (Minify.basic o src), w)
  | mark, o, src, w => (.ok ('\x7b' :: src ++ ['\x7d']), w.note (.minifier o src))
  | refuse message, o, src, w => (.error message, w.note (.minifier o src))

namespace World

/-- A session of a project. -/
def session (project : Nat) (p : Project) : Session Stage World where
  root := p.root
  table := p.table
  stages := ⟨Stage.name, Stage.run⟩
  minifier := p.minify.run
  registry := World.registry project

end World
end LiveMarkup
