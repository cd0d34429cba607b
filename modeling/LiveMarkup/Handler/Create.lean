import LiveMarkup.Discovery
import LiveMarkup.Handler

/-!
Making the handler of a file. Each question is asked only when those before it are settled: whether
there is a file, which configuration it has, whether that selects it, and which stages it names.
-/

namespace LiveMarkup.Handler

variable {σ : Type}

/-- Places the directory of a configuration and gives it a matcher. -/
def settle (root : Text) (config : FileConfig σ) : FileConfig σ :=
  { config with
    basedir := some ((config.basedir.map (Path.absolutize root)).getD root)
    matcher := some (config.matcher.getD Matcher.markup) }

/-- The handler of a file that its configuration selects, once the stages are found. -/
def ofConfig (root : Text) (table : StageTable σ) (filename : Text) (config : FileConfig σ) :
    Except Failure (Option (Handler σ)) :=
  let config := settle root config
  let basedir := config.basedir.getD root
  if (config.matcher.getD Matcher.markup).accepts filename then
    match table.resolveAll root basedir config.parsers with
    | .error e => .error e
    | .ok parsers =>
      match table.resolveAll root basedir config.processors with
      | .error e => .error e
      | .ok processors => .ok (some ⟨config, filename, parsers, processors⟩)
  else .ok none

/-- The handler of a file. A file that does not exist or is not selected has none. Without a given
configuration, the manifests above the file decide. -/
def create (files : FileTree) (root : Text) (table : StageTable σ) (file : Text)
    (given : Option (FileConfig σ)) : Except Failure (Option (Handler σ)) :=
  let path := Path.absolutize root file
  match files.holds path with
  | .error fault => .error (.io fault)
  | .ok false => .ok none
  | .ok true =>
    match given with
    | some config => ofConfig root table (Path.identity root path) config
    | none =>
      match FileConfig.discover files path with
      | .error e => .error e
      | .ok config => ofConfig root table (Path.identity root path) config

end LiveMarkup.Handler
