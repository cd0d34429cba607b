import LiveMarkup.Settings

/-!
Manifests: what a project file says about the files below it, as it is written, before anything in
it is looked up.
-/

namespace LiveMarkup

/-- Which files are handled: a pattern, or a list of a pattern and its flags. -/
inductive MatchSpec where
  | pattern (p : Text)
  | list (parts : List Text)
  deriving DecidableEq, Repr

/-- One name, or a list of names. -/
inductive Names where
  | one (name : Text)
  | many (names : List Text)
  deriving DecidableEq, Repr

def Names.toList : Names → List Text
  | one name => [name]
  | many names => names

structure Manifest where
  matchSpec : Option MatchSpec := none
  basedir : Option Text := none
  parsers : Option Names := none
  parser : Option Names := none
  processors : Option Names := none
  processor : Option Names := none
  pre : Option Names := none
  post : Option Names := none
  minify : Option MinifySetting := none
  sourcemap : Option Bool := none
  live : Option Text := none
  remedy : Option Bool := none
  checkMarkup : Option Bool := none
  deriving DecidableEq, Repr

namespace Manifest

/-- The name of the file that holds a manifest. -/
def fileName : Text :=
  "markmod.yaml".toList

/-- The keys of a manifest, in the order in which a list gives their values. -/
def keys : List Text :=
  ["match", "basedir", "parsers", "parser", "processors", "processor", "pre", "post", "minify",
    "sourcemap", "live", "remedy", "check_markup"].map String.toList

end Manifest
end LiveMarkup
