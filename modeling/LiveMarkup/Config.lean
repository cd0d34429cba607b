import LiveMarkup.FileTree
import LiveMarkup.Manifest
import LiveMarkup.Matcher

/-!
The configuration of a file: what its manifest says once patterns are read and directories are
placed, and how the manifest of a file is found.

`σ` is the type of stages throughout. Nothing here runs one.
-/

namespace LiveMarkup

/-- A stage, by its name in the stage table or as itself. -/
inductive StageRef (σ : Type) where
  | named (name : Text)
  | direct (stage : σ)
  deriving DecidableEq, Repr

structure FileConfig (σ : Type) where
  matcher : Option Matcher := none
  basedir : Option Text := none
  parsers : List (StageRef σ) := []
  processors : List (StageRef σ) := []
  pre : List (StageRef σ) := []
  post : List (StageRef σ) := []
  minify : Option MinifySetting := none
  sourcemap : Option Bool := none
  live : Option Text := none
  remedy : Bool := false
  checkMarkup : Bool := true
  deriving DecidableEq, Repr

/-- Reads the pattern; a list gives the flags in its second place. -/
def MatchSpec.compile : MatchSpec → Except ConfigFault Matcher
  | pattern p => Matcher.compile p []
  | list [] => .error .emptyMatchList
  | list (p :: rest) => Matcher.compile p (rest.headD [])

namespace FileConfig

variable {σ : Type}

/-- The stages of a list of names that may be absent. -/
def namedRefs (names : Option Names) : List (StageRef σ) :=
  match names with
  | none => []
  | some names => names.toList.map .named

/-- The directory from which a manifest names its stages: the one that it gives, seen from the one
where the manifest is. -/
def placeBasedir (basedir directory : Option Text) : Option Text :=
  match basedir, directory with
  | none, directory => directory
  | some b, none => some b
  | some b, some d => some (Path.join d b)

def ofMatcher (m : Manifest) (directory : Option Text) (matcher : Option Matcher) :
    FileConfig σ where
  matcher := matcher
  basedir := placeBasedir m.basedir directory
  parsers := namedRefs (m.parsers.or m.parser)
  processors := namedRefs (m.processors.or m.processor)
  pre := namedRefs m.pre
  post := namedRefs m.post
  minify := m.minify
  sourcemap := m.sourcemap
  live := m.live
  remedy := m.remedy.getD false
  checkMarkup := m.checkMarkup.getD true

/-- The configuration that a manifest in the given directory stands for. -/
def ofManifest (m : Manifest) (directory : Option Text) : Except ConfigFault (FileConfig σ) :=
  match m.matchSpec with
  | none => .ok (ofMatcher m directory none)
  | some spec =>
    match spec.compile with
    | .ok matcher => .ok (ofMatcher m directory (some matcher))
    | .error fault => .error fault

end FileConfig
end LiveMarkup
