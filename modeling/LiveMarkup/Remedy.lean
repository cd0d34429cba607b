import LiveMarkup.Transform

/-!
Remedies: turning the markup files of other packages into modules, unless they are modules already.
-/

namespace LiveMarkup

variable {σ W : Type}

structure Remedy (σ : Type) where
  matcher : Matcher
  config : FileConfig σ
  deriving DecidableEq, Repr

namespace Remedy

def ofConfig (config : FileConfig σ) : Remedy σ :=
  ⟨config.matcher.getD Matcher.html, config⟩

/-- Whether code begins as a module does: an assignment to its exports. -/
def isPrebuilt (code : Text) : Bool :=
  match Text.after? "module.exports".toList code with
  | some ('=' :: _) => true
  | some (c :: '=' :: _) => Text.isBlank c
  | _ => false

/-- The configuration for a file that the remedy takes. -/
def configIn (r : Remedy σ) (root : Text) : FileConfig σ :=
  { r.config with matcher := some r.matcher, basedir := some (r.config.basedir.getD root) }

/-- Turns a file into a module if its name, as it is given, matches and it is none yet. -/
def apply (r : Remedy σ) (s : Session σ W) (files : FileTree) (file code : Text)
    (paths : ModulePaths) : Run W Output :=
  if ! r.matcher.accepts file || isPrebuilt code then pure (.passed code)
  else s.transform files file code (some (r.configIn s.root)) paths

end Remedy
end LiveMarkup
