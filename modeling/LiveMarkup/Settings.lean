import LiveMarkup.Minify

/-!
The settings that all files of a project share.
-/

namespace LiveMarkup

/-- Whether and how sources are minified. -/
inductive MinifySetting where
  | enabled (value : Bool)
  | options (o : MinifyOptions)
  deriving DecidableEq, Repr

/-- The options in force, if sources are minified at all. -/
def MinifySetting.options? : MinifySetting → Option MinifyOptions
  | enabled true => some {}
  | enabled false => none
  | options o => some o

structure Settings where
  minify : MinifySetting := .enabled false
  sourcemap : Bool := true
  deriving DecidableEq, Repr

/-- A change of some settings. -/
structure SettingsPatch where
  minify : Option MinifySetting := none
  sourcemap : Option Bool := none
  deriving DecidableEq, Repr

/-- Replaces the settings that the patch gives. -/
def Settings.merge (s : Settings) (p : SettingsPatch) : Settings :=
  ⟨p.minify.getD s.minify, p.sourcemap.getD s.sourcemap⟩

end LiveMarkup
