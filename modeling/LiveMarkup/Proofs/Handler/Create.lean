import LiveMarkup.Handler.Create

/-!
Handlers as they are made: a file is known by its place alone, however its path is spelled, and it
has a handler if it is there, is selected by the configuration in force, and the stages that this
names are found.
-/

namespace LiveMarkup.Handler

variable {σ : Type} {files : FileTree} {root : Text} {table : StageTable σ}

theorem eq_of_ofConfig {filename : Text} {config : FileConfig σ} {h : Handler σ}
    (made : ofConfig root table filename config = .ok (some h)) :
    ∃ parsers processors, h = ⟨settle root config, filename, parsers, processors⟩ := by
  unfold ofConfig at made
  dsimp only at made
  split at made
  · split at made
    · cases made
    · split at made
      · cases made
      · cases made
        exact ⟨_, _, rfl⟩
  · cases made

theorem filename_of_ofConfig {filename : Text} {config : FileConfig σ} {h : Handler σ}
    (made : ofConfig root table filename config = .ok (some h)) : h.filename = filename := by
  obtain ⟨parsers, processors, rfl⟩ := eq_of_ofConfig made
  rfl

theorem filename_of_create {file : Text} {given : Option (FileConfig σ)} {h : Handler σ}
    (made : create files root table file given = .ok (some h)) :
    h.filename = Path.identity root (Path.absolutize root file) := by
  unfold create at made
  dsimp only at made
  split at made
  · cases made
  · cases made
  · cases given with
    | some config => exact filename_of_ofConfig made
    | none =>
      dsimp only at made
      split at made
      · cases made
      · exact filename_of_ofConfig made

theorem create_congr {p q : Text} (same : Path.absolutize root p = Path.absolutize root q)
    (given : Option (FileConfig σ)) :
    create files root table p given = create files root table q given := by
  unfold create
  rw [same]

/-- The configuration in force for a file: the given one, or that of the manifests above it. -/
def inForce (files : FileTree) (path : Text) (given : Option (FileConfig σ)) :
    Except Failure (FileConfig σ) :=
  match given with
  | some config => .ok config
  | none => FileConfig.discover files path

/-- The directory that the stages of a configuration are looked up in. -/
def basedirOf (root : Text) (config : FileConfig σ) : Text :=
  (config.basedir.map (Path.absolutize root)).getD root

theorem create_of_holds {file : Text} (holds : files.holds (Path.absolutize root file) = .ok true)
    (given : Option (FileConfig σ)) :
    create files root table file given =
      match inForce files (Path.absolutize root file) given with
      | .error e => .error e
      | .ok config =>
        ofConfig root table (Path.identity root (Path.absolutize root file)) config := by
  unfold create inForce
  dsimp only
  rw [holds]
  cases given <;> rfl

theorem holds_of_create {file : Text} {given : Option (FileConfig σ)} {h : Handler σ}
    (made : create files root table file given = .ok (some h)) :
    files.holds (Path.absolutize root file) = .ok true := by
  unfold create at made
  dsimp only at made
  split at made
  · cases made
  · cases made
  · assumption

/-- A handler has the configuration in force. -/
theorem config_of_create {file : Text} {given : Option (FileConfig σ)} {h : Handler σ}
    (made : create files root table file given = .ok (some h)) :
    ∃ config, inForce files (Path.absolutize root file) given = .ok config ∧
      h.config = settle root config := by
  rw [create_of_holds (holds_of_create made)] at made
  cases settled : inForce files (Path.absolutize root file) given with
  | error e =>
    rw [settled] at made
    cases made
  | ok config =>
    rw [settled] at made
    obtain ⟨parsers, processors, rfl⟩ := eq_of_ofConfig made
    exact ⟨config, rfl, rfl⟩

theorem ofConfig_eq_some {filename : Text} {config : FileConfig σ} :
    (∃ h, ofConfig root table filename config = .ok (some h)) ↔
      (config.matcher.getD Matcher.markup).accepts filename = true ∧
        (∃ parsers, table.resolveAll root (basedirOf root config) config.parsers = .ok parsers) ∧
        ∃ processors,
          table.resolveAll root (basedirOf root config) config.processors = .ok processors := by
  unfold ofConfig
  dsimp only [settle, Option.getD_some]
  split
  · rename_i selects
    rw [basedirOf]
    cases table.resolveAll root ((config.basedir.map (Path.absolutize root)).getD root)
      config.parsers <;>
    cases table.resolveAll root ((config.basedir.map (Path.absolutize root)).getD root)
      config.processors <;> simp [selects]
  · rename_i rejects
    simp [rejects]

theorem create_eq_some {file : Text} {given : Option (FileConfig σ)} :
    (∃ h, create files root table file given = .ok (some h)) ↔
      files.holds (Path.absolutize root file) = .ok true ∧
        ∃ config, inForce files (Path.absolutize root file) given = .ok config ∧
          ∃ h, ofConfig root table (Path.identity root (Path.absolutize root file)) config =
            .ok (some h) := by
  cases holds : files.holds (Path.absolutize root file) with
  | error fault => simp [create, holds]
  | ok found =>
    cases found with
    | false => simp [create, holds]
    | true =>
      rw [create_of_holds holds]
      cases inForce files (Path.absolutize root file) given <;> simp

end LiveMarkup.Handler
