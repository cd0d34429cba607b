import LiveMarkup.Stage

/-!
The registry of a session: the stages that every run goes through, the settings, and whether the
project is live. Runs read it phase by phase, so what a stage changes is seen by the phases that
follow.
-/

namespace LiveMarkup

variable {σ : Type}

structure Registry (σ : Type) where
  pre : List σ := []
  post : List σ := []
  settings : Settings := {}
  live : Bool := false
  deriving DecidableEq, Repr

namespace Registry

/-- What may be asked of a registry. -/
inductive Request (σ : Type) where
  | addPre (refs : List (StageRef σ))
  | addPost (refs : List (StageRef σ))
  | configure (patch : SettingsPatch)
  | reset
  | enableLive
  | settings
  | isLive
  | stages

/-- What a registry answers. -/
inductive Reply (σ : Type) where
  | done
  | failed (failure : Failure)
  | settings (s : Settings)
  | live (value : Bool)
  | stages (pre post : List σ)

/-- Appends the stages before or after the processors; one reference that stands for no stage and
nothing is appended. -/
def addPre (table : StageTable σ) (root : Text) (refs : List (StageRef σ)) (r : Registry σ) :
    Except Failure (Registry σ) :=
  match table.resolveAll root root refs with
  | .ok ss => .ok { r with pre := r.pre ++ ss }
  | .error e => .error e

def addPost (table : StageTable σ) (root : Text) (refs : List (StageRef σ)) (r : Registry σ) :
    Except Failure (Registry σ) :=
  match table.resolveAll root root refs with
  | .ok ss => .ok { r with post := r.post ++ ss }
  | .error e => .error e

def configure (r : Registry σ) (patch : SettingsPatch) : Registry σ :=
  { r with settings := r.settings.merge patch }

def enableLive (r : Registry σ) : Registry σ :=
  { r with live := true }

/-- Answers one request. A request that fails changes nothing. -/
def serve (table : StageTable σ) (root : Text) (r : Registry σ) :
    Request σ → Reply σ × Registry σ
  | .addPre refs =>
    match r.addPre table root refs with
    | .ok r => (.done, r)
    | .error e => (.failed e, r)
  | .addPost refs =>
    match r.addPost table root refs with
    | .ok r => (.done, r)
    | .error e => (.failed e, r)
  | .configure patch =>
    let r := r.configure patch
    (.settings r.settings, r)
  | .reset => (.done, {})
  | .enableLive => (.done, r.enableLive)
  | .settings => (.settings r.settings, r)
  | .isLive => (.live r.live, r)
  | .stages => (.stages r.pre r.post, r)

/-- Takes over the project-wide part of a configuration: its stages before and after the processors
and then its settings. What was taken over stays when a later part fails. -/
def adopt (table : StageTable σ) (root : Text) (config : FileConfig σ) (r : Registry σ) :
    Except Failure Unit × Registry σ :=
  match r.addPre table root config.pre with
  | .error e => (.error e, r)
  | .ok r =>
    match r.addPost table root config.post with
    | .error e => (.error e, r)
    | .ok r => (.ok (), r.configure ⟨config.minify, config.sourcemap⟩)

end Registry
end LiveMarkup
