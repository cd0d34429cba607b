import LiveMarkup.Cli
import LiveMarkup.Proofs.Handler.Decision
import LiveMarkup.Proofs.ModuleText.Reading
import LiveMarkup.Proofs.Workspace.Stages

/-!
The two commands that look at one file. They open the same project, but ask for the handler and the
text of the file in different orders, and only one of them can make the project live.

* `Failure.InStage`: nothing but a run fails in a stage;
* `run_enter`: a run comes to the same, whether its project is live or not;
* `transform_follows_process`: what one command prints decides what the other does.
-/

namespace LiveMarkup

variable {σ W β : Type}

instance decidableEqExcept {α ε : Type} [DecidableEq α] [DecidableEq ε] :
    DecidableEq (Except ε α)
  | .ok a, .ok b => decidable_of_iff (a = b) (by simp)
  | .error e, .error f => decidable_of_iff (e = f) (by simp)
  | .ok _, .error _ => isFalse nofun
  | .error _, .ok _ => isFalse nofun

/-! ### Failures outside of stages -/

/-- A stage refused, or the minifier did. -/
def Failure.InStage (e : Failure) : Prop :=
  ∃ phase name message, e = .stage phase name message

section

variable {files : FileTree} {root : Text} {table : StageTable σ} {e : Failure}

theorem StageTable.error_of_resolveAll {basedir : Text} {refs : List (StageRef σ)}
    (failed : table.resolveAll root basedir refs = .error e) : ¬ e.InStage := by
  obtain ⟨_, _, _, _, -, -, failed⟩ := resolveAll_eq_error.mp failed
  obtain ⟨name, -, -, rfl⟩ := resolveRef_eq_error.mp failed
  rintro ⟨_, _, _, ⟨⟩⟩

theorem Registry.error_of_adopt {config : FileConfig σ} {r after : Registry σ}
    (failed : r.adopt table root config = (.error e, after)) : ¬ e.InStage := by
  obtain ⟨failed, -⟩ | ⟨_, -, failed, -⟩ := adopt_eq_error.mp failed <;>
    exact StageTable.error_of_resolveAll (StageTable.resolveAll_eq_error.mpr failed)

theorem FileConfig.error_of_load {path : Text}
    (failed : (load files path : Except Failure (FileConfig σ)) = .error e) : ¬ e.InStage := by
  rintro ⟨_, _, _, rfl⟩
  unfold load at failed
  split at failed
  · cases failed
  · split at failed <;> cases failed

theorem FileConfig.error_of_nearest {directories : List Text}
    (failed : (nearest files directories : Except Failure (FileConfig σ)) = .error e) :
    ¬ e.InStage := by
  induction directories with
  | nil => cases failed
  | cons directory rest ih =>
    unfold nearest at failed
    split at failed
    · cases failed
      rintro ⟨_, _, _, ⟨⟩⟩
    · exact error_of_load failed
    · exact ih failed

theorem Handler.error_of_ofConfig {filename : Text} {config : FileConfig σ}
    (failed : ofConfig root table filename config = .error e) : ¬ e.InStage := by
  unfold ofConfig at failed
  dsimp only at failed
  split at failed
  · split at failed
    · cases failed
      exact StageTable.error_of_resolveAll ‹_›
    · split at failed
      · cases failed
        exact StageTable.error_of_resolveAll ‹_›
      · cases failed
  · cases failed

theorem Handler.error_of_create {file : Text}
    (failed : create files root table file none = .error e) : ¬ e.InStage := by
  unfold create at failed
  dsimp only at failed
  split at failed
  · cases failed
    rintro ⟨_, _, _, ⟨⟩⟩
  · cases failed
  · split at failed
    · cases failed
      exact FileConfig.error_of_nearest ‹_›
    · exact error_of_ofConfig failed

end

namespace Cli

variable {s : Session σ W} {enter : Registry σ → W} {part : W → β} {files : FileTree}
variable {file code : Text} {minify : Bool} {config : FileConfig σ} {r : Registry σ} {e : Failure}

theorem error_of_readSource {root : Text} (failed : readSource files root file = .error e) :
    ¬ e.InStage := by
  unfold readSource at failed
  dsimp only at failed
  cases held : files.read (Path.absolutize root file) with
  | ok code =>
    rw [held] at failed
    cases failed
  | error fault =>
    rw [held] at failed
    cases failed
    rintro ⟨_, _, _, ⟨⟩⟩

/-- What the manifest at the root says is taken over, and without one nothing is. -/
theorem openProject_eq (s : Session σ W) (files : FileTree) (minify : Bool) :
    openProject s files minify =
      match FileConfig.nearest files [s.root] with
      | .error e => .error e
      | .ok config =>
        match Registry.adopt s.table s.root config {} with
        | (.error e, _) => .error e
        | (.ok (), r) =>
          .ok (config, if minify then r.configure { minify := some (.enabled true) } else r) := by
  unfold openProject FileConfig.nearest
  cases held : files.holds (Path.join s.root Manifest.fileName) with
  | error fault => simp only [held]; rfl
  | ok found =>
    cases found with
    | false => simp only [held]; rfl
    | true =>
      simp only [held]
      cases FileConfig.load files (Path.join s.root Manifest.fileName) <;> rfl

theorem error_of_openProject (failed : openProject s files minify = .error e) : ¬ e.InStage := by
  rw [openProject_eq] at failed
  split at failed
  · cases failed
    exact FileConfig.error_of_nearest ‹_›
  · split at failed
    · cases failed
      exact Registry.error_of_adopt ‹_›
    · cases failed

/-- The manifest at the root, if there is one, does not make the project a remedy. -/
def Plain (s : Session σ W) (files : FileTree) : Prop :=
  ∀ config : FileConfig σ, FileConfig.load files (Path.join s.root Manifest.fileName) = .ok config →
    config.remedy = false

theorem plain_of_load
    (said : (FileConfig.load files (Path.join s.root Manifest.fileName)).toOption.map
      (fun config : FileConfig σ => config.remedy) = some false) : Plain s files := by
  intro config loaded
  rw [loaded] at said
  exact Option.some.inj said

theorem Plain.remedy (plain : Plain s files)
    (opened : openProject s files minify = .ok (config, r)) : config.remedy = false := by
  have said : FileConfig.nearest files [s.root] = .ok config := by
    rw [openProject_eq] at opened
    split at opened
    · cases opened
    · split at opened
      · cases opened
      · cases opened
        assumption
  unfold FileConfig.nearest at said
  split at said
  · cases said
  · exact plain config said
  · cases said
    rfl

/-! ### One run -/

/-- A run comes to the same in a project that was made live. -/
theorem run_enter (governed : s.lit.GovernedBy part)
    (unseen : ∀ r, part (enter r.enableLive) = part (enter r)) (h : Handler σ) (code : Text)
    (r : Registry σ) (live : Bool) :
    (s.run h code (enter (if live then r.enableLive else r))).1 = (s.run h code (enter r)).1 := by
  have same : part (enter (if live then r.enableLive else r)) = part (enter r) := by
    split
    · exact unseen r
    · rfl
  rw [← Session.lit_run]
  exact (governed.run h code _ _ same).1

theorem process_of_error (failed : openProject s files minify = .error e) :
    process s enter files file minify = .error e := by
  rw [process, failed]
  rfl

theorem transform_of_error (failed : openProject s files minify = .error e) (live : Bool) :
    transform s enter files file minify live = .error e := by
  rw [transform, failed]
  rfl

theorem process_of_opened (opened : openProject s files minify = .ok (config, r)) :
    process s enter files file minify =
      match Handler.create files s.root s.table file none with
      | .error e => .error e
      | .ok none => .error (.config (.notHandled file))
      | .ok (some h) =>
        match readSource files s.root file with
        | .error e => .error e
        | .ok code => (s.run h code (enter r)).1.map Context.src := by
  rw [process, opened]
  dsimp only [bind, Except.bind]
  cases Handler.create files s.root s.table file none with
  | error e => rfl
  | ok found =>
    cases found with
    | none => rfl
    | some h =>
      cases readSource files s.root file with
      | error e => rfl
      | ok code =>
        dsimp only
        cases (s.run h code (enter r)).1 <;> rfl

theorem transform_of_read (opened : openProject s files minify = .ok (config, r))
    (plain : config.remedy = false) (read : readSource files s.root file = .ok code) (live : Bool) :
    transform s enter files file minify live =
      (s.transform files file code none {}
        (enter (if live || config.live.isSome then r.enableLive else r))).1.map Output.text := by
  rw [transform, opened]
  dsimp only [bind, Except.bind]
  rw [read, plain]
  dsimp only
  simp only [Bool.false_eq_true, if_false]
  cases (s.transform files file code none {}
        (enter (if live || config.live.isSome then r.enableLive else r))).1 <;> rfl

/-! ### Both commands -/

/-- A source is printed as a module that holds it, and a failure stays what it is. -/
def Renders (processed printed : Except Failure Text) : Prop :=
  match processed with
  | .error e => printed = .error e
  | .ok src => ∃ text m, printed = .ok text ∧ ModuleText.read? text = some m ∧ m.src = src

/-- What is printed of a file goes by what comes of it in the stages. It is the file itself where
its configuration asks for markup and its text has none, and otherwise a module with the source that
comes out, or the failure; it does not matter whether the project is made live. -/
def Follows (s : Session σ W) (enter : Registry σ → W) (files : FileTree) (file : Text)
    (minify : Bool) (processed : Except Failure Text) : Prop :=
  ∃ (config : FileConfig σ) (code : Text),
    FileConfig.discover files (Path.absolutize s.root file) = .ok config ∧
      readSource files s.root file = .ok code ∧
      ∀ live,
        let printed := transform s enter files file minify live
        if config.checkMarkup && ! Text.looksLikeMarkup code then printed = .ok code
        else Renders processed printed

/-- What looks like markup is never printed as it is. -/
theorem Follows.of_markup {processed : Except Failure Text}
    (follows : Follows s enter files file minify processed)
    (read : readSource files s.root file = .ok code) (markup : Text.looksLikeMarkup code = true)
    (live : Bool) : Renders processed (transform s enter files file minify live) := by
  obtain ⟨config, code', -, read', printed⟩ := follows
  have same : code' = code := Except.ok.inj (read'.symm.trans read)
  have outcome := printed live
  dsimp only at outcome
  rwa [same, markup, Bool.not_true, Bool.and_false, if_neg Bool.false_ne_true] at outcome

/-- Where a run is reached, both commands go by it. -/
theorem follows_of_made (governed : s.lit.GovernedBy part)
    (unseen : ∀ r, part (enter r.enableLive) = part (enter r)) (plain : Plain s files)
    (opened : openProject s files minify = .ok (config, r)) {h : Handler σ}
    (made : Handler.create files s.root s.table file none = .ok (some h))
    (read : readSource files s.root file = .ok code) :
    Follows s enter files file minify (process s enter files file minify) := by
  obtain ⟨settled, discovered, configured⟩ := Handler.config_of_create made
  have asks : h.config.checkMarkup = settled.checkMarkup := by
    rw [configured]
    rfl
  refine ⟨settled, code, discovered, read, fun live => ?_⟩
  have ran := run_enter governed unseen h code r (live || config.live.isSome)
  rw [process_of_opened opened, transform_of_read opened (plain.remedy opened) read, made, read]
  dsimp only
  rw [Session.transform_of_made made, ← asks, ← ran]
  dsimp only
  split
  · rfl
  · cases s.run h code (enter (if live || config.live.isSome then r.enableLive else r)) with
    | mk result left =>
    cases result with
    | error e => rfl
    | ok out => exact ⟨_, _, rfl, ModuleText.read?_render _, rfl⟩

/-- A run was reached where the source is printed or a stage refused. -/
theorem made_of_process {processed : Except Failure Text}
    (came : process s enter files file minify = processed)
    (reached : ∀ e, processed = .error e → e.InStage) :
    ∃ config r h code, openProject s files minify = .ok (config, r) ∧
      Handler.create files s.root s.table file none = .ok (some h) ∧
      readSource files s.root file = .ok code := by
  cases opened : openProject s files minify with
  | error e =>
    rw [process_of_error opened] at came
    exact absurd (reached e came.symm) (error_of_openProject opened)
  | ok pair =>
    obtain ⟨config, r⟩ := pair
    rw [process_of_opened opened] at came
    split at came
    · rename_i e unmade
      exact absurd (reached e came.symm) (Handler.error_of_create unmade)
    · obtain ⟨_, _, _, ⟨⟩⟩ := reached _ came.symm
    · rename_i h made
      split at came
      · rename_i e unread
        exact absurd (reached e came.symm) (error_of_readSource unread)
      · rename_i code read
        exact ⟨config, r, h, code, rfl, made, read⟩

/-- The two commands agree. Where one prints a source, the other prints a module of that source, or
the file as it is where this asks for markup and has none. Where a stage refuses, both fail alike,
but for files that are printed as they are. A file that can be read and has no handler is printed
as it is, and is an error for the command that prints sources, as long as the project opens; one
that does not open fails both alike. Stages are free in what they do, except that they do not see
whether the project is live. -/
theorem transform_follows_process (governed : s.lit.GovernedBy part)
    (unseen : ∀ r, part (enter r.enableLive) = part (enter r)) (plain : Plain s files)
    (file : Text) (minify : Bool) :
    (∀ src, process s enter files file minify = .ok src →
      Follows s enter files file minify (.ok src)) ∧
    (∀ opened code, openProject s files minify = .ok opened →
      readSource files s.root file = .ok code →
      Handler.create files s.root s.table file none = .ok none →
      process s enter files file minify = .error (.config (.notHandled file)) ∧
        ∀ live, transform s enter files file minify live = .ok code) ∧
    (∀ phase name message,
      process s enter files file minify = .error (.stage phase name message) →
      Follows s enter files file minify (.error (.stage phase name message))) ∧
    ∀ e, openProject s files minify = .error e →
      process s enter files file minify = .error e ∧
        ∀ live, transform s enter files file minify live = .error e := by
  have follows {processed : Except Failure Text}
      (came : process s enter files file minify = processed)
      (reached : ∀ e, processed = .error e → e.InStage) :
      Follows s enter files file minify processed := by
    obtain ⟨config, r, h, code, opened, made, read⟩ := made_of_process came reached
    rw [← came]
    exact follows_of_made governed unseen plain opened made read
  refine ⟨fun src printed => follows printed nofun, ?_, ?_, ?_⟩
  · rintro ⟨config, r⟩ code opened read unhandled
    refine ⟨by rw [process_of_opened opened, unhandled], fun live => ?_⟩
    rw [transform_of_read opened (plain.remedy opened) read, Session.transform_of_made unhandled]
    rfl
  · intro phase name message failed
    refine follows failed ?_
    rintro e ⟨⟩
    exact ⟨phase, name, message, rfl⟩
  · exact fun e failed => ⟨process_of_error failed, transform_of_error failed⟩

/-- A stage of the project refuses files with bold text: the module of the one file holds its
source, and the other one has none. -/
theorem transform_follows_process_refused :
    let p : Project :=
      { root := "/p".toList
        table := Stage.builtins.register "no-bold".toList
          (.mk "no-bold".toList false (.failIf "<b>".toList "bold".toList)) }
    let s := World.session 0 p
    let enter (r : Registry Stage) : World := { projects := [{ p with registry := r }] }
    let files : FileTree :=
      ⟨[(["p".toList], .directory),
        (["p".toList, "markmod.yaml".toList], .file "processors: no-bold\npost: trim\n".toList),
        (["p".toList, "a.html".toList], .file " <p> ".toList),
        (["p".toList, "b.html".toList], .file "<b>".toList)]⟩
    ∀ live,
      (∃ text m, transform s enter files "a.html".toList false live = .ok text ∧
        ModuleText.read? text = some m ∧ m.src = "<p>".toList) ∧
      transform s enter files "b.html".toList false live =
        .error (.stage .perFile "no-bold".toList "bold".toList) := by
  intro p s enter files live
  have plain : Plain s files := plain_of_load (by decide +kernel)
  have unseen (r : Registry Stage) : (enter r.enableLive).inSight = (enter r).inSight := rfl
  obtain ⟨printed, -, -, -⟩ := transform_follows_process (World.session_governed 0 p) unseen plain
    "a.html".toList false
  obtain ⟨-, -, refused, -⟩ := transform_follows_process (World.session_governed 0 p) unseen plain
    "b.html".toList false
  have markup := printed "<p>".toList (by decide +kernel)
  have bold := refused .perFile "no-bold".toList "bold".toList (by decide +kernel)
  have held : readSource files s.root "a.html".toList = .ok " <p> ".toList := by decide +kernel
  have held' : readSource files s.root "b.html".toList = .ok "<b>".toList := by decide +kernel
  exact ⟨markup.of_markup held (by decide) live, bold.of_markup held' (by decide) live⟩

/-- A project whose manifest names a stage that there is not prints nothing, not even a file that
has no handler. -/
theorem unopened_prints_nothing :
    let root := "/p".toList
    let s := session root
    let files : FileTree :=
      ⟨[(["p".toList], .directory),
        (["p".toList, "markmod.yaml".toList], .file "pre: missing\n".toList),
        (["p".toList, "notes.txt".toList], .file "hello".toList)]⟩
    Plain s files ∧ readSource files root "notes.txt".toList = .ok "hello".toList ∧
      Handler.create files root s.table "notes.txt".toList none = .ok none ∧
      ∀ live, transform s (withRegistry root) files "notes.txt".toList false live ≠
        .ok "hello".toList := by
  intro root s files
  refine ⟨plain_of_load (by decide +kernel), by decide +kernel, ?_, by decide +kernel⟩
  have unhandled : (Handler.create files root s.table "notes.txt".toList none).toOption.map
      Option.isSome = some false := by decide +kernel
  cases made : Handler.create files root s.table "notes.txt".toList none with
  | error e =>
    rw [made] at unhandled
    cases unhandled
  | ok found =>
    cases found with
    | none => rfl
    | some h =>
      rw [made] at unhandled
      cases unhandled

end Cli
end LiveMarkup
