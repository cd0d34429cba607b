import LiveMarkup.Proofs.Handler.Create
import LiveMarkup.Proofs.Path.Identity
import LiveMarkup.Proofs.Registry.Adoption
import LiveMarkup.Proofs.Transform

/-!
Whether a file has a handler. The questions are asked in a fixed order, and the first one that
settles the matter decides, whatever the answers to those after it would be.

* `Handler.Decision`: the rules, one for each way in which the matter is settled;
* `Session.handler_decided`: exactly one of them applies, and its answer is given.
-/

namespace LiveMarkup

variable {σ W : Type}

namespace StageTable

variable {t : StageTable σ} {root basedir : Text}

theorem resolveRef_eq_error {ref : StageRef σ} {failure : Failure} :
    t.resolveRef root basedir ref = .error failure ↔
      ∃ name, ref = .named name ∧ (∀ s, t.resolve root basedir name ≠ .ok s) ∧
        failure = .stageNotFound name basedir := by
  cases ref with
  | direct s => simp [resolveRef]
  | named name =>
    have refused {e : Failure} (h : t.resolve root basedir name = .error e) :
        e = .stageNotFound name basedir := by
      unfold resolve at h
      split at h
      · cases h
      · dsimp only at h
        split at h
        · cases h
        · exact (Except.error.inj h).symm
    cases found : t.resolve root basedir name with
    | ok s => simp [resolveRef, found]
    | error e =>
      have same := refused found
      simp [resolveRef, found, same, eq_comm]

theorem fails_append {a b : List (StageRef σ)} {failure : Failure} :
    t.Fails root basedir (a ++ b) failure ↔
      t.Fails root basedir a failure ∨
        ∃ stages, t.Resolves root basedir a stages ∧ t.Fails root basedir b failure := by
  induction a with
  | nil => simp [Fails, Resolves]
  | cons ref a ih =>
    rw [List.cons_append, fails_cons, fails_cons, ih]
    constructor
    · rintro (failed | ⟨s, found, failed | ⟨stages, resolved, failed⟩⟩)
      · exact Or.inl (Or.inl failed)
      · exact Or.inl (Or.inr ⟨s, found, failed⟩)
      · exact Or.inr ⟨s :: stages, .cons found resolved, failed⟩
    · rintro ((failed | ⟨s, found, failed⟩) | ⟨stages, resolved, failed⟩)
      · exact Or.inl failed
      · exact Or.inr ⟨s, found, Or.inl failed⟩
      · cases resolved with
        | cons found resolved => exact Or.inr ⟨_, found, Or.inr ⟨_, resolved, failed⟩⟩

end StageTable

namespace Handler

/-- How the matter of a handler is settled. Every rule but the last leaves open what the questions
after its own would come to. -/
inductive Decision (files : FileTree) (root : Text) (table : StageTable σ) (file : Text)
    (given : Option (FileConfig σ)) : Except Failure (Option (Handler σ)) → Prop
  | unseen {fault : FileFault} (unseen : files.holds (Path.absolutize root file) = .error fault) :
    Decision files root table file given (.error (.io fault))
  | missing (missing : files.holds (Path.absolutize root file) = .ok false) :
    Decision files root table file given (.ok none)
  | unsettled {e : Failure} (held : files.holds (Path.absolutize root file) = .ok true)
    (unsettled : inForce files (Path.absolutize root file) given = .error e) :
    Decision files root table file given (.error e)
  | unselected {config : FileConfig σ} (held : files.holds (Path.absolutize root file) = .ok true)
    (settled : inForce files (Path.absolutize root file) given = .ok config)
    (rejects : (config.matcher.getD Matcher.markup).accepts (Path.identity root file) = false) :
    Decision files root table file given (.ok none)
  | unknown {config : FileConfig σ} {before after : List (StageRef σ)} {stages : List σ}
    {name : Text} (held : files.holds (Path.absolutize root file) = .ok true)
    (settled : inForce files (Path.absolutize root file) given = .ok config)
    (selects : (config.matcher.getD Matcher.markup).accepts (Path.identity root file) = true)
    (named : config.parsers ++ config.processors = before ++ .named name :: after)
    (found : table.Resolves root (basedirOf root config) before stages)
    (lost : ∀ s, table.resolve root (basedirOf root config) name ≠ .ok s) :
    Decision files root table file given (.error (.stageNotFound name (basedirOf root config)))
  | made {config : FileConfig σ} {parsers processors : List σ}
    (held : files.holds (Path.absolutize root file) = .ok true)
    (settled : inForce files (Path.absolutize root file) given = .ok config)
    (selects : (config.matcher.getD Matcher.markup).accepts (Path.identity root file) = true)
    (parsing : table.Resolves root (basedirOf root config) config.parsers parsers)
    (processing : table.Resolves root (basedirOf root config) config.processors processors) :
    Decision files root table file given (.ok (some
      { config := { config with
          basedir := some (basedirOf root config)
          matcher := some (config.matcher.getD Matcher.markup) }
        filename := Path.identity root file
        parsers := parsers
        processors := processors }))

variable {files : FileTree} {root : Text} {table : StageTable σ}

theorem ofConfig_of_rejects {filename : Text} {config : FileConfig σ}
    (rejects : (config.matcher.getD Matcher.markup).accepts filename = false) :
    ofConfig root table filename config = .ok none := by
  simp [ofConfig, settle, rejects]

theorem ofConfig_of_fails {filename : Text} {config : FileConfig σ} {e : Failure}
    (selects : (config.matcher.getD Matcher.markup).accepts filename = true)
    (fails : table.Fails root (basedirOf root config) (config.parsers ++ config.processors) e) :
    ofConfig root table filename config = .error e := by
  rw [StageTable.fails_append] at fails
  simp only [← StageTable.resolveAll_eq_error, ← StageTable.resolveAll_eq_ok, basedirOf] at fails
  obtain failed | ⟨parsers, found, failed⟩ := fails
  · simp [ofConfig, settle, selects, failed]
  · simp [ofConfig, settle, selects, found, failed]

theorem ofConfig_of_resolves {filename : Text} {config : FileConfig σ} {parsers processors : List σ}
    (selects : (config.matcher.getD Matcher.markup).accepts filename = true)
    (parsing : table.Resolves root (basedirOf root config) config.parsers parsers)
    (processing : table.Resolves root (basedirOf root config) config.processors processors) :
    ofConfig root table filename config =
      .ok (some ⟨settle root config, filename, parsers, processors⟩) := by
  rw [← StageTable.resolveAll_eq_ok, basedirOf] at parsing processing
  simp [ofConfig, settle, selects, parsing, processing]

/-- What a rule answers is what is made of the file. -/
theorem Decision.create_eq (absolute : Path.isAbsolute root = true) {file : Text}
    {given : Option (FileConfig σ)} {result : Except Failure (Option (Handler σ))}
    (decided : Decision files root table file given result) :
    create files root table file given = result := by
  have identity := Path.identity_absolutize absolute file
  cases decided with
  | unseen unseen => simp [create, unseen]
  | missing missing => simp [create, missing]
  | unsettled held unsettled => rw [create_of_holds held, unsettled]
  | unselected held settled rejects =>
    rw [create_of_holds held, settled, identity]
    exact ofConfig_of_rejects rejects
  | @unknown config before after stages name held settled selects named found lost =>
    have failed := StageTable.resolveRef_eq_error.mpr ⟨name, rfl, lost, rfl⟩
    rw [create_of_holds held, settled, identity]
    exact ofConfig_of_fails selects ⟨before, .named name, after, stages, named, found, failed⟩
  | made held settled selects parsing processing =>
    rw [create_of_holds held, settled, identity]
    exact ofConfig_of_resolves selects parsing processing

/-- There is a rule for every file. -/
theorem exists_decision (files : FileTree) (root : Text) (table : StageTable σ) (file : Text)
    (given : Option (FileConfig σ)) : ∃ result, Decision files root table file given result := by
  cases held : files.holds (Path.absolutize root file) with
  | error fault => exact ⟨_, .unseen held⟩
  | ok found =>
    cases found with
    | false => exact ⟨_, .missing held⟩
    | true =>
      cases settled : inForce files (Path.absolutize root file) given with
      | error e => exact ⟨_, .unsettled held settled⟩
      | ok config =>
        cases selects : (config.matcher.getD Matcher.markup).accepts (Path.identity root file) with
        | false => exact ⟨_, .unselected held settled selects⟩
        | true =>
          have unknown {e : Failure} (failed : table.Fails root (basedirOf root config)
              (config.parsers ++ config.processors) e) :
              ∃ result, Decision files root table file given result := by
            obtain ⟨before, ref, after, stages, named, found, failed⟩ := failed
            obtain ⟨name, rfl, lost, -⟩ := StageTable.resolveRef_eq_error.mp failed
            exact ⟨_, .unknown held settled selects named found lost⟩
          cases parsing : table.resolveAll root (basedirOf root config) config.parsers with
          | error e =>
            exact unknown (StageTable.fails_append.mpr
              (Or.inl (StageTable.resolveAll_eq_error.mp parsing)))
          | ok parsers =>
            have parsing := StageTable.resolveAll_eq_ok.mp parsing
            cases processing : table.resolveAll root (basedirOf root config) config.processors with
            | error e =>
              exact unknown (StageTable.fails_append.mpr
                (Or.inr ⟨parsers, parsing, StageTable.resolveAll_eq_error.mp processing⟩))
            | ok processors =>
              exact ⟨_, .made held settled selects parsing
                (StageTable.resolveAll_eq_ok.mp processing)⟩

/-- A handler looks its stages up in a clean place, and has a matcher. -/
theorem Decision.placed (absolute : Path.isAbsolute root = true) (cleaned : Path.clean root = root)
    {file : Text} {given : Option (FileConfig σ)} {h : Handler σ}
    (decided : Decision files root table file given (.ok (some h))) :
    ∃ basedir matcher, h.config.basedir = some basedir ∧ h.config.matcher = some matcher ∧
      Path.isAbsolute basedir = true ∧ Path.clean basedir = basedir := by
  cases decided with
  | @made config parsers processors =>
    refine ⟨_, _, rfl, rfl, ?_⟩
    unfold basedirOf
    cases config.basedir with
    | none => exact ⟨absolute, cleaned⟩
    | some directory =>
      exact ⟨Path.isAbsolute_absolutize absolute directory,
        Path.clean_absolutize absolute directory⟩

end Handler

namespace Session

variable {s : Session σ W}

/-- Exactly one rule settles whether a file has a handler. The answer is the same for every spelling
of its path and in every world, and asking changes nothing there: no stage is called, and the
registry stays as it is. A handler that comes of it has a clean absolute directory and a matcher. -/
theorem handler_decided (absolute : Path.isAbsolute s.root = true)
    (cleaned : Path.clean s.root = s.root) (files : FileTree) (file : Text)
    (given : Option (FileConfig σ)) :
    ∃ result, Handler.Decision files s.root s.table file given result ∧
      (∀ other, Handler.Decision files s.root s.table file given other → other = result) ∧
      (∀ spelling, Path.absolutize s.root spelling = Path.absolutize s.root file →
        ∀ w, s.handler files spelling given w = (result, w)) ∧
      ∀ h, result = .ok (some h) →
        ∃ basedir matcher, h.config.basedir = some basedir ∧ h.config.matcher = some matcher ∧
          Path.isAbsolute basedir = true ∧ Path.clean basedir = basedir := by
  obtain ⟨result, decided⟩ := Handler.exists_decision files s.root s.table file given
  have made := decided.create_eq absolute
  refine ⟨result, decided, ?_, ?_, ?_⟩
  · intro other decided'
    rw [← made, decided'.create_eq absolute]
  · intro spelling same w
    exact handler_eq ((Handler.create_congr same given).trans made) w
  · rintro h rfl
    exact decided.placed absolute cleaned

/-- Two references stand for no stage, and the first of them decides. The world counts the calls of
stages. -/
theorem handler_decided_lost :
    let s : Session Bool Nat :=
      { root := "/p/q".toList
        table := ⟨[("trim".toList, true)]⟩
        stages := ⟨fun _ => "trim".toList, fun _ ctx calls => (.ok ctx, calls + 1)⟩
        minifier := fun _ src calls => (.ok src, calls + 1)
        registry := fun _ => {} }
    let files : FileTree :=
      ⟨[(["p".toList], .directory), (["p".toList, "a.html".toList], .file "<p>".toList)]⟩
    let given : FileConfig Bool :=
      { matcher := some ⟨[], [], .empty⟩
        basedir := some "stages".toList
        parsers := [.named "trim".toList, .direct false, .named "lost".toList]
        processors := [.named "missing".toList] }
    Path.isAbsolute s.root = true ∧ Path.clean s.root = s.root ∧
      ∀ calls, s.handler files "x/../../a.html".toList (some given) calls =
        (.error (.stageNotFound "lost".toList "/p/q/stages".toList), calls) := by
  intro s files given
  have absolute : Path.isAbsolute s.root = true := by decide
  have cleaned : Path.clean s.root = s.root := by decide
  obtain ⟨result, -, only, answer, -⟩ :=
    handler_decided absolute cleaned files "../a.html".toList (some given)
  have found : s.table.Resolves s.root "/p/q/stages".toList
      [.named "trim".toList, .direct false] [true, false] := .cons rfl (.cons rfl .nil)
  have refused : s.table.resolve s.root "/p/q/stages".toList "lost".toList =
      .error (.stageNotFound "lost".toList "/p/q/stages".toList) := by decide
  have lost : ∀ stage, s.table.resolve s.root "/p/q/stages".toList "lost".toList ≠ .ok stage := by
    rw [refused]
    exact nofun
  have settled : Handler.inForce files "/p/a.html".toList (some given) = .ok given := rfl
  have named : given.parsers ++ given.processors =
      [.named "trim".toList, .direct false] ++ .named "lost".toList :: [.named "missing".toList] :=
    rfl
  have decided := only _ (.unknown (by decide) settled (by decide) named found lost)
  refine ⟨absolute, cleaned, fun calls => ?_⟩
  rw [answer "x/../../a.html".toList (by decide) calls, ← decided]
  rfl

end Session
end LiveMarkup
