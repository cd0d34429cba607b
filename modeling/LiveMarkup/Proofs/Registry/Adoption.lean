import LiveMarkup.Registry
import Mathlib.Data.List.Forall2

/-!
Taking over the project-wide part of a configuration.

* `resolveAll_eq_ok`, `resolveAll_eq_error`: a list of references stands for one stage each, or
  fails with the first that stands for none;
* `adopt_eq_ok`, `adopt_eq_error`: what is taken over when all references resolve, and what is kept
  of it when one does not.
-/

namespace LiveMarkup

variable {σ : Type}

namespace StageTable

/-- The stages that references stand for, one each and in order. -/
def Resolves (t : StageTable σ) (root basedir : Text) (refs : List (StageRef σ))
    (stages : List σ) : Prop :=
  List.Forall₂ (fun ref s => t.resolveRef root basedir ref = .ok s) refs stages

/-- The failure of the first reference that stands for no stage. -/
def Fails (t : StageTable σ) (root basedir : Text) (refs : List (StageRef σ))
    (failure : Failure) : Prop :=
  ∃ before ref after stages, refs = before ++ ref :: after ∧ t.Resolves root basedir before stages ∧
    t.resolveRef root basedir ref = .error failure

variable {t : StageTable σ} {root basedir : Text}

theorem resolveAll_eq_ok {refs : List (StageRef σ)} {stages : List σ} :
    t.resolveAll root basedir refs = .ok stages ↔ t.Resolves root basedir refs stages := by
  unfold Resolves
  induction refs generalizing stages with
  | nil => cases stages <;> simp [resolveAll]
  | cons ref refs ih =>
    cases found : t.resolveRef root basedir ref with
    | error e => cases stages <;> simp [resolveAll, found]
    | ok s =>
      cases rest : t.resolveAll root basedir refs with
      | error e => cases stages <;> simp [resolveAll, found, rest, ← ih]
      | ok ss => cases stages <;> simp [resolveAll, found, rest, ← ih]

theorem fails_cons {ref : StageRef σ} {refs : List (StageRef σ)} {failure : Failure} :
    t.Fails root basedir (ref :: refs) failure ↔
      t.resolveRef root basedir ref = .error failure ∨
        ∃ s, t.resolveRef root basedir ref = .ok s ∧ t.Fails root basedir refs failure := by
  constructor
  · rintro ⟨before, ref', after, stages, split, resolved, failed⟩
    cases before with
    | nil =>
      obtain ⟨rfl, rfl⟩ := List.cons.inj split
      exact Or.inl failed
    | cons first before =>
      obtain ⟨rfl, rfl⟩ := List.cons.inj split
      cases resolved with
      | cons found resolved =>
        exact Or.inr ⟨_, found, before, ref', after, _, rfl, resolved, failed⟩
  · rintro (failed | ⟨s, found, before, ref', after, stages, rfl, resolved, failed⟩)
    · exact ⟨[], ref, refs, [], rfl, .nil, failed⟩
    · exact ⟨ref :: before, ref', after, s :: stages, rfl, .cons found resolved, failed⟩

theorem resolveAll_eq_error {refs : List (StageRef σ)} {failure : Failure} :
    t.resolveAll root basedir refs = .error failure ↔ t.Fails root basedir refs failure := by
  induction refs with
  | nil => simp [resolveAll, Fails]
  | cons ref refs ih =>
    rw [fails_cons, ← ih]
    cases found : t.resolveRef root basedir ref with
    | error e => simp [resolveAll, found]
    | ok s => cases rest : t.resolveAll root basedir refs <;> simp [resolveAll, found, rest]

end StageTable

namespace Registry

variable {table : StageTable σ} {root : Text} {config : FileConfig σ} {r after : Registry σ}

theorem adopt_eq_ok :
    r.adopt table root config = (.ok (), after) ↔
      ∃ pre post, table.Resolves root root config.pre pre ∧
        table.Resolves root root config.post post ∧
        after =
          { r with
            pre := r.pre ++ pre
            post := r.post ++ post
            settings := ⟨config.minify.getD r.settings.minify,
              config.sourcemap.getD r.settings.sourcemap⟩ } := by
  simp only [← StageTable.resolveAll_eq_ok]
  unfold adopt addPre addPost
  cases table.resolveAll root root config.pre with
  | error e => simp
  | ok pre =>
    cases table.resolveAll root root config.post with
    | error e => simp
    | ok post => simp [configure, Settings.merge, eq_comm]

theorem adopt_eq_error {e : Failure} :
    r.adopt table root config = (.error e, after) ↔
      table.Fails root root config.pre e ∧ after = r ∨
        ∃ pre, table.Resolves root root config.pre pre ∧ table.Fails root root config.post e ∧
          after = { r with pre := r.pre ++ pre } := by
  simp only [← StageTable.resolveAll_eq_ok, ← StageTable.resolveAll_eq_error]
  unfold adopt addPre addPost
  cases table.resolveAll root root config.pre with
  | error e => simp [eq_comm]
  | ok pre => cases table.resolveAll root root config.post <;> simp [eq_comm]

/-- A configuration whose references all resolve is taken over whole. Where one of them does not,
nothing but the stages before the processors changes, and these only when the reference that stands
for no stage comes after them. -/
theorem adopt_whole_or_pre (table : StageTable σ) (root : Text) (config : FileConfig σ)
    (r after : Registry σ) :
    (r.adopt table root config = (.ok (), after) ↔
      ∃ pre post, table.Resolves root root config.pre pre ∧
        table.Resolves root root config.post post ∧
        after.pre = r.pre ++ pre ∧ after.post = r.post ++ post ∧
        after.settings.minify = config.minify.getD r.settings.minify ∧
        after.settings.sourcemap = config.sourcemap.getD r.settings.sourcemap ∧
        after.live = r.live) ∧
    ∀ e, r.adopt table root config = (.error e, after) ↔
      after.post = r.post ∧ after.settings = r.settings ∧ after.live = r.live ∧
        (table.Fails root root config.pre e ∧ after.pre = r.pre ∨
          ∃ pre, table.Resolves root root config.pre pre ∧ table.Fails root root config.post e ∧
            after.pre = r.pre ++ pre) := by
  constructor
  · rw [adopt_eq_ok]
    obtain ⟨pre', post', ⟨minify', sourcemap'⟩, live'⟩ := after
    simp only [mk.injEq, Settings.mk.injEq, and_assoc]
  · intro e
    rw [adopt_eq_error]
    constructor
    · rintro (⟨failed, rfl⟩ | ⟨pre, resolved, failed, rfl⟩)
      · exact ⟨rfl, rfl, rfl, Or.inl ⟨failed, rfl⟩⟩
      · exact ⟨rfl, rfl, rfl, Or.inr ⟨pre, resolved, failed, rfl⟩⟩
    · obtain ⟨pre', post', settings', live'⟩ := after
      rintro ⟨rfl, rfl, rfl, ⟨failed, rfl⟩ | ⟨pre, resolved, failed, rfl⟩⟩
      · exact Or.inl ⟨failed, rfl⟩
      · exact Or.inr ⟨pre, resolved, failed, rfl⟩

/-- A stage before the processors stays although a reference after it stands for none. -/
theorem pre_kept_of_adopt_error :
    ¬ ∀ (table : StageTable Bool) (root : Text) (config : FileConfig Bool) (r : Registry Bool)
        (e : Failure),
      (r.adopt table root config).1 = .error e → (r.adopt table root config).2 = r := by
  intro allOrNothing
  have kept := allOrNothing ⟨[("trim".toList, true)]⟩ "/p".toList
    { pre := [.named "trim".toList], post := [.named "missing".toList] } {}
    (.stageNotFound "missing".toList "/p".toList) (by decide)
  exact absurd kept (by decide)

end Registry
end LiveMarkup
