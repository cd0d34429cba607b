import LiveMarkup.Proofs.Handler.Moments
import LiveMarkup.Proofs.ModuleText.Reading
import LiveMarkup.Proofs.Registry.History
import LiveMarkup.Proofs.Transform

/-!
What becomes of a file. Its handler and its code alone decide whether it is left as it is, and then
nothing is called. Otherwise all goes by its run: a failure stays what it is, and a module follows
the changes of its file if the project is live once all stages are done.

* `Handler.Spares`: what is left as it is;
* `Session.transform_of_spared`, `Session.transform_of_taken`: both ways, as equations;
* `Conduct.live_serve`: when a registry is live, by what it was asked for;
* `Conduct.transform_outcome`: the outcome for every file, on record.
-/

namespace LiveMarkup

variable {σ W V : Type}

/-- Markup starts with `<`, when blanks are passed over. -/
theorem Text.looksLikeMarkup_iff {code : Text} :
    looksLikeMarkup code = true ↔ code.find? (! isBlank ·) = some '<' := by
  rw [looksLikeMarkup, trimStart, List.find?_eq_head?_dropWhile_not, beq_iff_eq]
  simp only [Bool.not_not]

/-- Whether code is left as it is: there is no handler, or the handler asks for markup and the first
character that is not blank is no `<`, if there is one at all. -/
def Handler.Spares (found : Option (Handler σ)) (code : Text) : Prop :=
  found = none ∨
    ∃ h, found = some h ∧ h.config.checkMarkup = true ∧
      code.find? (! Text.isBlank ·) ≠ some '<'

namespace Session

variable {s : Session σ W} {files : FileTree} {given : Option (FileConfig σ)}
variable {paths : ModulePaths} {file code : Text} {h : Handler σ}

theorem spares_some_iff :
    Handler.Spares (some h) code ↔
      (h.config.checkMarkup && ! Text.looksLikeMarkup code) = true := by
  simp [Handler.Spares, ← Text.looksLikeMarkup_iff]

/-- A failure to find the handler is the outcome. -/
theorem transform_of_error {e : Failure}
    (failed : Handler.create files s.root s.table file given = .error e) (w : W) :
    s.transform files file code given paths w = (.error e, w) := by
  unfold transform
  exact Run.bind_error (handler_eq failed w)

theorem transform_of_spared {found : Option (Handler σ)}
    (made : Handler.create files s.root s.table file given = .ok found)
    (spared : Handler.Spares found code) (w : W) :
    s.transform files file code given paths w = (.ok (.passed code), w) := by
  refine Prod.ext ?_ (world_of_untaken (fun h made' => ?_) w)
  · rw [transform_of_made made]
    cases found with
    | none => rfl
    | some h =>
      dsimp only
      rw [if_pos (spares_some_iff.mp spared)]
  · obtain rfl : found = some h := Except.ok.inj (made.symm.trans made')
    exact spares_some_iff.mp spared

theorem transform_of_taken (made : Handler.create files s.root s.table file given = .ok (some h))
    (taken : ¬ Handler.Spares (some h) code) (w : W) :
    let ran := s.run h code w
    s.transform files file code given paths w =
      (ran.1.map fun out => .built (ModuleText.ofSource s.root out.filename out.src
        (s.registry ran.2).live paths).render, ran.2) := by
  have asks := mt spares_some_iff.mpr taken
  refine Prod.ext ?_ (world_of_taken made (Bool.not_eq_true _ ▸ asks) w)
  rw [transform_of_made made]
  dsimp only
  rw [if_neg asks]
  cases s.run h code w with | mk result left =>
  cases result <;> rfl

/-- Only code that is spared is passed on. -/
theorem spares_of_passed {found : Option (Handler σ)}
    (made : Handler.create files s.root s.table file given = .ok found) {kept : Text} {w : W}
    (passed : (s.transform files file code given paths w).1 = .ok (.passed kept)) :
    Handler.Spares found code := by
  by_contra taken
  cases found with
  | none => exact taken (Or.inl rfl)
  | some h =>
    rw [transform_of_taken made taken] at passed
    dsimp only at passed
    cases result : (s.run h code w).1 with
    | error e =>
      rw [result] at passed
      cases passed
    | ok out =>
      rw [result] at passed
      cases passed

end Session

namespace Registry

variable {table : StageTable σ} {root : Text} {r : Registry σ}

theorem live_serve_iff (request : Request σ) :
    (r.serve table root request).2.live = true ↔
      request = .enableLive ∨ (r.live = true ∧ request.isReset = false) := by
  cases request with
  | addPre refs => simp [serve_addPre]
  | addPost refs => simp [serve_addPost]
  | reset | enableLive | configure | settings | isLive | stages =>
    simp [serve, configure, enableLive]

end Registry

namespace Conduct

variable {b : Conduct σ V}

/-- A registry that was asked for something is live if this was asked for since the last reset, or
if it was live before and there was no reset. -/
theorem live_serve (r : Registry σ) (requests : List (Registry.Request σ)) :
    (b.serve r requests).live = true ↔
      .enableLive ∈ Registry.sinceReset requests ∨ (r.live = true ∧ .reset ∉ requests) := by
  induction requests using List.reverseRecOn with
  | nil => simp [serve, Registry.sinceReset]
  | append_singleton requests request ih =>
    have served : b.serve r (requests ++ [request]) =
        ((b.serve r requests).serve b.table b.root request).2 := List.foldl_append
    rw [served, Registry.live_serve_iff, ih, Registry.sinceReset_concat]
    cases request <;> simp

theorem after_eq_serve (r : Registry σ) (calls : List (Call σ)) :
    b.after r calls = b.serve r (calls.flatMap Call.requests) :=
  (List.foldl_flatMap ..).symm

/-- Where the handler of a file cannot be found, this failure is the outcome. Otherwise the code is
passed on as it is if and only if it is spared, and in both cases no call is made and nothing
changes. Code that is not spared is run: a failure of the run is the outcome, and else a module that
holds the source that came out. It follows the changes of its file if and only if the project is
live when the run is over, by all that the run asked of the registry. -/
theorem transform_outcome (b : Conduct σ V) (files : FileTree) (file code : Text)
    (given : Option (FileConfig σ)) (paths : ModulePaths) (w : Record σ V) :
    let made := Handler.create files b.root b.table file given
    let outcome := b.session.transform files file code given paths w
    (∀ e, made = .error e → outcome = (.error e, w)) ∧
    (∀ found, made = .ok found →
      (outcome = (.ok (.passed code), w) ↔ Handler.Spares found code) ∧
      ∀ kept, outcome.1 = .ok (.passed kept) → Handler.Spares found code) ∧
    ∀ h, made = .ok (some h) →
      (∃ config, Handler.inForce files (Path.absolutize b.root file) given = .ok config ∧
        h.config.checkMarkup = config.checkMarkup) ∧
      (¬ Handler.Spares (some h) code →
        let ran := b.session.run h code w
        outcome.2 = ran.2 ∧
        (∀ e, ran.1 = .error e → outcome.1 = .error e) ∧
        ∀ out, ran.1 = .ok out → ∃ m calls,
          outcome.1 = .ok (.built m.render) ∧ ModuleText.read? m.render = some m ∧
          m = ModuleText.ofSource b.root out.filename out.src ran.2.registry.live paths ∧
          (m.subscription.isSome = true ↔ ran.2.registry.live = true) ∧
          ran.2.calls = w.calls ++ calls ∧
          let requests := calls.flatMap Call.requests
          (ran.2.registry.live = true ↔ .enableLive ∈ Registry.sinceReset requests ∨
            (w.registry.live = true ∧ .reset ∉ requests))) := by
  intro made outcome
  refine ⟨fun e failed => Session.transform_of_error (s := b.session) failed w,
    fun found came => ⟨⟨?_, ?_⟩, ?_⟩, fun h came => ⟨?_, ?_⟩⟩
  · intro eq
    exact Session.spares_of_passed (s := b.session) came (congrArg Prod.fst eq)
  · exact fun spared => Session.transform_of_spared (s := b.session) came spared w
  · exact fun kept passed => Session.spares_of_passed (s := b.session) came passed
  · obtain ⟨config, settled, configured⟩ := Handler.config_of_create came
    refine ⟨config, settled, ?_⟩
    rw [configured]
    rfl
  · intro taken ran
    have eq : outcome = _ := Session.transform_of_taken (s := b.session) came taken w
    obtain ⟨calls, registry, -⟩ := run_session (b := b) (h := h) code w
    refine ⟨congrArg Prod.snd eq, fun e failed => ?_, fun out done => ?_⟩
    · rw [eq]
      exact congrArg (Except.map _) failed
    · refine ⟨_, _, ?_, ModuleText.read?_render _, rfl, ?_, calls, ?_⟩
      · rw [eq]
        exact congrArg (Except.map _) done
      · cases ran.2.registry.live <;> simp [ModuleText.ofSource]
      · dsimp only
        rw [← live_serve (b := b), ← after_eq_serve, ← registry]

end Conduct
end LiveMarkup
