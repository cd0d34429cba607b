import LiveMarkup.Proofs.Pattern.Matching
import LiveMarkup.Proofs.Transform.Outcome
import LiveMarkup.Remedy

/-!
Modules are not built again. The text of every module begins in a way that remedies look for, and
that is no markup.

* `Remedy.prebuilt_accepts`: what remedies look for, as a pattern;
* `ModuleText.isPrebuilt_render`, `ModuleText.looksLikeMarkup_render`: every module is like this;
* `Remedy.built_left_alone`: what comes of a module that is taken for a source.
-/

namespace LiveMarkup

variable {σ W : Type}

/-- The white space of patterns is what counts as blank. -/
theorem Unicode.mem_whiteSpace (c : Char) : whiteSpace.mem c = Text.isBlank c := by
  have listed : whiteSpace.bounds = [9, 14, 32, 33, 133, 134, 160, 161, 5760, 5761, 8192, 8203,
      8232, 8234, 8239, 8240, 8287, 8288, 12288, 12289] := by decide +kernel
  unfold CharSet.mem Text.isBlank
  rw [listed]
  generalize c.toNat = n
  -- Each pair of bounds is a run, so both sides are the same ranges of numbers.
  repeat rw [CharSet.memFrom_cons_cons (by decide)]
  rw [Bool.eq_iff_iff]
  simp only [CharSet.memFrom, Bool.or_eq_true, Bool.and_eq_true, decide_eq_true_eq, beq_iff_eq,
    Bool.false_eq_true, or_false]
  omega

namespace Remedy

/-- How a module begins. -/
def prebuilt : Matcher :=
  .known "^module\\.exports\\s?=".toList []

/-- What the pattern of modules is read as. -/
theorem prebuilt_expr : prebuilt.expr =
    .seq (.look .start) (.seq (.text "module.exports".toList)
      (.seq (.repeated 0 (some 1) true (.set Unicode.whiteSpace false)) (.text ['=']))) := by
  decide +kernel

theorem isPrebuilt_iff {code : Text} :
    isPrebuilt code = true ↔
      ∃ gap rest, code = "module.exports".toList ++ (gap ++ '=' :: rest) ∧
        (gap = [] ∨ ∃ c, gap = [c] ∧ Text.isBlank c = true) := by
  constructor
  · intro taken
    unfold isPrebuilt at taken
    split at taken
    · rename_i rest found
      exact ⟨[], rest, Text.eq_append_of_after? found, Or.inl rfl⟩
    · rename_i c rest _ found
      exact ⟨[c], rest, Text.eq_append_of_after? found, Or.inr ⟨c, rfl, taken⟩⟩
    · cases taken
  · rintro ⟨gap, rest, rfl, rfl | ⟨c, rfl, blank⟩⟩
    · rfl
    · rw [isPrebuilt, Text.after?_append]
      split
      · rfl
      · rename_i found
        cases found
        exact blank
      · rename_i other
        exact absurd rfl (other c rest)

/-- Code is a module already where it begins as the pattern says. -/
theorem prebuilt_accepts (code : Text) : prebuilt.accepts code = isPrebuilt code := by
  rw [Bool.eq_iff_iff, Matcher.accepts, Pattern.Expr.occursIn_iff, prebuilt_expr, isPrebuilt_iff]
  constructor
  · rintro ⟨before, _, after, rfl, _, _, rfl, ⟨rfl, starts⟩, _, _, rfl, rfl, gap, _, rfl, fits, rfl⟩
    obtain rfl : before = [] := by simpa [Pattern.Look.holds] using starts
    refine ⟨gap, after, by simp, ?_⟩
    simpa only [Pattern.Expr.Matches, Unicode.mem_whiteSpace] using
      Pattern.Expr.matches_optional.mp fits
  · rintro ⟨gap, rest, rfl, fits⟩
    have blank : (Pattern.Expr.repeated 0 (some 1) true (.set Unicode.whiteSpace false)).Matches
        "module.exports".toList gap (['='] ++ rest) := by
      rw [Pattern.Expr.matches_optional]
      simpa only [Pattern.Expr.Matches, Unicode.mem_whiteSpace] using fits
    exact ⟨[], "module.exports".toList ++ (gap ++ ['=']), rest, by simp, [], _, rfl, ⟨rfl, rfl⟩,
      _, _, rfl, rfl, gap, ['='], rfl, blank, rfl⟩

end Remedy

namespace ModuleText

/-- What every module begins with. -/
theorem exists_render_eq (m : ModuleText) :
    ∃ rest, m.render = "module.exports".toList ++ (' ' :: '=' :: rest) := by
  have opening : "module.exports = (require(".toList =
      "module.exports".toList ++ (' ' :: '=' :: " (require(".toList) := by decide
  unfold render
  rw [opening]
  simp only [List.append_assoc, List.cons_append]
  exact ⟨_, rfl⟩

theorem isPrebuilt_render (m : ModuleText) : Remedy.isPrebuilt m.render = true := by
  obtain ⟨rest, begins⟩ := m.exists_render_eq
  exact Remedy.isPrebuilt_iff.mpr ⟨[' '], rest, begins, Or.inr ⟨' ', rfl, rfl⟩⟩

theorem looksLikeMarkup_render (m : ModuleText) : Text.looksLikeMarkup m.render = false := by
  obtain ⟨rest, begins⟩ := m.exists_render_eq
  rw [begins]
  rfl

end ModuleText

namespace Session

variable {s : Session σ W} {files : FileTree} {given : Option (FileConfig σ)}
variable {paths : ModulePaths} {file code : Text}

/-- Where the configuration in force asks for markup, other code is passed on unless the handler
cannot be found. -/
theorem transform_of_unmarked
    (asks : ∀ config, Handler.inForce files (Path.absolutize s.root file) given = .ok config →
      config.checkMarkup = true)
    (unmarked : Text.looksLikeMarkup code = false) (w : W) :
    s.transform files file code given paths w =
      ((Handler.create files s.root s.table file given).map fun _ => .passed code, w) := by
  cases made : Handler.create files s.root s.table file given with
  | error e => exact transform_of_error made w
  | ok found =>
    refine transform_of_spared made ?_ w
    cases found with
    | none => exact Or.inl rfl
    | some h =>
      obtain ⟨config, settled, configured⟩ := Handler.config_of_create made
      have asked : h.config.checkMarkup = true := by
        rw [configured]
        exact asks config settled
      rw [spares_some_iff, asked, unmarked]
      rfl

end Session

namespace Remedy

variable {s : Session σ W} {r : Remedy σ} {files : FileTree} {given : Option (FileConfig σ)}
variable {paths : ModulePaths} {file code text : Text} {w w' : W}

theorem apply_of_prebuilt (built : isPrebuilt code = true) :
    r.apply s files file code paths = pure (.passed code) := by
  simp [apply, built]

/-- What is built is the text of a module. -/
theorem exists_eq_render
    (built : s.transform files file code given paths w = (.ok (.built text), w') ∨
      r.apply s files file code paths w = (.ok (.built text), w')) :
    ∃ m : ModuleText, text = m.render := by
  rcases built with built | built
  · obtain ⟨_, _, -, -, rfl⟩ := Session.transform_built built
    exact ⟨_, rfl⟩
  · unfold apply at built
    split at built
    · cases built
    · obtain ⟨_, _, -, -, rfl⟩ := Session.transform_built built
      exact ⟨_, rfl⟩

/-- A module begins as remedies look for it. Whatever the session, the file, the world and the
remedy are, a remedy passes a module on as it is; and where the configuration in force asks for
markup, a module is passed on as well unless the handler of the file cannot be found. In both cases
the world stays as it is, so no stage is called. -/
theorem built_left_alone
    (built : s.transform files file code given paths w = (.ok (.built text), w') ∨
      r.apply s files file code paths w = (.ok (.built text), w')) :
    prebuilt.accepts text = true ∧
    ∀ {τ V : Type} (s' : Session τ V) (files' : FileTree) (file' : Text) (paths' : ModulePaths)
        (v : V),
      (∀ r' : Remedy τ, r'.apply s' files' file' text paths' v = (.ok (.passed text), v)) ∧
      ∀ given', (∀ config, Handler.inForce files' (Path.absolutize s'.root file') given' =
          .ok config → config.checkMarkup = true) →
        s'.transform files' file' text given' paths' v =
          ((Handler.create files' s'.root s'.table file' given').map fun _ => .passed text, v) := by
  obtain ⟨m, rfl⟩ := exists_eq_render built
  refine ⟨?_, fun s' files' file' paths' v => ⟨fun r' => ?_, fun given' asks => ?_⟩⟩
  · rw [prebuilt_accepts]
    exact m.isPrebuilt_render
  · rw [apply_of_prebuilt m.isPrebuilt_render]
    rfl
  · exact Session.transform_of_unmarked asks m.looksLikeMarkup_render v

/-- A page is built by one call of a stage. The module is then handed in for the same page, where
the stage would be called again. The world counts the calls. -/
theorem built_left_alone_counted :
    let s : Session Bool Nat :=
      { root := "/p".toList
        table := {}
        stages := ⟨fun _ => "mark".toList, fun _ ctx calls => (.ok ctx, calls + 1)⟩
        minifier := fun _ src calls => (.ok src, calls + 1)
        registry := fun _ => { live := true } }
    let files : FileTree :=
      ⟨[(["p".toList], .directory), (["p".toList, "a.html".toList], .file "<p>".toList)]⟩
    let config : FileConfig Bool :=
      { matcher := some ⟨[], [], .empty⟩, processors := [.direct true] }
    let r : Remedy Bool := ofConfig config
    ∃ text, s.transform files "a.html".toList "<p>".toList (some config) {} 0 =
        (.ok (.built text), 1) ∧
      prebuilt.accepts text = true ∧
      r.apply s files "a.html".toList text {} 1 = (.ok (.passed text), 1) ∧
      s.transform files "a.html".toList text (some config) {} 1 = (.ok (.passed text), 1) := by
  intro s files config r
  have built : ∃ text, s.transform files "a.html".toList "<p>".toList (some config) {} 0 =
      (.ok (.built text), 1) := ⟨_, rfl⟩
  obtain ⟨text, built⟩ := built
  obtain ⟨begins, left⟩ := built_left_alone (r := r) (Or.inl built)
  obtain ⟨applied, transformed⟩ := left s files "a.html".toList {} 1
  refine ⟨text, built, begins, applied r, ?_⟩
  have asks : ∀ inForce, Handler.inForce files (Path.absolutize s.root "a.html".toList)
      (some config) = .ok inForce → inForce.checkMarkup = true := by
    rintro _ ⟨⟩
    rfl
  exact transformed (some config) asks

end Remedy
end LiveMarkup
