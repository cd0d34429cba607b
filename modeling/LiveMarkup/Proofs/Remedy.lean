import LiveMarkup.Proofs.Path.Identity
import LiveMarkup.Proofs.Transform
import LiveMarkup.Remedy

/-!
Remedies and the spelling of paths. A remedy asks its pattern twice: first about the path as it is
given, and then, with the handler, about the identity of the file. Only the first answer depends on
the spelling.

* `Remedy.apply_of_unmatched`, `Remedy.apply_of_matched`: what each answer leads to;
* `Remedy.apply_of_spellings`: two spellings of a file, which differ in nothing else;
* `Remedy.spelling_decides`: spellings that match differently.
-/

namespace LiveMarkup.Remedy

variable {σ W : Type} {r : Remedy σ} {s : Session σ W} {files : FileTree} {paths : ModulePaths}
variable {p q : Text}

/-- Code is left alone, and nothing is asked, where the path as it is given does not match. -/
theorem apply_of_unmatched (unmatched : r.matcher.accepts p = false) (code : Text) :
    r.apply s files p code paths = pure (.passed code) := by
  simp [apply, unmatched]

/-- A path that matches is as good as any other of the file. -/
theorem apply_of_matched (matched : r.matcher.accepts p = true)
    (same : Path.absolutize s.root p = Path.absolutize s.root q) (code : Text) :
    r.apply s files p code paths =
      if isPrebuilt code then pure (.passed code)
      else s.transform files q code (some (r.configIn s.root)) paths := by
  rw [← Session.transform_congr same]
  simp [apply, matched]

/-- A module is made only where the identity of the file matches as well. -/
theorem matched_of_built {code text : Text} {w w' : W}
    (built : r.apply s files p code paths w = (.ok (.built text), w')) :
    r.matcher.accepts p = true ∧
      r.matcher.accepts (Path.identity s.root (Path.absolutize s.root p)) = true := by
  cases matched : r.matcher.accepts p with
  | false =>
    rw [apply_of_unmatched matched] at built
    cases built
  | true =>
    rw [apply_of_matched matched rfl] at built
    split at built
    · cases built
    · obtain ⟨h, out, made, -, -⟩ := Session.transform_built built
      obtain ⟨-, config, settled, selected⟩ := Handler.create_eq_some.mp ⟨h, made⟩
      obtain rfl : r.configIn s.root = config := Except.ok.inj settled
      exact ⟨rfl, (Handler.ofConfig_eq_some.mp selected).1⟩

/-- Two spellings of a file have the same outcome, and leave the same world, where the pattern
matches both of them as they are given, or neither. Where it matches one of them alone, the code
that comes with the other is left alone without a question, while the one that matches has what
comes of the file under the configuration of the remedy, unless the code is a module already. In no
case is a module made unless the identity of the file matches too. -/
theorem apply_of_spellings (absolute : Path.isAbsolute s.root = true)
    (same : Path.absolutize s.root p = Path.absolutize s.root q) (code : Text) :
    (r.matcher.accepts p = r.matcher.accepts q →
      r.apply s files p code paths = r.apply s files q code paths) ∧
    (r.matcher.accepts p = true → r.matcher.accepts q = false →
      r.apply s files q code paths = pure (.passed code) ∧
        r.apply s files p code paths =
          if isPrebuilt code then pure (.passed code)
          else s.transform files q code (some (r.configIn s.root)) paths) ∧
    ∀ text w w', r.apply s files p code paths w = (.ok (.built text), w') →
      r.matcher.accepts p = true ∧ r.matcher.accepts (Path.identity s.root q) = true := by
  refine ⟨?_, fun matched unmatched => ⟨apply_of_unmatched unmatched code,
    apply_of_matched matched same code⟩, ?_⟩
  · intro alike
    cases matched : r.matcher.accepts q with
    | false => rw [apply_of_unmatched (alike.trans matched), apply_of_unmatched matched]
    | true => rw [apply_of_matched (alike.trans matched) same, apply_of_matched matched rfl]
  · intro text w w' built
    obtain ⟨matched, selected⟩ := matched_of_built built
    rw [same, Path.identity_absolutize absolute] at selected
    exact ⟨matched, selected⟩

/-- A project with one file, and no stages. -/
def plain : Session Empty Unit where
  root := "/p".toList
  table := {}
  stages := ⟨fun e => e.elim, fun e => e.elim⟩
  minifier := fun _ src w => (.ok src, w)
  registry := fun _ => {}

def oneFile : FileTree :=
  ⟨[(["p".toList], .directory), (["p".toList, "a.html".toList], .file "<p>".toList)]⟩

/-- Takes the one file at the root that has this name. -/
def anchored : Remedy Empty :=
  ofConfig { matcher := some (.known "^a\\.html$".toList []) }

/-- The file is taken by its plain name, and not by its absolute path, by which a module is made
only after the name of the file is asked for. -/
theorem anchored_by_spellings :
    Path.isAbsolute plain.root = true ∧
      Path.absolutize plain.root "a.html".toList = Path.absolutize plain.root "/p/a.html".toList ∧
      anchored.apply plain oneFile "/p/a.html".toList "<p>".toList {} =
        pure (.passed "<p>".toList) ∧
      anchored.apply plain oneFile "a.html".toList "<p>".toList {} =
        plain.transform oneFile "/p/a.html".toList "<p>".toList
          (some (anchored.configIn plain.root)) {} := by
  have absolute : Path.isAbsolute plain.root = true := by decide
  have same : Path.absolutize plain.root "a.html".toList =
      Path.absolutize plain.root "/p/a.html".toList := by decide
  refine ⟨absolute, same, ?_⟩
  exact (apply_of_spellings absolute same "<p>".toList).2.1 (by decide +kernel) (by decide +kernel)

/-- A pattern that is bound to the start of a name takes a file by its name, and leaves it alone
where its path is spelled with a `./` in front. -/
theorem spelling_decides :
    ¬ ∀ (r : Remedy Empty) (s : Session Empty Unit) (files : FileTree) (code : Text)
        (paths : ModulePaths) (p q : Text),
      Path.absolutize s.root p = Path.absolutize s.root q →
        r.apply s files p code paths = r.apply s files q code paths := by
  intro alike
  have same := alike anchored plain oneFile "<p>".toList {} "a.html".toList "./a.html".toList
    (by decide)
  have taken : (anchored.apply plain oneFile "a.html".toList "<p>".toList {} ()).1.toOption.map
      Output.isModule = some true := by decide +kernel
  have passed : (anchored.apply plain oneFile "./a.html".toList "<p>".toList {} ()).1.toOption.map
      Output.isModule = some false := by decide +kernel
  rw [same, passed] at taken
  cases taken

end LiveMarkup.Remedy
