import LiveMarkup.Proofs.ModuleText.Requiring
import LiveMarkup.Proofs.RawPath.Ways

/-!
The paths by which modules require files with any names. Such a path is a text, so it leads to its
target if and only if the way there is readable.
-/

namespace LiveMarkup.RawPath

open ModuleText (marked)

variable {root a b : RawPath}

theorem isAbsolute_directory (absolute : root.isAbsolute = true) (p : RawPath) :
    ((absolutize root p).parent?.getD root).isAbsolute = true := by
  have inside := Path.isAbsolute_directory absolute p.spelling
  rw [← spelling_absolutize, ← map_spelling_parent?] at inside
  cases above : (absolutize root p).parent? with
  | none => exact absolute
  | some directory =>
    rw [above] at inside
    exact inside

theorem relative_leads (ha : a.isAbsolute = true) (hb : b.isAbsolute = true) :
    (relative a b).isAbsolute = false ∧
      (∃ n down, (relative a b).components = List.replicate n .parent ++ down ∧
        Component.parent ∉ down) ∧
      clean (join a (relative a b)) = clean b := by
  obtain ⟨relative, upward, leads⟩ := Path.relative_leads ha hb
  refine ⟨?_, ?_, ?_⟩
  · rwa [isAbsolute, spelling_relative]
  · rwa [components, spelling_relative]
  · apply spelling_injective
    rwa [spelling_clean, spelling_join, spelling_relative, spelling_clean]

theorem steps_spelled_marked (path : Text) :
    Path.steps (spelled (marked path)) = Path.steps (spelled path) := by
  rw [respells_spelled.steps, respells_spelled.steps, ModuleText.steps_marked]

end LiveMarkup.RawPath
