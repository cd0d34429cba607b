import LiveMarkup.ModuleText
import LiveMarkup.Proofs.Path.Directory

/-!
The paths by which modules require other files. Such a path says that it is relative, and from the
directory of the module's file it leads to the target, wherever the two lie. Targets that are no
texts are in `LiveMarkup.Proofs.RawPath.Requiring`.
-/

namespace LiveMarkup.ModuleText

open LiveMarkup.Path

theorem steps_dot_slash (p : Text) : steps ('.' :: '/' :: p) = steps p :=
  steps_append_slash ['.'] p

/-- A path is marked as it is written, or with `./` in front of it. -/
theorem marked_cases (path : Text) :
    ("./".toList <+: marked path ∨ "../".toList <+: marked path) ∧
      (marked path = path ∨ marked path = '.' :: '/' :: path) := by
  have prefixed {front t : Text} (begins : (Text.after? front t).isSome = true) : front <+: t := by
    obtain ⟨rest, h⟩ := Option.isSome_iff_exists.mp begins
    exact ⟨rest, (Text.eq_append_of_after? h).symm⟩
  by_cases begins :
      (Text.after? ['.', '.', '/'] path).isSome || (Text.after? ['.', '/'] path).isSome
  · have same : marked path = path := if_pos begins
    rw [same]
    rcases Bool.or_eq_true_iff.mp begins with up | here
    · exact ⟨Or.inr (prefixed up), Or.inl rfl⟩
    · exact ⟨Or.inl (prefixed here), Or.inl rfl⟩
  · have longer : marked path = '.' :: '/' :: path := if_neg begins
    rw [longer]
    exact ⟨Or.inl ⟨path, rfl⟩, Or.inr rfl⟩

/-- Marking a relative path keeps its steps. -/
theorem steps_marked (path : Text) : steps (marked path) = steps path := by
  rcases (marked_cases path).2 with same | longer
  · rw [same]
  · rw [longer, steps_dot_slash]

theorem isAbsolute_marked {path : Text} (relative : isAbsolute path = false) :
    isAbsolute (marked path) = false := by
  rcases (marked_cases path).2 with same | longer
  · rwa [same]
  · rw [longer]
    rfl

/-- From the directory of its file a required path leads to the target. -/
theorem clean_join_requirePath {root : Text} (absolute : isAbsolute root = true)
    (filename target : Text) :
    clean (join ((parent? (absolutize root filename)).getD root)
      (requirePath root filename target)) = absolutize root target := by
  have inside := isAbsolute_directory absolute filename
  obtain ⟨here, reduced, hhere, from_eq⟩ := clean_eq_assemble inside
  obtain ⟨there, -, hthere, to_eq⟩ := clean_eq_assemble (isAbsolute_absolutize absolute target)
  obtain ⟨relative, along⟩ := slashed_relative hhere hthere from_eq to_eq
  rw [← clean_absolutize absolute target, to_eq]
  exact clean_join_ways inside reduced hhere hthere (isAbsolute_marked relative)
    ((steps_marked _).trans along)

end LiveMarkup.ModuleText
