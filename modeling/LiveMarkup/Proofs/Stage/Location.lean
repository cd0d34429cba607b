import LiveMarkup.Proofs.Path.Directory
import LiveMarkup.Stage

/-!
Names that say where their stage lies. Such a name stands for a place, whichever directory it is
read in and however it is spelled, and from every directory there is a name for every place.

* `StageTable.resolve_of_placed`: what a name stands for that is no key;
* `StageTable.reference`, `StageTable.absolutize_reference`: the name of a place in a directory;
* `StageTable.resolve_by_place`: the rules together.
-/

namespace LiveMarkup

namespace Path

/-- A path leads where it leads with `./` in front. -/
theorem clean_join_dot_slash {directory p : Text} (absolute : isAbsolute directory = true)
    (relative : isAbsolute p = false) :
    clean (join directory ('.' :: '/' :: p)) = clean (join directory p) := by
  have marked : isAbsolute ('.' :: '/' :: p) = false := rfl
  have behind : steps ('.' :: '/' :: p) = steps p := steps_append_slash ['.'] p
  have same : components (join directory ('.' :: '/' :: p)) = components (join directory p) := by
    rw [components_of_isAbsolute (isAbsolute_join absolute _),
      components_of_isAbsolute (isAbsolute_join absolute _), steps_join directory marked,
      steps_join directory relative, behind]
  rw [clean, same, clean]

theorem identity_congr {root p q : Text} (same : absolutize root p = absolutize root q) :
    identity root p = identity root q := by
  rw [identity, identity, same]

end Path

namespace StageTable

open LiveMarkup.Path (isAbsolute clean join relative absolutize identity)

variable {σ : Type} {t : StageTable σ} {root basedir name : Text}

/-- A name that is no key and says where its stage lies stands for what is registered there. -/
theorem resolve_of_placed (unkeyed : t.find? name = none) (placed : isPathLike name = true) :
    t.resolve root basedir name =
      match t.find? (identity root (join basedir name)) with
      | some s => .ok s
      | none => .error (.stageNotFound name basedir) := by
  cases found : t.find? (identity root (join basedir name)) with
  | some s => simp [resolve, unkeyed, placed, found]
  | none => simp [resolve, unkeyed, placed, found]

theorem resolve_of_unplaced (unkeyed : t.find? name = none) (unplaced : isPathLike name = false) :
    t.resolve root basedir name = .error (.stageNotFound name basedir) := by
  simp [resolve, unkeyed, unplaced]

theorem resolve_of_keyed {s : σ} (keyed : t.find? name = some s) :
    t.resolve root basedir name = .ok s := by
  simp [resolve, keyed]

/-- How a place is named in a directory: by the way there, marked as one. -/
def reference (basedir place : Text) : Text :=
  let way := relative basedir place
  if "../".toList <+: way then way else "./".toList ++ way

theorem isPathLike_of_prefix {front : Text} (marked : front = "./".toList ∨ front = "../".toList)
    (begins : front <+: name) : isPathLike name = true := by
  obtain ⟨rest, rfl⟩ := begins
  rcases marked with rfl | rfl <;> simp [isPathLike, Text.after?]

theorem isPathLike_reference (basedir place : Text) :
    isPathLike (reference basedir place) = true := by
  unfold reference
  dsimp only
  split
  · rename_i up
    exact isPathLike_of_prefix (Or.inr rfl) up
  · exact isPathLike_of_prefix (Or.inl rfl) (List.prefix_append _ _)

/-- The name of a place leads there. -/
theorem absolutize_reference (absolute : isAbsolute root = true)
    (inside : isAbsolute basedir = true) (p : Text) :
    absolutize root (join basedir (reference basedir (join root p))) = absolutize root p := by
  obtain ⟨forward, -, leads⟩ := Path.relative_leads inside (Path.isAbsolute_join absolute p)
  have way : clean (join basedir (reference basedir (join root p))) = clean (join root p) := by
    unfold reference
    dsimp only
    split
    · exact leads
    · exact (Path.clean_join_dot_slash inside forward).trans leads
  rw [Path.absolutize_eq, Path.absolutize_eq,
    Path.join_of_isAbsolute (Path.isAbsolute_join inside _), way]

/-- Names that say where their stage lies go by that place. Two of them that are no keys and lead to
the same place stand for the same stage, or for none. From every directory, the way to a stage whose
key is an identity, marked as a way, stands for this stage, unless it is a key itself: then it
stands for the stage of that key. A name that is no key and does not say where its stage lies stands
for none. -/
theorem resolve_by_place (t : StageTable σ) {root : Text} (absolute : isAbsolute root = true) :
    (∀ b₁ b₂ n₁ n₂, t.find? n₁ = none → t.find? n₂ = none → isPathLike n₁ = true →
      isPathLike n₂ = true → absolutize root (join b₁ n₁) = absolutize root (join b₂ n₂) →
      (∃ s, t.resolve root b₁ n₁ = .ok s ∧ t.resolve root b₂ n₂ = .ok s) ∨
        t.resolve root b₁ n₁ = .error (.stageNotFound n₁ b₁) ∧
          t.resolve root b₂ n₂ = .error (.stageNotFound n₂ b₂)) ∧
    (∀ key s basedir, t.find? key = some s → identity root key = key →
      isAbsolute basedir = true →
      let name := reference basedir (join root key)
      t.resolve root basedir name = .ok ((t.find? name).getD s)) ∧
    ∀ name basedir, t.find? name = none → isPathLike name = false →
      t.resolve root basedir name = .error (.stageNotFound name basedir) := by
  refine ⟨?_, ?_, fun name basedir => resolve_of_unplaced⟩
  · intro b₁ b₂ n₁ n₂ unkeyed₁ unkeyed₂ placed₁ placed₂ same
    rw [resolve_of_placed unkeyed₁ placed₁, resolve_of_placed unkeyed₂ placed₂,
      Path.identity_congr same]
    cases t.find? (identity root (join b₂ n₂)) with
    | some s => exact Or.inl ⟨s, rfl, rfl⟩
    | none => exact Or.inr ⟨rfl, rfl⟩
  · intro key s basedir registered normal inside name
    cases keyed : t.find? name with
    | some other => exact resolve_of_keyed keyed
    | none =>
      have place : identity root (join basedir name) = key :=
        (Path.identity_congr (absolutize_reference absolute inside key)).trans normal
      rw [resolve_of_placed keyed (isPathLike_reference basedir _), place, registered]
      rfl

/-- A stage outside of the root, from two directories: it is named by a way up from one of them and
by an absolute path in the other, and a name without a place stands for nothing. -/
theorem resolve_by_place_outside :
    let t : StageTable Bool := ⟨[("../shared/trim".toList, true), ("trim".toList, false)]⟩
    let root := "/work/project".toList
    isAbsolute root = true ∧
      t.resolve root "/work/project/web".toList "../../shared/trim".toList = .ok true ∧
      t.resolve root "/elsewhere".toList "/work/./shared//x/../trim".toList = .ok true ∧
      reference "/work/project/web".toList (join root "../shared/trim".toList) =
        "../../shared/trim".toList ∧
      t.resolve root "/work/project/web".toList "shared/trim".toList =
        .error (.stageNotFound "shared/trim".toList "/work/project/web".toList) := by
  intro t root
  have absolute : isAbsolute root = true := by decide
  obtain ⟨alike, leads, unplaced⟩ := resolve_by_place t absolute
  have named : reference "/work/project/web".toList (join root "../shared/trim".toList) =
      "../../shared/trim".toList := by decide
  have first : t.resolve root "/work/project/web".toList "../../shared/trim".toList = .ok true := by
    have stands := leads "../shared/trim".toList true "/work/project/web".toList rfl (by decide)
      (by decide)
    rw [named] at stands
    exact stands
  refine ⟨absolute, first, ?_, named, unplaced _ _ (by decide) (by decide)⟩
  obtain ⟨s, found, same⟩ | ⟨lost, -⟩ := alike "/work/project/web".toList "/elsewhere".toList
    "../../shared/trim".toList "/work/./shared//x/../trim".toList (by decide) (by decide)
    (by decide) (by decide) (by decide)
  · rw [first] at found
    rw [same, ← found]
  · rw [first] at lost
    cases lost

end StageTable
end LiveMarkup
