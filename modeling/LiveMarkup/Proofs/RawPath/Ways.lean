import LiveMarkup.Proofs.RawPath.Spelling

/-!
Where raw paths lead once they are shown as text. Names that are no text are lost, and no other, so
a way that is shown leads to its end if and only if all its names are text.

* `readable_iff`: names that are kept;
* `Apart`, `exists_apart`: two places and the way between them;
* `leads_iff`: ways that lead to their ends;
* `identity_eq_iff_absolutize_eq`: what this means for identities.
-/

namespace LiveMarkup.RawPath

open Component (IsPiece)
open LiveMarkup.Path (IsName Within ways)

variable {a b root : RawPath}

/-- A spelled name as it is read again once it has been shown as text. -/
def reread (t : Text) : Text :=
  spelled (Text.ofBytesLossy (ofSpelling t).bytes)

theorem spelled_shown (c : Component) : spelled (shown c) = (c.map reread).text := by
  cases c with
  | name t => rfl
  | _ => decide

/-- What is read again as some text without a mark was this text. -/
theorem eq_of_reread {t s : Text} (bytes : Within IsByte t) (unmarked : Text.flawMark ∉ s)
    (same : reread t = spelled s) : t = spelled s := by
  have shows := respells_spelled.injective _ _ same
  have found : ofSpelling t = ofText s :=
    congrArg RawPath.mk (Text.eq_utf8_of_ofBytesLossy shows unmarked)
  rw [← spelling_ofSpelling bytes, found, spelled]

theorem slash_mem_of_reread {t : Text} (bytes : Within IsByte t) (member : '/' ∈ reread t) :
    '/' ∈ t := by
  have among := Text.mem_of_mem_ofBytesLossy (respells_spelled.slash_mem _ member)
    (b := 47) (by decide) (by decide)
  obtain ⟨c, letter, value⟩ := List.mem_map.mp among
  have slash : c = '/' := by
    have same : Char.ofUInt8 c.toUInt8 ∈ (ofSpelling t).spelling :=
      List.mem_map_of_mem (List.mem_map_of_mem letter)
    apply Char.toNat_inj.mp
    have low : c.toNat % 256 = 47 := congrArg UInt8.toNat value
    rwa [Nat.mod_eq_of_lt (bytes c letter)] at low
  exact slash ▸ letter

/-- What a name is shown as is a name. -/
theorem isPiece_reread {c : Component} (bytes : Within IsByte c.text) (piece : IsPiece c) :
    IsPiece (c.map reread) := by
  cases c with
  | root => exact absurd piece Component.not_isPiece_root
  | current => exact absurd piece Component.not_isPiece_current
  | parent => exact piece
  | name t =>
    have full : reread t ≠ [] := by
      intro empty
      have none := eq_of_reread (s := []) bytes (by decide) (empty.trans respells_spelled.nil.symm)
      exact piece.ne_nil (none.trans respells_spelled.nil)
    have here : reread t ≠ ['.'] := by
      intro dot
      have same := eq_of_reread (s := ['.']) bytes (by decide) (dot.trans respells_spelled.dot.symm)
      exact piece.ne_dot (same.trans respells_spelled.dot)
    have up : reread t ≠ ['.', '.'] := by
      intro dots
      have same := eq_of_reread (s := ['.', '.']) bytes (by decide)
        (dots.trans respells_spelled.dots.symm)
      have plain : t = ['.', '.'] := same.trans respells_spelled.dots
      rw [plain] at piece
      cases piece.1
    exact ⟨Component.ofSegment?_of_ne full here up, fun member =>
      piece.2 (slash_mem_of_reread bytes member)⟩

theorem map_reread_eq_iff {c : Component} (bytes : Within IsByte c.text) :
    c.map reread = c ↔ ∃ t, ofSpelling c.text = ofText t := by
  constructor
  · intro kept
    refine ⟨shown c, ?_⟩
    rw [← ofSpelling_spelled, spelled_shown, kept]
  · rintro ⟨t, same⟩
    have shows : shown c = t := by
      rw [shown, same]
      exact Text.ofBytesLossy_utf8 t
    have kept : (c.map reread).text = c.text := by
      rw [← spelled_shown, shows, spelled, ← same, spelling_ofSpelling bytes]
    cases c with
    | name s => exact congrArg Component.name kept
    | _ => rfl

/-- A path is readable if showing it as text keeps all its components. -/
theorem readable_iff (p : RawPath) :
    p.Readable ↔ ∀ c ∈ p.components, c.map reread = c := by
  constructor
  · intro readable c member
    exact (map_reread_eq_iff (within_components p c member)).mpr (readable c member)
  · intro kept c member
    exact (map_reread_eq_iff (within_components p c member)).mp (kept c member)

instance (p : RawPath) : Decidable p.Readable :=
  decidable_of_iff _ (readable_iff p).symm

/-! ### Ways that are shown -/

theorem map_eq_self_iff {α : Type} {f : α → α} {as : List α} :
    as.map f = as ↔ ∀ a ∈ as, f a = a := by
  have same := List.map_inj_left (l := as) (f := f) (g := id)
  rwa [List.map_id] at same

/-- Two places below the root: the names that they have in common, the names by which each goes on,
and the way from the one to the other, on which a single `.` stands for no steps. -/
structure Apart (a b : RawPath) (common up down : List Component) : Prop where
  here : Path.reduce a.components = .root :: (common ++ up)
  there : (clean b).spelling = Path.assemble (.root :: (common ++ down))
  common_names : ∀ c ∈ common, IsName c
  up_names : ∀ c ∈ up, IsName c
  down_names : ∀ c ∈ down, IsName c
  way : (up = [] ∧ down = []) ∧ (relative a b).components = [.current] ∨
    (relative a b).components = up.map (fun _ => .parent) ++ down

theorem exists_apart (ha : a.isAbsolute = true) (hb : b.isAbsolute = true) :
    ∃ common up down, Apart a b common up down := by
  obtain ⟨here, reduced, hhere, from_eq⟩ := Path.clean_eq_assemble ha
  obtain ⟨there, -, hthere, to_eq⟩ := Path.clean_eq_assemble hb
  obtain ⟨common, here_eq, there_eq⟩ := Path.dropCommon_append here there
  have way := Path.components_relative hhere hthere from_eq to_eq
  rw [← spelling_relative] at way
  unfold ways at way
  generalize Path.dropCommon here there = split at here_eq there_eq way
  obtain ⟨up, down⟩ := split
  subst here_eq there_eq
  refine ⟨common, up, down, reduced, (spelling_clean b).trans to_eq,
    fun c hc => hhere c (List.mem_append_left up hc),
    fun c hc => hhere c (List.mem_append_right common hc),
    fun c hc => hthere c (List.mem_append_right common hc), ?_⟩
  refine way.imp_left fun single => ⟨?_, single.2⟩
  obtain ⟨level, here⟩ := List.append_eq_nil_iff.mp single.1
  exact ⟨List.map_eq_nil_iff.mp level, here⟩

namespace Apart

variable {common up down : List Component}

theorem within (apart : Apart a b common up down) : ∀ c ∈ down, Within IsByte c.text := by
  intro c member
  rcases apart.way with ⟨⟨-, rfl⟩, -⟩ | way
  · cases member
  · exact within_components (relative a b) c (way ▸ List.mem_append_right _ member)

/-- The names on the way down are shown as names. -/
theorem shown_names (apart : Apart a b common up down) :
    ∀ c ∈ down.map (Component.map reread), IsName c := by
  intro c member
  obtain ⟨d, below, rfl⟩ := List.mem_map.mp member
  obtain ⟨piece, other⟩ := apart.down_names d below
  exact ⟨isPiece_reread (apart.within d below) piece, fun parent =>
    other ((Path.Respells.isName_map_iff reread d).mp parent)⟩

/-- A way that is shown is written with the steps of the way, as far as they are text. -/
theorem spelled_slashed (apart : Apart a b common up down) :
    let p := spelled (slashed (relative a b))
    Path.isAbsolute p = false ∧
      Path.steps p = up.map (fun _ => .parent) ++ down.map (Component.map reread) := by
  intro p
  have shows : (fun c => spelled (shown c)) = fun c => (c.map reread).text := funext spelled_shown
  have written : p = List.intercalate ['/']
      (((relative a b).components.map (Component.map reread)).map Component.text) := by
    simp only [p, slashed, respells_spelled.intercalate, List.map_map, Function.comp_def, shows]
  rcases apart.way with ⟨⟨rfl, rfl⟩, single⟩ | way
  · rw [single] at written
    rw [written]
    exact ⟨rfl, rfl⟩
  · have steps : (relative a b).components.map (Component.map reread) =
        up.map (fun _ => .parent) ++ down.map (Component.map reread) := by
      rw [way, List.map_append, List.map_map]
      rfl
    have pieces : ∀ c ∈ up.map (fun _ => .parent) ++ down.map (Component.map reread),
        IsPiece c := by
      intro c member
      rcases List.mem_append.mp member with upward | downward
      · obtain ⟨d, -, rfl⟩ := List.mem_map.mp upward
        exact Component.isPiece_parent
      · exact (apart.shown_names c downward).1
    rw [steps] at written
    rw [written]
    exact ⟨Path.isAbsolute_slashes pieces, Path.steps_slashes pieces⟩

/-- Only names are lost, and only on the way down there are any. -/
theorem readable_iff (apart : Apart a b common up down) :
    (relative a b).Readable ↔ down.map (Component.map reread) = down := by
  rw [RawPath.readable_iff, map_eq_self_iff]
  rcases apart.way with ⟨⟨-, rfl⟩, single⟩ | way
  · rw [single]
    simp [Component.map]
  · rw [way]
    simp [Component.map, or_imp, forall_and]

/-- A text with the steps of the way that is shown leads to what is left of its end. -/
theorem spelling_clean_join (apart : Apart a b common up down) (absolute : a.isAbsolute = true)
    {p : Text} (relative_p : Path.isAbsolute p = false)
    (along : Path.steps (spelled p) = Path.steps (spelled (slashed (relative a b)))) :
    (clean (join a (ofText p))).spelling =
      Path.assemble (.root :: (common ++ down.map (Component.map reread))) := by
  rw [spelling_clean, spelling_join]
  exact Path.clean_join_back absolute apart.here apart.common_names apart.up_names
    apart.shown_names ((respells_spelled.isAbsolute p).trans relative_p)
    (along.trans apart.spelled_slashed.2)

end Apart

theorem isAbsolute_slashed_relative (ha : a.isAbsolute = true) (hb : b.isAbsolute = true) :
    Path.isAbsolute (slashed (relative a b)) = false := by
  obtain ⟨common, up, down, apart⟩ := exists_apart ha hb
  rw [← respells_spelled.isAbsolute]
  exact apart.spelled_slashed.1

/-- A text with the steps of a way that is shown leads to its end if and only if the way is
readable. -/
theorem leads_iff (ha : a.isAbsolute = true) (hb : b.isAbsolute = true) {p : Text}
    (relative_p : Path.isAbsolute p = false)
    (along : Path.steps (spelled p) = Path.steps (spelled (slashed (relative a b)))) :
    clean (join a (ofText p)) = clean b ↔ (relative a b).Readable := by
  obtain ⟨common, up, down, apart⟩ := exists_apart ha hb
  have ends := apart.spelling_clean_join ha relative_p along
  have names {cs : List Component} (h : ∀ c ∈ cs, IsName c) : ∀ c ∈ common ++ cs, IsName c :=
    fun c hc => (List.mem_append.mp hc).elim (apart.common_names c) (h c)
  rw [apart.readable_iff]
  constructor
  · intro leads
    have same := congrArg Path.components
      (ends.symm.trans ((congrArg spelling leads).trans apart.there))
    rw [Path.components_assemble_names (names apart.shown_names),
      Path.components_assemble_names (names apart.down_names)] at same
    exact List.append_cancel_left (List.cons.inj same).2
  · intro kept
    rw [kept] at ends
    exact spelling_injective (ends.trans apart.there.symm)

/-! ### Identities -/

theorem absolutize_eq (root p : RawPath) : absolutize root p = clean (join root p) := by
  apply spelling_injective
  rw [spelling_absolutize, spelling_clean, spelling_join, Path.absolutize_eq]

theorem isAbsolute_absolutize (absolute : root.isAbsolute = true) (p : RawPath) :
    (absolutize root p).isAbsolute = true := by
  rw [isAbsolute, spelling_absolutize]
  exact Path.isAbsolute_absolutize absolute p.spelling

theorem clean_absolutize (absolute : root.isAbsolute = true) (p : RawPath) :
    clean (absolutize root p) = absolutize root p := by
  apply spelling_injective
  rw [spelling_clean, spelling_absolutize]
  exact Path.clean_absolutize absolute p.spelling

/-- An identity leads back to the place of its path if and only if the way there is readable. -/
theorem absolutize_identity_iff (absolute : root.isAbsolute = true) (p : RawPath) :
    absolutize root (ofText (identity root p)) = absolutize root p ↔
      (relative root (absolutize root p)).Readable := by
  have inside := isAbsolute_absolutize absolute p
  have leads := leads_iff absolute inside (isAbsolute_slashed_relative absolute inside) rfl
  rwa [clean_absolutize absolute, ← absolutize_eq] at leads

end LiveMarkup.RawPath
