import LiveMarkup.Proofs.Path.Letters
import LiveMarkup.Proofs.Path.Respelling
import LiveMarkup.Proofs.RawPath.Showing
import LiveMarkup.RawPath

/-!
Raw paths and their spellings.

* `spelling_join`, `spelling_clean`, `spelling_absolutize`, `spelling_relative`: a spelling goes by
  the rules of paths;
* `respells_spelled`: so does the spelling of a text, which raw paths therefore extend:
  `absolutize_ofText`, `relative_ofText`, `parent?_ofText`, `slashed_ofText`, `identity_ofText`.
-/

namespace LiveMarkup.RawPath

open LiveMarkup.Path (Respells Within)

variable {p q root base directory target : RawPath}

/-- A character that stands for a byte. -/
def IsByte (c : Char) : Prop :=
  c.toNat < 256

theorem ofSpelling_spelling (p : RawPath) : ofSpelling p.spelling = p := by
  have same (b : UInt8) : (Char.ofUInt8 b).toUInt8 = b := UInt8.toUInt8_toUInt32 b
  simp only [ofSpelling, spelling, List.map_map, Function.comp_def, same, List.map_id']

theorem spelling_injective (same : p.spelling = q.spelling) : p = q := by
  rw [← ofSpelling_spelling p, same, ofSpelling_spelling]

theorem spelling_ofSpelling {t : Text} (bytes : Within IsByte t) :
    (ofSpelling t).spelling = t := by
  have same : ∀ c ∈ t, Char.ofUInt8 c.toUInt8 = c := by
    intro c member
    apply Char.ext
    apply UInt32.toNat_inj.mp
    change c.val.toNat % 256 = c.val.toNat
    exact Nat.mod_eq_of_lt (bytes c member)
  simp only [ofSpelling, spelling, List.map_map, Function.comp_def]
  exact (List.map_congr_left same).trans (List.map_id' t)

theorem within_spelling (p : RawPath) : Within IsByte p.spelling := by
  intro c member
  obtain ⟨b, -, rfl⟩ := List.mem_map.mp member
  exact b.toNat_lt

theorem isByte_slash : IsByte '/' := by
  unfold IsByte
  decide

theorem isByte_dot : IsByte '.' := by
  unfold IsByte
  decide

theorem spelling_join (base p : RawPath) :
    (join base p).spelling = Path.join base.spelling p.spelling :=
  spelling_ofSpelling ((within_spelling base).join isByte_slash (within_spelling p))

theorem spelling_clean (p : RawPath) : p.clean.spelling = Path.clean p.spelling :=
  spelling_ofSpelling ((within_spelling p).clean isByte_slash isByte_dot)

theorem spelling_absolutize (root p : RawPath) :
    (absolutize root p).spelling = Path.absolutize root.spelling p.spelling :=
  spelling_ofSpelling
    ((within_spelling root).absolutize isByte_slash isByte_dot (within_spelling p))

theorem spelling_relative (directory target : RawPath) :
    (relative directory target).spelling = Path.relative directory.spelling target.spelling :=
  spelling_ofSpelling
    ((within_spelling target).relative isByte_slash isByte_dot directory.spelling)

theorem map_spelling_parent? (p : RawPath) : p.parent?.map spelling = Path.parent? p.spelling := by
  unfold parent?
  cases above : Path.parent? p.spelling with
  | none => rfl
  | some d => exact congrArg some (spelling_ofSpelling ((within_spelling p).parent? above))

theorem within_components (p : RawPath) : ∀ c ∈ p.components, Within IsByte c.text :=
  (within_spelling p).components isByte_slash isByte_dot

/-! ### Texts -/

/-- A text with one character for each of its bytes. -/
def spelled (t : Text) : Text :=
  (ofText t).spelling

theorem ofSpelling_spelled (t : Text) : ofSpelling (spelled t) = ofText t :=
  ofSpelling_spelling (ofText t)

theorem respells_spelled : Respells spelled where
  append s t := by
    simp only [spelled, ofText, spelling, Text.utf8_append, List.map_append]
  slash := by decide
  dot := by decide
  injective s t same := by
    have bytes : ofText s = ofText t := spelling_injective same
    exact Text.utf8_injective (congrArg RawPath.bytes bytes)
  slash_mem t member := by
    obtain ⟨b, bytes, slash⟩ := List.mem_map.mp member
    obtain ⟨c, letter, encodes⟩ := List.mem_flatMap.mp bytes
    have value : b.toNat = 47 := congrArg Char.toNat slash
    obtain ⟨-, same⟩ := Text.eq_of_mem_utf8EncodeChar encodes (by omega)
    have found : c = '/' := Char.toNat_inj.mp (same.trans value)
    exact found ▸ letter

theorem absolutize_ofText (r t : Text) :
    absolutize (ofText r) (ofText t) = ofText (Path.absolutize r t) :=
  (congrArg ofSpelling (Respells.absolutize respells_spelled r t)).trans (ofSpelling_spelled _)

theorem relative_ofText (d t : Text) :
    relative (ofText d) (ofText t) = ofText (Path.relative d t) :=
  (congrArg ofSpelling (Respells.relative respells_spelled d t)).trans (ofSpelling_spelled _)

theorem isAbsolute_ofText (t : Text) : (ofText t).isAbsolute = Path.isAbsolute t :=
  Respells.isAbsolute respells_spelled t

theorem components_ofText (t : Text) :
    (ofText t).components = (Path.components t).map (Component.map spelled) :=
  Respells.components respells_spelled t

theorem parent?_ofText {r : Text} (absolute : Path.isAbsolute r = true) (t : Text) :
    (ofText (Path.absolutize r t)).parent? = (Path.parent? (Path.absolutize r t)).map ofText := by
  have spelt := Respells.parent? respells_spelled absolute t
  have same : ofSpelling ∘ spelled = ofText := funext ofSpelling_spelled
  unfold parent?
  change (Path.parent? (spelled (Path.absolutize r t))).map ofSpelling = _
  rw [spelt, Option.map_map, same]

/-- A component that is text is shown as it is. -/
theorem shown_spelled (c : Component) : shown (c.map spelled) = c.text := by
  rw [shown, Respells.text respells_spelled, ofSpelling_spelled]
  exact Text.ofBytesLossy_utf8 c.text

theorem slashed_ofText (t : Text) : slashed (ofText t) = Path.slashed t := by
  rw [slashed, components_ofText, List.map_map, Path.slashed]
  congr 1
  exact List.map_congr_left fun c _ => shown_spelled c

theorem identity_ofText (r t : Text) :
    identity (ofText r) (ofText t) = Path.identity r t := by
  rw [identity, absolutize_ofText, relative_ofText, slashed_ofText, Path.identity]

theorem readable_ofText (t : Text) : (ofText t).Readable := by
  intro c member
  rw [components_ofText] at member
  obtain ⟨d, -, rfl⟩ := List.mem_map.mp member
  exact ⟨d.text, by rw [Respells.text respells_spelled, ofSpelling_spelled]⟩

end LiveMarkup.RawPath
