import LiveMarkup.Minify
import Mathlib.Data.List.Induction
import Mathlib.Data.List.TakeWhile

/-!
What is left of the blanks of a source. A text is seen as the blanks in front of it and the
characters that are not blank, each with the blanks behind it. Closing gaps, squeezing and trimming
change nothing but these blanks, and what they leave behind a character depends only on what was
behind it and on its next neighbour.

* `Text.solids`, `Text.append_spell_solids`, `Text.solids_spell`: this view of a text;
* `closeGaps_cons`, `squeeze_cons`: what one pass does to one character and the blanks behind it;
* `squeeze_closeGaps`, `Text.trim_append`: the passes together;
* `Minify.basic_collapsed`: the whole minifier, where it collapses blanks.
-/

namespace LiveMarkup

namespace Text

/-- The characters that are not blank, each with the blanks right behind it. -/
def solids : Text → List (Char × Text)
  | [] => []
  | c :: t => if isBlank c then solids t else (c, t.takeWhile isBlank) :: solids t

/-- The text of some characters with what is behind each. -/
def spell (cs : List (Char × Text)) : Text :=
  cs.flatMap fun s => s.1 :: s.2

/-- Nothing but blanks. -/
def Blank (t : Text) : Prop :=
  ∀ c ∈ t, isBlank c = true

/-- A text that does not begin with a blank. -/
def Solid (t : Text) : Prop :=
  ∀ c, t.head? = some c → isBlank c = false

/-- Characters that are not blank, each with blanks behind it. -/
def Spelled (cs : List (Char × Text)) : Prop :=
  ∀ s ∈ cs, isBlank s.1 = false ∧ Blank s.2

variable {c : Char} {gap rest t : Text} {cs : List (Char × Text)}

theorem solids_of_blank (blank : isBlank c = true) (t : Text) : solids (c :: t) = solids t :=
  if_pos blank

theorem solids_of_ink (ink : isBlank c = false) (t : Text) :
    solids (c :: t) = (c, t.takeWhile isBlank) :: solids t :=
  if_neg (by simp [ink])

theorem blank_takeWhile (t : Text) : Blank (t.takeWhile isBlank) :=
  fun _ member => List.mem_takeWhile_imp member

theorem solid_cons (solid : isBlank c = false) (t : Text) : Solid (c :: t) := by
  intro d first
  rw [List.head?_cons, Option.some.injEq] at first
  rw [← first, solid]

theorem spell_cons (c : Char) (gap : Text) (cs : List (Char × Text)) :
    spell ((c, gap) :: cs) = c :: (gap ++ spell cs) := by
  simp [spell]

theorem spelled_cons :
    Spelled ((c, gap) :: cs) ↔ (isBlank c = false ∧ Blank gap) ∧ Spelled cs := by
  simp [Spelled]

theorem solid_spell (spelled : Spelled cs) : Solid (spell cs) := by
  cases cs with
  | nil => simp [spell, Solid]
  | cons s cs =>
    obtain ⟨c, gap⟩ := s
    rw [spell_cons]
    exact solid_cons (spelled_cons.mp spelled).1.1 _

theorem takeWhile_of_solid (solid : Solid t) : t.takeWhile isBlank = [] := by
  cases t with
  | nil => rfl
  | cons c t => rw [List.takeWhile_cons_of_neg (by simp [solid c rfl])]

theorem dropWhile_of_solid (solid : Solid t) : t.dropWhile isBlank = t := by
  cases t with
  | nil => rfl
  | cons c t => rw [List.dropWhile_cons_of_neg (by simp [solid c rfl])]

theorem takeWhile_gap (blank : Blank gap) (solid : Solid rest) :
    (gap ++ rest).takeWhile isBlank = gap := by
  rw [List.takeWhile_append_of_pos blank, takeWhile_of_solid solid, List.append_nil]

theorem dropWhile_gap (blank : Blank gap) (solid : Solid rest) :
    (gap ++ rest).dropWhile isBlank = rest := by
  rw [List.dropWhile_append_of_pos blank, dropWhile_of_solid solid]

theorem solids_gap (blank : Blank gap) (t : Text) : solids (gap ++ t) = solids t := by
  induction gap with
  | nil => rfl
  | cons c gap ih =>
    obtain ⟨first, others⟩ := List.forall_mem_cons.mp blank
    rw [List.cons_append, solids_of_blank first, ih others]

/-- A text is what its view says. -/
theorem append_spell_solids (t : Text) : t.takeWhile isBlank ++ spell (solids t) = t := by
  induction t with
  | nil => rfl
  | cons c t ih =>
    cases shade : isBlank c with
    | true => rw [solids_of_blank shade, List.takeWhile_cons_of_pos shade, List.cons_append, ih]
    | false =>
      rw [solids_of_ink shade, List.takeWhile_cons_of_neg (by simp [shade]), List.nil_append,
        spell_cons, ih]

theorem spelled_solids (t : Text) : Spelled (solids t) := by
  induction t with
  | nil => exact fun _ member => absurd member List.not_mem_nil
  | cons c t ih =>
    cases shade : isBlank c with
    | true => rwa [solids_of_blank shade]
    | false =>
      rw [solids_of_ink shade]
      exact spelled_cons.mpr ⟨⟨shade, blank_takeWhile t⟩, ih⟩

/-- Every view is the view of the text that it spells. -/
theorem solids_spell (spelled : Spelled cs) : solids (spell cs) = cs := by
  induction cs with
  | nil => rfl
  | cons s cs ih =>
    obtain ⟨c, gap⟩ := s
    obtain ⟨⟨solid, blank⟩, others⟩ := spelled_cons.mp spelled
    rw [spell_cons, solids_of_ink solid, takeWhile_gap blank (solid_spell others),
      solids_gap blank, ih others]

/-- The characters of the view are those that are not blank. -/
theorem solids_map_fst (t : Text) : (solids t).map Prod.fst = t.filter (! isBlank ·) := by
  induction t with
  | nil => rfl
  | cons c t ih =>
    cases shade : isBlank c with
    | true => simp [solids_of_blank shade, shade, ih]
    | false => simp [solids_of_ink shade, shade, ih]

/-- Trimming takes the blanks on both sides of a text with none at its ends. -/
theorem trim_append {front body back : Text} (before : Blank front) (behind : Blank back)
    (first : Solid body) (last : Solid body.reverse) : trim (front ++ (body ++ back)) = body := by
  have ahead : trimStart (front ++ (body ++ back)) = if body = [] then [] else body ++ back := by
    unfold trimStart
    rw [List.dropWhile_append_of_pos before]
    cases body with
    | nil => simpa [Blank] using behind
    | cons c body => simpa using dropWhile_of_solid (solid_cons (first c rfl) (body ++ back))
  rw [trim, ahead]
  split
  · rename_i empty
    rw [empty]
    rfl
  · have behind' : Blank back.reverse := fun c member => behind c (List.mem_reverse.mp member)
    rw [trimEnd, List.reverse_append, dropWhile_gap behind' last, List.reverse_reverse]

end Text

namespace Minify

open Text

variable {c : Char} {gap rest : Text}

/-! ### Closing gaps -/

theorem dropGaps_eq (n : Nat) (t : Text) : dropGaps n t = closeGaps (t.drop n) := by
  induction t generalizing n with
  | nil => simp [dropGaps, closeGaps]
  | cons c t ih =>
    cases n with
    | zero => rfl
    | succ n => simpa [dropGaps] using ih n

theorem gapLength_append (blank : Blank gap) (solid : Solid rest) :
    gapLength (gap ++ rest) = if rest.head? = some '<' then gap.length else 0 := by
  rw [gapLength, dropWhile_gap blank solid, takeWhile_gap blank solid]

/-- What closing gaps leaves of the blanks behind a character, which has another one, or none, as
its next neighbour. -/
def left (c : Char) (gap : Text) (next : Option Char) : Text :=
  if c = '>' ∧ next = some '<' then [] else gap

theorem closeGaps_blank (blank : Blank gap) (t : Text) :
    closeGaps (gap ++ t) = gap ++ closeGaps t := by
  induction gap with
  | nil => rfl
  | cons c gap ih =>
    obtain ⟨first, others⟩ := List.forall_mem_cons.mp blank
    have inside : c ≠ '>' := by
      rintro rfl
      exact absurd first (by decide)
    rw [List.cons_append, List.cons_append, ← ih others, closeGaps, dropGaps, if_neg inside]
    rfl

theorem closeGaps_cons (c : Char) (blank : Blank gap) (solid : Solid rest) :
    closeGaps (c :: (gap ++ rest)) = c :: (left c gap rest.head? ++ closeGaps rest) := by
  rw [closeGaps, dropGaps, dropGaps_eq, gapLength_append blank solid, left]
  by_cases closes : c = '>' ∧ rest.head? = some '<'
  · rw [if_pos closes.1, if_pos closes.2, if_pos closes, List.drop_left, List.nil_append]
  · have kept : (if c = '>' then if rest.head? = some '<' then gap.length else 0 else 0) = 0 := by
      grind
    rw [kept, if_neg closes, List.drop_zero, closeGaps_blank blank]

theorem head?_closeGaps (t : Text) : (closeGaps t).head? = t.head? := by
  cases t <;> rfl

/-! ### Squeezing -/

/-- What squeezing leaves of some blanks. -/
def squeezed (gap : Text) : Text :=
  if gap = [] then [] else [' ']

theorem squeezeFrom_run (blank : Blank gap) (solid : Solid rest) :
    squeezeFrom true (gap ++ rest) = squeeze rest := by
  induction gap with
  | nil =>
    cases rest with
    | nil => rfl
    | cons c rest => simp [squeeze, squeezeFrom, solid c rfl]
  | cons c gap ih =>
    obtain ⟨first, others⟩ := List.forall_mem_cons.mp blank
    rw [List.cons_append, squeezeFrom, if_pos first, if_pos rfl, ih others]

theorem squeeze_blank (blank : Blank gap) (solid : Solid rest) :
    squeeze (gap ++ rest) = squeezed gap ++ squeeze rest := by
  cases gap with
  | nil => rfl
  | cons c gap =>
    obtain ⟨first, others⟩ := List.forall_mem_cons.mp blank
    rw [List.cons_append, squeeze, squeezeFrom, if_pos first, squeezeFrom_run others solid]
    rfl

theorem squeeze_cons (ink : isBlank c = false) (blank : Blank gap) (solid : Solid rest) :
    squeeze (c :: (gap ++ rest)) = c :: (squeezed gap ++ squeeze rest) := by
  rw [← squeeze_blank blank solid]
  simp [squeeze, squeezeFrom, ink]

theorem blank_squeezed (gap : Text) : Blank (squeezed gap) := by
  unfold squeezed
  split
  · simp [Blank]
  · simp only [Blank, List.mem_singleton, forall_eq]
    decide

/-! ### The passes together -/

/-- What stands between two neighbours that have some blanks between them: one space, and nothing
where there are no blanks or where the neighbours close one tag and open another. -/
def between (c : Char) (gap : Text) (d : Char) : Text :=
  if gap = [] ∨ c = '>' ∧ d = '<' then [] else [' ']

/-- Each character with what is to stand between it and its next neighbour. -/
def collapsed : List (Char × Text) → List (Char × Text)
  | [] => []
  | [(c, _)] => [(c, [])]
  | (c, gap) :: (d, behind) :: cs => (c, between c gap d) :: collapsed ((d, behind) :: cs)

theorem collapsed_cons_cons (c : Char) (gap : Text) (s : Char × Text) (cs : List (Char × Text)) :
    collapsed ((c, gap) :: s :: cs) = (c, between c gap s.1) :: collapsed (s :: cs) := rfl

theorem exists_collapsed_cons (s : Char × Text) (cs : List (Char × Text)) :
    ∃ gap rest, collapsed (s :: cs) = (s.1, gap) :: rest := by
  cases cs <;> exact ⟨_, _, rfl⟩

theorem squeezed_left (c : Char) (gap : Text) (d : Char) :
    squeezed (left c gap (some d)) = between c gap d := by
  unfold squeezed left between
  grind

theorem blank_left (c : Char) (blank : Blank gap) (next : Option Char) :
    Blank (left c gap next) := by
  unfold left
  split
  · simp [Blank]
  · exact blank

theorem blank_between (c : Char) (gap : Text) (d : Char) : Blank (between c gap d) := by
  rw [← squeezed_left]
  exact blank_squeezed _

theorem solid_closeGaps (solid : Solid rest) : Solid (closeGaps rest) := by
  rwa [Solid, head?_closeGaps]

/-- Both passes over one character with the blanks behind it, whatever follows. -/
theorem squeeze_closeGaps_cons (ink : isBlank c = false) (blank : Blank gap)
    (solid : Solid rest) :
    squeeze (closeGaps (c :: (gap ++ rest))) =
      c :: (squeezed (left c gap rest.head?) ++ squeeze (closeGaps rest)) := by
  rw [closeGaps_cons c blank solid, squeeze_cons ink (blank_left c blank _) (solid_closeGaps solid)]

/-- Both passes over a text that does not begin with a blank. The blanks at its end may still leave
a space. -/
theorem squeeze_closeGaps {cs : List (Char × Text)} (spelled : Spelled cs) :
    ∃ back, Blank back ∧ squeeze (closeGaps (spell cs)) = spell (collapsed cs) ++ back := by
  induction cs using List.twoStepInduction with
  | nil => exact ⟨[], by simp [Blank], rfl⟩
  | singleton s =>
    obtain ⟨c, gap⟩ := s
    obtain ⟨⟨ink, blank⟩, -⟩ := spelled_cons.mp spelled
    refine ⟨squeezed (left c gap none), blank_squeezed _, ?_⟩
    rw [spell_cons, squeeze_closeGaps_cons ink blank (solid_spell (by simp [Spelled]))]
    exact congrArg (c :: ·) (List.append_nil _)
  | cons_cons s d cs _ ih =>
    obtain ⟨c, gap⟩ := s
    obtain ⟨d, behind⟩ := d
    obtain ⟨⟨ink, blank⟩, others⟩ := spelled_cons.mp spelled
    obtain ⟨back, blanks, passed⟩ := ih (d, behind) others
    refine ⟨back, blanks, ?_⟩
    rw [spell_cons, squeeze_closeGaps_cons ink blank (solid_spell others), passed,
      collapsed_cons_cons]
    simp [spell_cons, squeezed_left]

theorem spelled_collapsed {cs : List (Char × Text)} (spelled : Spelled cs) :
    Spelled (collapsed cs) := by
  induction cs using List.twoStepInduction with
  | nil => exact spelled
  | singleton s =>
    obtain ⟨⟨ink, -⟩, others⟩ := spelled_cons.mp spelled
    exact spelled_cons.mpr ⟨⟨ink, by simp [Blank]⟩, others⟩
  | cons_cons s d cs _ ih =>
    obtain ⟨c, gap⟩ := s
    obtain ⟨⟨ink, -⟩, others⟩ := spelled_cons.mp spelled
    exact spelled_cons.mpr ⟨⟨ink, blank_between c gap d.1⟩, ih d others⟩

theorem collapsed_map_fst (cs : List (Char × Text)) :
    (collapsed cs).map Prod.fst = cs.map Prod.fst := by
  induction cs using List.twoStepInduction with
  | nil => rfl
  | singleton s => rfl
  | cons_cons s d cs _ ih =>
    rw [collapsed_cons_cons, List.map_cons, ih d]
    rfl

theorem between_between (c : Char) (gap : Text) (d : Char) :
    between c (between c gap d) d = between c gap d := by
  unfold between
  grind

/-- What is collapsed stays as it is. -/
theorem collapsed_collapsed (cs : List (Char × Text)) :
    collapsed (collapsed cs) = collapsed cs := by
  induction cs using List.twoStepInduction with
  | nil => rfl
  | singleton s => rfl
  | cons_cons s d cs _ ih =>
    obtain ⟨gap, rest, next⟩ := exists_collapsed_cons d cs
    have again := ih d
    rw [next] at again
    rw [collapsed_cons_cons, next, collapsed_cons_cons, again, between_between]

/-- Nothing is left behind the last character. -/
theorem solid_reverse_collapsed {cs : List (Char × Text)} (spelled : Spelled cs) :
    Solid (spell (collapsed cs)).reverse := by
  induction cs using List.twoStepInduction with
  | nil => simp [Solid, collapsed, spell]
  | singleton s => exact solid_cons (spelled_cons.mp spelled).1.1 []
  | cons_cons s d cs _ ih =>
    have tail := ih d (spelled_cons.mp spelled).2
    obtain ⟨e, t, ended⟩ : ∃ e t, (spell (collapsed (d :: cs))).reverse = e :: t := by
      obtain ⟨gap, rest, next⟩ := exists_collapsed_cons d cs
      refine List.exists_cons_of_ne_nil ?_
      simp [next, spell_cons]
    rw [collapsed_cons_cons, spell_cons, List.reverse_cons, List.reverse_append, ended]
    rw [ended] at tail
    exact solid_cons (tail e rfl) _

theorem gaps_of_collapsed (cs : List (Char × Text)) :
    ∀ s ∈ collapsed cs, s.2 = [] ∨ s.2 = [' '] := by
  induction cs using List.twoStepInduction with
  | nil => exact fun _ member => absurd member List.not_mem_nil
  | singleton s => exact List.forall_mem_singleton.mpr (Or.inl rfl)
  | cons_cons s d cs _ ih =>
    rw [collapsed_cons_cons]
    refine List.forall_mem_cons.mpr ⟨?_, ih d⟩
    unfold between
    grind

/-- Collapsing follows one local rule. -/
theorem trim_squeeze_closeGaps (t : Text) :
    trim (squeeze (closeGaps t)) = spell (collapsed (solids t)) := by
  have spelled := spelled_solids t
  obtain ⟨back, blanks, passed⟩ := squeeze_closeGaps spelled
  have solid := solid_closeGaps (solid_spell spelled)
  have whole : squeeze (closeGaps t) =
      squeezed (t.takeWhile isBlank) ++ (spell (collapsed (solids t)) ++ back) := by
    rw [← passed, ← squeeze_blank (blank_takeWhile t) solid,
      ← closeGaps_blank (blank_takeWhile t), append_spell_solids]
  rw [whole]
  exact trim_append (blank_squeezed _) blanks (solid_spell (spelled_collapsed spelled))
    (solid_reverse_collapsed spelled)

/-- Collapsing the blanks of a source is exact. Of a source, without its comments where they are to
go, the characters that are not blank stay, in their order, with what `between` says between each
two neighbours and nothing at either end. So all blanks that are left are single spaces, and to
minify the outcome once more changes nothing. -/
theorem basic_collapsed (comments : Bool) (src : Text) :
    let t := if comments then removeComments src else src
    let out := basic { collapseWhitespace := true, removeComments := comments } src
    out = spell (collapsed (solids t)) ∧
      out.filter (! isBlank ·) = t.filter (! isBlank ·) ∧
      (∀ s ∈ solids out, s.2 = [] ∨ s.2 = [' ']) ∧
      (∀ c, out.head? = some c ∨ out.getLast? = some c → isBlank c = false) ∧
      basic { collapseWhitespace := true, removeComments := false } out = out := by
  intro t out
  have spelled := spelled_solids t
  have written : out = spell (collapsed (solids t)) := trim_squeeze_closeGaps t
  have viewed : solids out = collapsed (solids t) := by
    rw [written, solids_spell (spelled_collapsed spelled)]
  refine ⟨written, ?_, ?_, ?_, ?_⟩
  · rw [← solids_map_fst, ← solids_map_fst, viewed, collapsed_map_fst]
  · rw [viewed]
    exact gaps_of_collapsed _
  · rintro c (first | last)
    · rw [written] at first
      exact solid_spell (spelled_collapsed spelled) c first
    · rw [written, ← List.head?_reverse] at last
      exact solid_reverse_collapsed spelled c last
  · calc basic { collapseWhitespace := true, removeComments := false } out
        = spell (collapsed (solids out)) := trim_squeeze_closeGaps out
      _ = out := by rw [viewed, collapsed_collapsed, ← written]

-- A comment between tags leaves one gap, although there were blanks on both sides of it.
example : basic { removeComments := true } "<p> <!-- --> </p>".toList = "<p></p>".toList := by
  decide

end Minify
end LiveMarkup
