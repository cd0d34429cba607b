import LiveMarkup.Proofs.Minify.Spacing
import LiveMarkup.Workspace.World

/-!
Comments and what is left when they are removed. Removing goes once from left to right: it takes
each opener that has a closer behind it with all up to the first one, and goes on behind that. What
was on both sides of a comment is then side by side, and that can be the two halves of an opener.

* `Cut`: a text in pieces, with the comments between them;
* `exists_cut`, `Cut.removeComments_eq`: the pieces are what removing leaves;
* `Cut.seam_in_opener`: where a comment is left, its opener was in no piece;
* `hasComment_of_collapsed`: no comment comes of the blanks that are taken away;
* `comments_left`: all together, for the stage and for the minifier.
-/

namespace LiveMarkup

theorem Text.after?_eq_none {front t : Text} (absent : ¬ front <+: t) : after? front t = none := by
  cases found : after? front t with
  | none => rfl
  | some rest => exact absurd ⟨rest, (eq_append_of_after? found).symm⟩ absent

namespace Minify

variable {w t front body rest : Text} {pieces : List Text}

/-! ### First occurrences -/

/-- A word that occurs in a text has a first occurrence. -/
theorem exists_first_occurrence (word : w ≠ []) (occurs : w <:+: t) :
    ∃ front rest, t = front ++ (w ++ rest) ∧ ¬ w <:+: front := by
  induction t with
  | nil => exact absurd (List.infix_nil.mp occurs) word
  | cons c t ih =>
    by_cases here : w <+: c :: t
    · obtain ⟨rest, start⟩ := here
      exact ⟨[], rest, start.symm, fun inside => word (List.infix_nil.mp inside)⟩
    · have behind : w <:+: t := (List.infix_cons_iff.mp occurs).resolve_left here
      obtain ⟨front, rest, rfl, first⟩ := ih behind
      refine ⟨c :: front, rest, rfl, fun inside => ?_⟩
      rcases List.infix_cons_iff.mp inside with start | later
      · exact here (start.trans (List.prefix_append (c :: front) (w ++ rest)))
      · exact first later

/-- Of two ways to split a text, the second one goes further, or it ends within the first part. -/
theorem parts_of_append_eq {a b c d : Text} (same : a ++ b = c ++ d) :
    (∃ more, c = a ++ more ∧ b = more ++ d) ∨
      ∃ overlap, overlap ≠ [] ∧ a = c ++ overlap ∧ d = overlap ++ b := by
  obtain further | ⟨overlap, inside, behind⟩ := List.append_eq_append_iff.mp same
  · exact Or.inl further
  · by_cases empty : overlap = []
    · subst empty
      exact Or.inl ⟨[], by simp [inside], behind.symm⟩
    · exact Or.inr ⟨overlap, empty, inside, behind⟩

/-- A word no end of which is its beginning. Two of its occurrences never overlap. -/
def Borderless (w : Text) : Prop :=
  ∀ n < w.length, 0 < n → ¬ w.drop n <+: w

theorem borderless_opener : Borderless opener := by
  unfold Borderless
  decide

theorem borderless_closer : Borderless closer := by
  unfold Borderless
  decide

/-- In front of an occurrence of such a word no other one begins, unless it ends there as well. -/
theorem Borderless.not_isPrefix (borderless : Borderless w) (absent : ¬ w <:+: front)
    (nonempty : front ≠ []) (rest : Text) : ¬ w <+: front ++ (w ++ rest) := by
  rintro ⟨back, same⟩
  obtain ⟨more, inside, -⟩ | ⟨border, split, begins⟩ := List.append_eq_append_iff.mp same
  · exact absent ⟨[], more, inside.symm⟩
  · have long : front.length < w.length := by
      by_contra short
      have whole := congrArg List.length split
      rw [List.length_append] at whole
      have none : border = [] := List.eq_nil_of_length_eq_zero (by omega)
      rw [none, List.append_nil] at split
      exact absent (split ▸ List.infix_rfl)
    have start : border <+: w := by
      refine List.prefix_of_prefix_length_le ⟨back, begins.symm⟩ (List.prefix_append w rest) ?_
      rw [split, List.length_append]
      omega
    have dropped : w.drop front.length = border := by rw [split, List.drop_left]
    exact borderless _ long (List.length_pos_iff.mpr nonempty) (dropped ▸ start)

/-! ### Comments -/

/-- There is an opener in the text, and behind it a closer. -/
def HasComment (t : Text) : Prop :=
  ∃ before body behind, t = before ++ (opener ++ (body ++ (closer ++ behind)))

/-- A text with comments begins with the first of them, up to its first closer. -/
theorem HasComment.exists_first (comment : HasComment t) :
    ∃ front body rest, t = front ++ (opener ++ (body ++ (closer ++ rest))) ∧
      ¬ opener <:+: front ∧ ¬ closer <:+: body := by
  obtain ⟨before, inner, behind, rfl⟩ := comment
  obtain ⟨front, more, opened, first⟩ :=
    exists_first_occurrence (w := opener) (by decide) (List.suffix_append before opener).isInfix
  have closes : closer <:+: more ++ (inner ++ (closer ++ behind)) :=
    ⟨more ++ inner, behind, by simp⟩
  obtain ⟨body, rest, closed, shortest⟩ := exists_first_occurrence (by decide) closes
  refine ⟨front, body, rest, ?_, first, shortest⟩
  rw [← closed, ← List.append_assoc before, opened]
  simp

theorem closerEnd?_of_first (shortest : ¬ closer <:+: body) (rest : Text) :
    closerEnd? (body ++ (closer ++ rest)) = some (body.length + 3) := by
  induction body with
  | nil => rfl
  | cons c body ih =>
    have later : ¬ closer <:+: body := fun inside => shortest (List.infix_cons inside)
    have absent := Text.after?_eq_none (borderless_closer.not_isPrefix shortest (by simp) rest)
    rw [List.cons_append] at absent ⊢
    rw [closerEnd?, absent, ih later]
    rfl

theorem isInfix_of_closerEnd? {n : Nat} (found : closerEnd? t = some n) : closer <:+: t := by
  induction t generalizing n with
  | nil => cases found
  | cons c t ih =>
    unfold closerEnd? at found
    split at found
    · rename_i rest here
      exact ⟨[], rest, (Text.eq_append_of_after? here).symm⟩
    · obtain ⟨m, later, -⟩ := Option.map_eq_some_iff.mp found
      exact List.infix_cons (ih later)

theorem commentLength?_of_first (shortest : ¬ closer <:+: body) (rest : Text) :
    commentLength? (opener ++ (body ++ (closer ++ rest))) = some (body.length + 7) := by
  rw [commentLength?, Text.after?_append]
  exact congrArg (Option.map (· + 4)) (closerEnd?_of_first shortest rest)

theorem hasComment_of_commentLength? {n : Nat} (found : commentLength? t = some n) :
    HasComment t := by
  unfold commentLength? at found
  split at found
  · rename_i inner opened
    obtain ⟨m, closed, -⟩ := Option.map_eq_some_iff.mp found
    obtain ⟨body, behind, rfl⟩ := isInfix_of_closerEnd? closed
    exact ⟨[], body, behind, by simp [Text.eq_append_of_after? opened]⟩
  · cases found

/-! ### What is removed -/

theorem dropComments_eq (n : Nat) (t : Text) : dropComments n t = removeComments (t.drop n) := by
  induction t generalizing n with
  | nil => simp [dropComments, removeComments]
  | cons c t ih =>
    cases n with
    | zero => rfl
    | succ n => simpa [dropComments] using ih n

theorem removeComments_cons {c : Char} (none : commentLength? (c :: t) = none) :
    removeComments (c :: t) = c :: removeComments t := by
  rw [removeComments, dropComments, none]
  rfl

theorem removeComments_comment (shortest : ¬ closer <:+: body) (rest : Text) :
    removeComments (opener ++ (body ++ (closer ++ rest))) = removeComments rest := by
  obtain ⟨c, t, start, behind⟩ : ∃ c t, opener ++ (body ++ (closer ++ rest)) = c :: t ∧
      t.drop (body.length + 6) = rest := by
    refine ⟨_, _, rfl, ?_⟩
    have whole : "!--".toList ++ (body ++ (closer ++ rest)) =
        ("!--".toList ++ (body ++ closer)) ++ rest := by simp
    exact (congrArg (List.drop _) whole).trans (List.drop_left' (by simp [closer]))
  have long := commentLength?_of_first shortest rest
  rw [start] at long ⊢
  rw [removeComments, dropComments, long]
  exact (dropComments_eq _ _).trans (congrArg removeComments behind)

theorem removeComments_front (first : ¬ opener <:+: front) (rest : Text) :
    removeComments (front ++ (opener ++ rest)) = front ++ removeComments (opener ++ rest) := by
  induction front with
  | nil => rfl
  | cons c front ih =>
    have later : ¬ opener <:+: front := fun inside => first (List.infix_cons inside)
    have none : commentLength? (c :: front ++ (opener ++ rest)) = none := by
      rw [commentLength?, Text.after?_eq_none (borderless_opener.not_isPrefix first (by simp) rest)]
    rw [List.cons_append] at none ⊢
    rw [removeComments_cons none, ih later, List.cons_append]

theorem removeComments_of_none (none : ¬ HasComment t) : removeComments t = t := by
  induction t with
  | nil => rfl
  | cons c t ih =>
    have later : ¬ HasComment t := by
      rintro ⟨before, body, behind, rfl⟩
      exact none ⟨c :: before, body, behind, rfl⟩
    have here : commentLength? (c :: t) = .none :=
      Option.eq_none_iff_forall_ne_some.mpr fun n found => none (hasComment_of_commentLength? found)
    rw [removeComments_cons here, ih later]

/-! ### The pieces of a text -/

/-- A text in pieces, with a comment between each two. A comment begins with the first opener that
is left, and ends with the first closer behind it; in the last piece no opener has a closer. -/
inductive Cut : Text → List Text → Prop
  | last {t : Text} (none : ¬ HasComment t) : Cut t [t]
  | comment {front body rest : Text} {pieces : List Text} (first : ¬ opener <:+: front)
    (shortest : ¬ closer <:+: body) (more : Cut rest pieces) :
    Cut (front ++ (opener ++ (body ++ (closer ++ rest)))) (front :: pieces)

theorem exists_cut (t : Text) : ∃ pieces, Cut t pieces := by
  induction n : t.length using Nat.strong_induction_on generalizing t with
  | h n ih =>
    by_cases comment : HasComment t
    · obtain ⟨front, body, rest, rfl, first, shortest⟩ := comment.exists_first
      obtain ⟨pieces, more⟩ := ih rest.length (by simp [← n, opener, closer]; omega) rest rfl
      exact ⟨_, .comment first shortest more⟩
    · exact ⟨_, .last comment⟩

/-- The pieces are what removing leaves. -/
theorem Cut.removeComments_eq (cut : Cut t pieces) : removeComments t = pieces.flatten := by
  induction cut with
  | last none => simpa using removeComments_of_none none
  | comment first shortest more ih =>
    rw [removeComments_front first, removeComments_comment shortest, ih, List.flatten_cons]

theorem Cut.length_le (cut : Cut t pieces) : pieces.flatten.length ≤ t.length := by
  induction cut with
  | last none => simp
  | comment first shortest more ih =>
    simp only [List.flatten_cons, List.length_append]
    omega

/-- Nothing is removed exactly where there is no comment. -/
theorem removeComments_eq_self_iff : removeComments t = t ↔ ¬ HasComment t := by
  refine ⟨fun same comment => ?_, removeComments_of_none⟩
  obtain ⟨pieces, cut⟩ := exists_cut t
  have short := congrArg List.length (cut.removeComments_eq.symm.trans same)
  cases cut with
  | last none => exact none comment
  | comment first shortest more =>
    have := more.length_le
    simp only [List.flatten_cons, List.length_append, opener, List.length_cons] at short
    omega

/-- Two neighbouring pieces meet inside a stretch of the text that they make up. -/
def SeamWithin (pieces : List Text) (first past : Nat) : Prop :=
  ∃ before behind, pieces = before ++ behind ∧ first < before.flatten.length ∧
    before.flatten.length < past

/-- Where the pieces make up a comment, its opener was in none of them. -/
theorem Cut.seam_in_opener (cut : Cut t pieces) {before body behind : Text}
    (comment : pieces.flatten = before ++ (opener ++ (body ++ (closer ++ behind)))) :
    SeamWithin pieces before.length (before.length + opener.length) := by
  induction cut generalizing before with
  | @last t none =>
    rw [List.flatten_singleton] at comment
    exact absurd ⟨before, body, behind, comment⟩ none
  | @comment front _ _ pieces first _ _ ih =>
    rw [List.flatten_cons] at comment
    obtain ⟨more, past, later⟩ | ⟨overlap, nonempty, inside, across⟩ := parts_of_append_eq comment
    · obtain ⟨earlier, others, rfl, low, high⟩ := ih later
      refine ⟨front :: earlier, others, rfl, ?_, ?_⟩ <;>
        simp only [List.flatten_cons, List.length_append, past] <;> omega
    · have short : overlap.length < opener.length := by
        by_contra long
        have opened : opener <+: overlap :=
          List.prefix_of_prefix_length_le ⟨_, across⟩ (List.prefix_append _ _) (by omega)
        exact first (opened.isInfix.trans ⟨before, [], by simp [inside]⟩)
      have some_left := List.length_pos_iff.mpr nonempty
      refine ⟨[front], pieces, rfl, ?_, ?_⟩ <;>
        simp only [List.flatten_singleton, inside, List.length_append] <;> omega

/-! ### Blanks that are taken away -/

open Text

/-- Characters that are not blank, without the end of a tag right in front of another tag. -/
structure Inked (w : Text) : Prop where
  ink : ∀ c ∈ w, isBlank c = false
  apart : ¬ ['>', '<'] <:+: w

theorem Inked.of_all (plain : w.all (! isBlank ·) = true) (apart : '>' ∉ w ∨ '<' ∉ w) :
    Inked w where
  ink := by
    intro c member
    simpa using List.all_eq_true.mp plain c member
  apart := by
    intro inside
    rcases apart with absent | absent
    · exact absent (inside.subset (by simp))
    · exact absent (inside.subset (by simp))

theorem inked_opener : Inked opener :=
  .of_all (by decide) (.inl (by decide))

theorem inked_closer : Inked closer :=
  .of_all (by decide) (.inr (by decide))

theorem Inked.solid_append (inked : Inked w) (word : w ≠ []) (rest : Text) : Solid (w ++ rest) := by
  cases w with
  | nil => exact absurd rfl word
  | cons c w => exact solid_cons (inked.ink c List.mem_cons_self) _

/-- What begins with no blank is no part of the blanks in front of a text. -/
theorem isSuffix_of_gap {gap r : Text} (blank : Blank gap) (solid : Solid r) (nonempty : r ≠ [])
    (ends : r <:+ gap ++ t) : r <:+ t := by
  obtain ⟨front, same⟩ := ends
  obtain ⟨more, -, split⟩ | ⟨overlap, some_left, inside, begins⟩ := parts_of_append_eq same.symm
  · exact ⟨more, split.symm⟩
  · obtain ⟨c, r, rfl⟩ := List.exists_cons_of_ne_nil nonempty
    obtain ⟨d, overlap, rfl⟩ := List.exists_cons_of_ne_nil some_left
    obtain rfl : c = d := (List.cons.inj begins).1
    have member : isBlank c = true := blank c (by simp [inside])
    rw [solid c rfl] at member
    cases member

/-- A text that begins with no blank is empty, or it begins with a character, the blanks behind it
and the rest, which begins with none. -/
theorem solid_cases (solid : Solid t) :
    t = [] ∨ ∃ c gap rest, isBlank c = false ∧ Blank gap ∧ Solid rest ∧ t = c :: (gap ++ rest) := by
  cases t with
  | nil => exact Or.inl rfl
  | cons c t =>
    refine Or.inr ⟨c, _, _, solid c rfl, blank_takeWhile t, solid_spell (spelled_solids t), ?_⟩
    rw [append_spell_solids]

/-- What collapsing leaves from some character on, it leaves of what is behind the character that
this one was. -/
theorem exists_suffix_of_collapsed (solid : Solid t) {r : Text} (word : Solid r)
    (nonempty : r ≠ []) (ends : r <:+ squeeze (closeGaps t)) :
    ∃ r', r' <:+ t ∧ Solid r' ∧ squeeze (closeGaps r') = r := by
  induction n : t.length using Nat.strong_induction_on generalizing t with
  | h n ih =>
    obtain rfl | ⟨c, gap, rest, ink, blank, begins, rfl⟩ := solid_cases solid
    · exact absurd (List.suffix_nil.mp ends) nonempty
    · rw [squeeze_closeGaps_cons ink blank begins] at ends
      rcases List.suffix_cons_iff.mp ends with whole | later
      · exact ⟨_, List.suffix_rfl, solid, by rw [whole, squeeze_closeGaps_cons ink blank begins]⟩
      · obtain ⟨r', isSuffix, word', same⟩ :=
          ih rest.length (by rw [← n, List.length_cons, List.length_append]; omega) begins
            (isSuffix_of_gap (blank_squeezed _) word nonempty later) rfl
        refine ⟨r', isSuffix.trans ⟨c :: gap, rfl⟩, word', same⟩

/-- Two characters that are side by side once blanks are collapsed were so before, unless they end
one tag and open another. -/
theorem gap_eq_nil_of_squeezed {c d : Char} {gap rest r : Text} (apart : ¬ (c = '>' ∧ d = '<'))
    (ink : isBlank d = false) (solid : Solid rest)
    (passed : squeezed (left c gap rest.head?) ++ squeeze (closeGaps rest) = d :: r) :
    gap = [] ∧ squeeze (closeGaps rest) = d :: r := by
  have none : squeezed (left c gap rest.head?) = [] := by
    by_contra some
    obtain ⟨e, more, begins⟩ := List.exists_cons_of_ne_nil some
    have blank := blank_squeezed (left c gap rest.head?)
    rw [begins] at passed blank
    obtain rfl : e = d := (List.cons.inj passed).1
    rw [blank e List.mem_cons_self] at ink
    cases ink
  have passed' : squeeze (closeGaps rest) = d :: r := by rwa [none, List.nil_append] at passed
  obtain rfl | ⟨e, gap', rest', ink', blank', begins, rfl⟩ := solid_cases solid
  · cases passed'
  · obtain rfl : e = d := by
      rw [squeeze_closeGaps_cons ink' blank' begins] at passed'
      exact (List.cons.inj passed').1
    rw [List.head?_cons, squeezed_left, between] at none
    split at none
    · rename_i joined
      exact ⟨joined.resolve_right apart, passed'⟩
    · cases none

/-- A word that collapsing leaves was there before. What follows it was there too, but for the
blanks. -/
theorem append_of_collapsed (solid : Solid t) (inked : Inked w) (word : w ≠ []) {r : Text}
    (passed : squeeze (closeGaps t) = w ++ r) :
    ∃ gap rest gap', Blank gap' ∧ Solid rest ∧ t = w ++ (gap ++ rest) ∧
      r = gap' ++ squeeze (closeGaps rest) := by
  induction w generalizing t with
  | nil => exact absurd rfl word
  | cons c w ih =>
    obtain rfl | ⟨d, gap, rest, ink, blank, begins, rfl⟩ := solid_cases solid
    · cases passed
    · rw [squeeze_closeGaps_cons ink blank begins] at passed
      obtain ⟨rfl, behind⟩ := List.cons.inj passed
      cases w with
      | nil => exact ⟨gap, rest, _, blank_squeezed _, begins, rfl, behind.symm⟩
      | cons e w =>
        have apart : ¬ (d = '>' ∧ e = '<') := by
          rintro ⟨rfl, rfl⟩
          exact inked.apart ⟨[], w, rfl⟩
        obtain ⟨rfl, next⟩ :=
          gap_eq_nil_of_squeezed apart (inked.ink e (by simp)) begins behind
        have inked' : Inked (e :: w) :=
          ⟨fun c member => inked.ink c (List.mem_cons_of_mem d member),
            fun inside => inked.apart (List.infix_cons inside)⟩
        obtain ⟨gap, rest, gap', blank', begins', rfl, further⟩ :=
          ih begins inked' (by simp) next
        exact ⟨gap, rest, gap', blank', begins', rfl, further⟩

/-- Collapsing blanks makes no comment. -/
theorem hasComment_of_collapsed (comment : HasComment (squeeze (closeGaps t))) : HasComment t := by
  obtain ⟨before, body, behind, found⟩ := comment
  have solid : Solid (spell (solids t)) := solid_spell (spelled_solids t)
  have opens : opener ++ (body ++ (closer ++ behind)) <:+
      squeeze (closeGaps (spell (solids t))) := by
    refine isSuffix_of_gap (blank_squeezed (t.takeWhile isBlank))
      (inked_opener.solid_append (by decide) _) (by simp [opener]) ⟨before, ?_⟩
    rw [← found, ← squeeze_blank (blank_takeWhile t) (solid_closeGaps solid),
      ← closeGaps_blank (blank_takeWhile t), append_spell_solids]
  obtain ⟨t₁, in_t, solid₁, same₁⟩ := exists_suffix_of_collapsed solid
    (inked_opener.solid_append (by decide) _) (by simp [opener]) opens
  obtain ⟨gap, rest, gap', blank, begins, rfl, left⟩ :=
    append_of_collapsed solid₁ inked_opener (by decide) same₁
  have closes : closer ++ behind <:+ squeeze (closeGaps rest) :=
    isSuffix_of_gap blank (inked_closer.solid_append (by decide) _) (by simp [closer])
      ⟨body, left⟩
  obtain ⟨t₂, in_rest, solid₂, same₂⟩ := exists_suffix_of_collapsed begins
    (inked_closer.solid_append (by decide) _) (by simp [closer]) closes
  obtain ⟨gap₂, rest₂, -, -, -, rfl, -⟩ :=
    append_of_collapsed solid₂ inked_closer (by decide) same₂
  obtain ⟨front, split⟩ := in_t
  obtain ⟨middle, rfl⟩ := in_rest
  have whole := append_spell_solids t
  rw [← split] at whole
  exact ⟨t.takeWhile isBlank ++ front, gap ++ middle, gap₂ ++ rest₂, whole.symm.trans (by simp)⟩

theorem HasComment.of_isInfix (comment : HasComment w) (inside : w <:+: t) : HasComment t := by
  obtain ⟨before, body, behind, rfl⟩ := comment
  obtain ⟨front, back, rfl⟩ := inside
  exact ⟨front ++ before, body, behind ++ back, by simp⟩

theorem solid_dropWhile (t : Text) : Solid (t.dropWhile isBlank) := by
  induction t with
  | nil => simp [Solid]
  | cons c t ih =>
    by_cases blank : isBlank c = true
    · rwa [List.dropWhile_cons_of_pos blank]
    · rw [List.dropWhile_cons_of_neg blank]
      exact solid_cons (by simpa using blank) t

theorem trim_isPrefix (t : Text) : trim t <+: trimStart t := by
  rw [trim, trimEnd, ← List.reverse_suffix, List.reverse_reverse]
  exact List.dropWhile_suffix _

theorem trim_isInfix (t : Text) : trim t <:+: t :=
  (trim_isPrefix t).isInfix.trans (List.dropWhile_suffix _).isInfix

theorem trim_trim (t : Text) : trim (trim t) = trim t := by
  have solid : Solid (trim t) := by
    intro c first
    obtain ⟨more, begins⟩ := trim_isPrefix t
    refine solid_dropWhile t c ?_
    rw [← trimStart, ← begins, List.head?_append, first]
    rfl
  rw [trim, trimStart, dropWhile_of_solid solid, trimEnd, trim, trimEnd, List.reverse_reverse,
    dropWhile_of_solid (solid_dropWhile _)]

theorem collapse_collapse (t : Text) :
    trim (squeeze (closeGaps (trim (squeeze (closeGaps t))))) = trim (squeeze (closeGaps t)) := by
  have spelled := spelled_collapsed (spelled_solids t)
  rw [trim_squeeze_closeGaps t, trim_squeeze_closeGaps, solids_spell spelled, collapsed_collapsed]

/-- What is minified has no comment that removing did not leave. -/
theorem hasComment_of_basic {collapse : Bool}
    (comment : HasComment (basic ⟨collapse, true⟩ t)) : HasComment (removeComments t) := by
  cases collapse with
  | false => exact comment.of_isInfix (trim_isInfix _)
  | true => exact hasComment_of_collapsed (comment.of_isInfix (trim_isInfix _))

/-- Where no comment is left, there is nothing more to minify. -/
theorem basic_basic {collapse : Bool} (none : ¬ HasComment (basic ⟨collapse, true⟩ t)) :
    basic ⟨collapse, true⟩ (basic ⟨collapse, true⟩ t) = basic ⟨collapse, true⟩ t := by
  have kept := removeComments_of_none none
  cases collapse with
  | false => exact (congrArg trim kept).trans (trim_trim _)
  | true => exact (congrArg (trim ∘ squeeze ∘ closeGaps) kept).trans (collapse_collapse _)

/-- The text without its comments, as the stage for it leaves it and as the minifier goes on from.
It is the pieces between the comments, each comment going from the first opener that has a closer
to the first closer behind it. A comment that is left, or that the minifier leaves, has an opener
which was in none of the pieces: it was put together where a comment had been. Without such a
comment to do the same again changes nothing. -/
theorem comments_left (ctx : Context Stage) (w : World) :
    ∃ pieces, Cut ctx.src pieces ∧
      let left := pieces.flatten
      Stage.stripComments.run ctx w = (.ok (ctx.withSrc left), w) ∧
      (∀ before body behind, left = before ++ (opener ++ (body ++ (closer ++ behind))) →
        SeamWithin pieces before.length (before.length + opener.length)) ∧
      (Stage.stripComments.run (ctx.withSrc left) w = (.ok (ctx.withSrc left), w) ↔
        ¬ HasComment left) ∧
      ∀ collapse,
        let options : MinifyOptions := { collapseWhitespace := collapse, removeComments := true }
        let out := basic options ctx.src
        (HasComment out → HasComment left) ∧ (¬ HasComment out → basic options out = out) := by
  obtain ⟨pieces, cut⟩ := exists_cut ctx.src
  have removed := cut.removeComments_eq
  refine ⟨pieces, cut, ?_, fun before body behind => cut.seam_in_opener, ?_,
    fun collapse => ⟨?_, ?_⟩⟩
  · rw [← removed]
    rfl
  · rw [← removeComments_eq_self_iff]
    have again : Stage.stripComments.run (ctx.withSrc pieces.flatten) w =
        (.ok (ctx.withSrc (removeComments pieces.flatten)), w) := rfl
    rw [again]
    constructor
    · intro same
      exact congrArg Context.src (Except.ok.inj (Prod.mk.inj same).1)
    · intro same
      rw [same]
  · intro comment
    rw [← removed]
    exact hasComment_of_basic comment
  · exact basic_basic

/-- A comment inside of an opener: what is left is a comment, and to remove it takes a second
run. -/
theorem rejoined_opener_is_left :
    let src := "<!-<!-- x -->- y -->".toList
    let left := "<!-- y -->".toList
    HasComment left ∧ removeComments src = left ∧ removeComments left ≠ left ∧
      ∀ collapse,
        let options : MinifyOptions := { collapseWhitespace := collapse, removeComments := true }
        basic options src = left ∧ basic options left ≠ left := by
  intro src left
  exact ⟨⟨[], " y ".toList, [], rfl⟩, by decide, by decide, by decide⟩

end Minify
end LiveMarkup
