import LiveMarkup.Matcher
import LiveMarkup.Proofs.Pattern.Matching
import Mathlib.Data.List.Forall2

/-!
Which files are markup when a configuration names no pattern: those whose name ends with one of
three extensions, in whatever case.

* `Unicode.Alike`: characters that differ in case at most;
* `Expr.word`, `Expr.matches_word`: the expression of a word in any case matches just the words that
  are like it, letter by letter;
* `Matcher.markup_accepts_iff`: the identities that are selected.
-/

namespace LiveMarkup

namespace Unicode

/-- Whether a character folds as another one does. -/
def Alike (c d : Char) : Prop :=
  c.toNat ∈ foldClass d.toNat

theorem mem_caseVariants {c d : Char} : (caseVariants d).mem c = true ↔ Alike c d :=
  CharSet.mem_ofList

end Unicode

namespace Pattern.Expr

theorem matches_ofParts_cons {e : Expr} {es : List Expr} {before part after : Text} :
    (ofParts (e :: es)).Matches before part after ↔
      ∃ a b, part = a ++ b ∧ e.Matches before a (b ++ after) ∧
        (ofParts es).Matches (before ++ a) b after := by
  cases es with
  | nil => simp [ofParts, Matches]
  | cons e' es => rfl

theorem matches_ofBranches {es : List Expr} {before part after : Text} :
    (ofBranches es).Matches before part after ↔ ∃ e ∈ es, e.Matches before part after := by
  induction es with
  | nil =>
    have none : ofBranches [] = .set .empty true := rfl
    simp [none, Matches]
  | cons e es ih =>
    cases es with
    | nil => simp [ofBranches]
    | cons e' es =>
      rw [List.exists_mem_cons_iff, ← ih]
      rfl

/-- A word in whatever case. -/
def word (name : Text) : Expr :=
  ofParts (name.map fun c => .set (Unicode.caseVariants c) false)

theorem matches_word {name before part after : Text} :
    (word name).Matches before part after ↔ List.Forall₂ Unicode.Alike part name := by
  induction name generalizing before part with
  | nil => exact List.forall₂_nil_right_iff.symm
  | cons d name ih =>
    rw [word, List.map_cons, matches_ofParts_cons]
    constructor
    · rintro ⟨_, rest, rfl, ⟨c, rfl, member⟩, more⟩
      exact .cons (Unicode.mem_caseVariants.mp member) (ih.mp more)
    · rintro (_ | ⟨alike, more⟩)
      exact ⟨[_], _, rfl, ⟨_, rfl, Unicode.mem_caseVariants.mpr alike⟩, ih.mpr more⟩

theorem matches_words {names : List Text} {before part after : Text} :
    (ofBranches (names.map word)).Matches before part after ↔
      ∃ name ∈ names, List.Forall₂ Unicode.Alike part name := by
  rw [matches_ofBranches]
  constructor
  · rintro ⟨_, listed, fits⟩
    obtain ⟨name, known, rfl⟩ := List.mem_map.mp listed
    exact ⟨name, known, matches_word.mp fits⟩
  · rintro ⟨name, known, alike⟩
    exact ⟨word name, List.mem_map_of_mem known, matches_word.mpr alike⟩

end Pattern.Expr

namespace Matcher

/-- The extensions of markup files. -/
def extensions : List Text :=
  ["html".toList, "xhtml".toList, "svg".toList]

open Pattern in
/-- What the pattern of markup files is read as. -/
theorem markup_expr : markup.expr =
    .seq (.text ['.']) (.seq (.group 1 (.ofBranches (extensions.map .word))) (.look .finish)) := by
  decide +kernel

/-- A letter of an extension with the others that it folds as, in order. -/
def caseForms (d : Char) : List Char :=
  if d = 's' then [d.toUpper, d, '\u017f'] else [d.toUpper, d]

variable {name : Text} {d : Char}

theorem foldClass_of_extension (known : name ∈ extensions) (member : d ∈ name) :
    Unicode.foldClass d.toNat = (caseForms d).map Char.toNat := by
  have each : extensions.all (·.all fun d =>
      Unicode.foldClass d.toNat == (caseForms d).map Char.toNat) = true := by
    decide
  exact beq_iff_eq.mp (List.all_eq_true.mp (List.all_eq_true.mp each name known) d member)

theorem alike_of_extension (known : name ∈ extensions) (member : d ∈ name) (c : Char) :
    Unicode.Alike c d ↔ c = d ∨ c = d.toUpper ∨ d = 's' ∧ c = '\u017f' := by
  have injective : Function.Injective Char.toNat := fun _ _ => Char.toNat_inj.mp
  rw [Unicode.Alike, foldClass_of_extension known member, List.mem_map_of_injective injective,
    caseForms]
  split
  · rename_i long
    simp [long, or_left_comm]
  · rename_i other
    simp [other, or_comm]

/-- A file is markup if the text of its identity ends, at its very end, with a dot and one of the
extensions, letter by letter in whatever case. What stands before that dot has no part in this. A
letter of an extension stands for itself and its capital, and `s` for the long s besides. -/
theorem markup_accepts_iff (identity : Text) :
    (markup.accepts identity = true ↔ ∃ front ending name, name ∈ extensions ∧
      identity = front ++ '.' :: ending ∧ List.Forall₂ Unicode.Alike ending name) ∧
    ∀ name ∈ extensions, ∀ d ∈ name, ∀ c,
      Unicode.Alike c d ↔ c = d ∨ c = d.toUpper ∨ d = 's' ∧ c = '\u017f' := by
  refine ⟨?_, fun name known d member c => alike_of_extension known member c⟩
  rw [accepts, Pattern.Expr.occursIn_iff, markup_expr]
  constructor
  · rintro ⟨front, _, after, rfl, _, _, rfl, rfl, ending, _, rfl, chosen, rfl, finished⟩
    obtain ⟨name, known, alike⟩ := Pattern.Expr.matches_words.mp chosen
    obtain rfl : after = [] := by simpa [Pattern.Look.holds] using finished
    exact ⟨front, ending, name, known, by simp, alike⟩
  · rintro ⟨front, ending, name, known, rfl, alike⟩
    exact ⟨front, '.' :: ending, [], by simp, ['.'], ending, rfl, rfl, ending, [], by simp,
      Pattern.Expr.matches_words.mpr ⟨name, known, alike⟩, rfl, rfl⟩

end Matcher
end LiveMarkup
