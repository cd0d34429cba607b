import LiveMarkup.Pattern.Expr
import LiveMarkup.Unicode.Property

/-!
Where a pattern occurs in a text.

A search keeps one mark for every place between two characters, and an expression carries marks
from the places where it may begin to the places where it may end. So the time of a search is
bounded by the length of the text for every pass over the expression, and no choice is ever undone.
-/

namespace LiveMarkup.Pattern

/-- Whether a neighbour of a place is a character of a word. -/
def isWordAt (ascii : Bool) : Option Char → Bool
  | none => false
  | some c => if ascii then c.isAlphanum || c == '_' else Unicode.word.mem c

def Look.holds (l : Look) (before after : Option Char) : Bool :=
  match l with
  | start => before.isNone
  | finish => after.isNone
  | lineStart false => before.isNone || before == some '\n'
  | lineStart true =>
    before.isNone || before == some '\n' || (before == some '\r' && after != some '\n')
  | lineFinish false => after.isNone || after == some '\n'
  | lineFinish true =>
    after.isNone || after == some '\r' || (after == some '\n' && before != some '\r')
  | wordEdge ascii => isWordAt ascii before != isWordAt ascii after
  | noWordEdge ascii => isWordAt ascii before == isWordAt ascii after
  | wordStart ascii => ! isWordAt ascii before && isWordAt ascii after
  | wordFinish ascii => isWordAt ascii before && ! isWordAt ascii after
  | notAfterWord ascii => ! isWordAt ascii before
  | notBeforeWord ascii => ! isWordAt ascii after

/-- One mark for every place of a text, from its start to its end. -/
abbrev Marks := List Bool

/-- The neighbours of each place of a text. -/
def places (t : Text) : List (Option Char × Option Char) :=
  List.zip (none :: t.map some) (t.map some ++ [none])

def both (a b : Marks) : Marks :=
  List.zipWith or a b

/-- Carries marks over one character that is as asked for. -/
def step (t : Text) (asked : Char → Bool) (m : Marks) : Marks :=
  false :: List.zipWith (fun mark c => mark && asked c) m t

/-- Carries marks a number of times, or until they stay as they are. -/
def power (f : Marks → Marks) : Nat → Marks → Marks
  | 0, m => m
  | n + 1, m =>
    let moved := f m
    if moved = m then m else power f n moved

/-- Adds to the marks those that they are carried to, at most a number of times. -/
def spread (f : Marks → Marks) : Nat → Marks → Marks
  | 0, m => m
  | n + 1, m =>
    let wider := both m (f m)
    if wider = m then m else spread f n wider

/-- The places where the expression may end when it begins at a marked place. -/
def ends (t : Text) : Expr → Marks → Marks
  | .empty, m => m
  | .text cs, m => cs.foldl (fun m c => step t (· == c) m) m
  | .set s _, m => step t s.mem m
  | .look l, m =>
    List.zipWith (fun mark (before, after) => mark && l.holds before after) m (places t)
  | .repeated low high _ e, m =>
    spread (ends t e) ((high.map (· - low)).getD (t.length + 1)) (power (ends t e) low m)
  | .group _ e, m => ends t e m
  | .seq first rest, m => ends t rest (ends t first m)
  | .alt first rest, m => both (ends t first m) (ends t rest m)

/-- Whether the expression matches some part of the text. -/
def Expr.occursIn (e : Expr) (t : Text) : Bool :=
  (ends t e (List.replicate (t.length + 1) true)).contains true

/-! ### Repeating -/

/-- Carrying marks a number of times is to repeat one step, though it stops early. -/
theorem power_eq_repeat (f : Marks → Marks) (n : Nat) (m : Marks) :
    power f n m = n.repeat f m := by
  induction n generalizing m with
  | zero => rfl
  | succ n ih =>
    have shift : ∀ k, Nat.repeat f k (f m) = Nat.repeat f (k + 1) m := by
      intro k
      induction k with
      | zero => rfl
      | succ k ih => simp [Nat.repeat, ih]
    simp only [power]
    split
    · rename_i still
      have stays : ∀ k, Nat.repeat f k m = m := by
        intro k
        induction k with
        | zero => rfl
        | succ k ih => simp [Nat.repeat, ih, still]
      exact (stays _).symm
    · rw [ih, shift]

end LiveMarkup.Pattern
