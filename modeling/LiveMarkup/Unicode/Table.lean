import LiveMarkup.CharSet

/-!
Tables over the code points. A table gives the lengths of runs of code points that are alike, from
the first code point on, so that it stays short.
-/

namespace LiveMarkup.Unicode

/-- Reads the bounds of a set: the length of each run is followed by a sign, `-` when the run lies
outside of the set and `+` when it lies inside. -/
def readBounds (place length : Nat) : Text → List Nat
  | [] => []
  | c :: t =>
    if c.isDigit then readBounds place (length * 10 + (c.toNat - 48)) t
    else (place + length) :: readBounds (place + length) 0 t

/-- The set of a table, from the lines of its text. -/
def table (lines : List String) : CharSet :=
  ⟨readBounds 0 0 (lines.flatMap String.toList)⟩

/-- Code points with one value, from the first to the one past the last. -/
structure Run where
  first : Nat
  past : Nat
  value : Text
  deriving DecidableEq, Repr

/-- Reads runs with their values: the length of each is followed by its value, a word that begins
with a capital. A run of one code point gives no length. -/
def readRuns (place length : Nat) (value : Text) : Text → List Run
  | [] => [⟨place, place + max length 1, value⟩]
  | c :: t =>
    if c.isLower then readRuns place length (value ++ [c]) t
    else if value.isEmpty then
      if c.isDigit then readRuns place (length * 10 + (c.toNat - 48)) [] t
      else readRuns place length [c] t
    else
      let past := place + max length 1
      ⟨place, past, value⟩ ::
        (if c.isDigit then readRuns past (c.toNat - 48) [] t else readRuns past 0 [c] t)

/-- The runs of a table, from the lines of its text. -/
def runs (lines : List String) : List Run :=
  readRuns 0 0 [] (lines.flatMap String.toList)

/-- The code points whose value is as asked for. -/
def select (runs : List Run) (asked : Text → Bool) : CharSet :=
  .ofRuns ((runs.filter (asked ·.value)).map fun r => (r.first, r.past))

end LiveMarkup.Unicode
