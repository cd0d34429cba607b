import LiveMarkup.CharSet

/-!
The bytes of characters. A set of characters is read byte by byte as a choice between sequences of
byte ranges.
-/

namespace LiveMarkup.Pattern

/-- The bytes of a code point in UTF-8. -/
def bytesOf (n : Nat) : List Nat :=
  if n < 0x80 then [n]
  else if n < 0x800 then [0xC0 + n / 64, 0x80 + n % 64]
  else if n < 0x10000 then [0xE0 + n / 4096, 0x80 + n / 64 % 64, 0x80 + n % 64]
  else [0xF0 + n / 262144, 0x80 + n / 4096 % 64, 0x80 + n / 64 % 64, 0x80 + n % 64]

/-- The bytes of a text. -/
def bytesOfText (t : Text) : List Nat :=
  t.flatMap fun c => bytesOf c.toNat

/-- From the first byte to the last. -/
abbrev ByteRange := Nat × Nat

/-- Splits a run of code points, so that in each piece the last bytes go through all their values
wherever the bytes in front of them differ. A step cuts at blocks of a size, and leaves what lies
between the first and the last whole block to blocks of the next size. -/
def pieces (size : Nat) : Nat → Nat → Nat → List (Nat × Nat)
  | 0, first, last => [(first, last)]
  | levels + 1, first, last =>
    if first / size = last / size then [(first, last)]
    else
      let low := (first + size - 1) / size * size
      let past := (last + 1) / size * size
      (if first < low then [(first, low - 1)] else []) ++
        (if low < past then pieces (size * 64) levels low (past - 1) else []) ++
        (if past ≤ last then [(past, last)] else [])

/-- The part of a run that lies between two code points, in pieces. -/
def piecesWithin (low high levels : Nat) (run : Nat × Nat) : List (Nat × Nat) :=
  let first := max low run.1
  let last := min high run.2
  if first ≤ last then pieces 64 levels first last else []

/-- The byte sequences of a run of code points, shorter ones first. -/
def sequencesOfRun (run : Nat × Nat) : List (List ByteRange) :=
  (piecesWithin 0 0x7F 0 run ++ piecesWithin 0x80 0x7FF 3 run ++
    piecesWithin 0x800 0xFFFF 3 run ++ piecesWithin 0x10000 0x10FFFF 3 run).map
      fun (first, last) => List.zip (bytesOf first) (bytesOf last)

/-- The byte sequences of the members of a set, in ascending order. -/
def sequences (s : CharSet) : List (List ByteRange) :=
  s.runs.flatMap sequencesOfRun

end LiveMarkup.Pattern
