/-!
Text as a list of characters, and the blank characters at its ends.
-/

namespace LiveMarkup

/-- Unicode text. Lists of characters keep sources, paths and messages open to structural proofs. -/
abbrev Text := List Char

namespace Text

/-- The characters with the Unicode property White_Space. -/
def isBlank (c : Char) : Bool :=
  let n := c.toNat
  (9 ≤ n && n ≤ 13) || n == 32 || n == 0x85 || n == 0xA0 || n == 0x1680 ||
    (0x2000 ≤ n && n ≤ 0x200A) || n == 0x2028 || n == 0x2029 || n == 0x202F || n == 0x205F ||
    n == 0x3000

def trimStart (t : Text) : Text :=
  t.dropWhile isBlank

def trimEnd (t : Text) : Text :=
  (t.reverse.dropWhile isBlank).reverse

/-- Drops the blanks at both ends. -/
def trim (t : Text) : Text :=
  trimEnd (trimStart t)

/-- The bytes that a text takes in UTF-8. -/
def byteLength (t : Text) : Nat :=
  t.foldl (fun n c => n + c.utf8Size) 0

/-- The text that some bytes stand for in UTF-8. -/
def ofBytes? (bytes : List UInt8) : Option Text :=
  (String.fromUTF8? ⟨bytes.toArray⟩).map String.toList

/-- The lines in front of the first one that is no text, each with the break behind it. The bytes of
the line that is being read come in reverse. -/
def readableLines (line : List UInt8) : List UInt8 → Text
  | [] => []
  | b :: rest =>
    if b = 10 then (ofBytes? line.reverse).elim [] fun t => t ++ '\n' :: readableLines [] rest
    else readableLines (b :: line) rest

/-- Whether the first character that is not blank is `<`. -/
def looksLikeMarkup (t : Text) : Bool :=
  (trimStart t).head? == some '<'

/-- What follows `front` in a text that begins with it. -/
def after? : Text → Text → Option Text
  | [], t => some t
  | _ :: _, [] => none
  | c :: front, d :: t => if c = d then after? front t else none

/-- Whether `piece` occurs in the text. -/
def occursIn (piece : Text) : Text → Bool
  | [] => piece.isEmpty
  | c :: t => (after? piece (c :: t)).isSome || occursIn piece t

theorem after?_append (front t : Text) : after? front (front ++ t) = some t := by
  induction front with
  | nil => rfl
  | cons c front ih => simp [after?, ih]

theorem eq_append_of_after? {front t rest : Text} (h : after? front t = some rest) :
    t = front ++ rest := by
  induction front generalizing t with
  | nil => simpa [after?] using h
  | cons c front ih =>
    cases t with
    | nil => simp [after?] at h
    | cons d t =>
      by_cases hc : c = d
      · simp only [after?, hc, if_true] at h
        simp [hc, ih h]
      · simp [after?, hc] at h

end Text
end LiveMarkup
