import LiveMarkup.Text

/-!
A place in a YAML text, and the characters that matter to its layout.
-/

namespace LiveMarkup.Yaml

/-- What is left of a text, and where in the text that begins: how many bytes lie before it, and its
line and column, which count from zero. -/
structure Cursor where
  rest : Text
  offset : Nat := 0
  line : Nat := 0
  column : Nat := 0
  deriving DecidableEq, Repr

/-- A blank or a tab. -/
def isSpace (c : Char) : Bool :=
  c == ' ' || c == '\t'

def isBreak (c : Char) : Bool :=
  c == '\n' || c == '\r' || c == '\u0085' || c == '\u2028' || c == '\u2029'

def isBlank (c : Char) : Bool :=
  isSpace c || isBreak c

/-- The characters of which names of anchors and tags are made. -/
def isNameChar (c : Char) : Bool :=
  c.isAlphanum || c == '_' || c == '-'

/-- The characters that a document may hold. -/
def isAllowed (c : Char) : Bool :=
  let n := c.toNat
  c == '\t' || c == '\n' || c == '\r' || (0x20 ≤ n && n ≤ 0x7E) || n == 0x85 ||
    (0xA0 ≤ n && n ≤ 0xFFFD) || 0x10000 ≤ n

/-- The mark that says in which order bytes are written; it says nothing in decoded text. -/
def byteOrderMark : Char := '\ufeff'

/-- Whether a text begins with a blank character or is at its end. -/
def blankOrEnd : Text → Bool
  | [] => true
  | c :: _ => isBlank c

/-- Whether a text begins with the marker of a document's start or end. -/
def atMarker : Text → Bool
  | '-' :: '-' :: '-' :: rest => blankOrEnd rest
  | '.' :: '.' :: '.' :: rest => blankOrEnd rest
  | _ => false

/-- What a line break stands for: the two separators of Unicode stand for themselves. -/
def breakText (c : Char) : Text :=
  if c == '\u2028' || c == '\u2029' then [c] else ['\n']

namespace Cursor

def peek? (c : Cursor) : Option Char :=
  c.rest.head?

/-- Goes on by a number of characters of the same line. -/
def skip (n : Nat) (c : Cursor) : Cursor :=
  ⟨c.rest.drop n, c.offset + Text.byteLength (c.rest.take n), c.line, c.column + n⟩

/-- Goes on to a later place of the same line, given by what is left there. -/
def skipTo (rest : Text) (c : Cursor) : Cursor :=
  c.skip (c.rest.length - rest.length)

/-- Goes on behind a line break; a carriage return and a line feed are one. -/
def skipBreak (c : Cursor) : Cursor :=
  match c.rest with
  | '\r' :: '\n' :: rest => ⟨rest, c.offset + 2, c.line + 1, 0⟩
  | d :: rest => ⟨rest, c.offset + d.utf8Size, c.line + 1, 0⟩
  | [] => c

/-- Goes on as long as the characters are of a kind that leaves the line. -/
def skipWhile (p : Char → Bool) (c : Cursor) : Cursor :=
  c.skipTo (c.rest.dropWhile p)

/-- Goes on to the end of the line. -/
def skipLine (c : Cursor) : Cursor :=
  c.skipWhile fun d => ! isBreak d

def atMarker (c : Cursor) : Bool :=
  c.column == 0 && Yaml.atMarker c.rest

/-- Goes on to the next line, past blanks and a comment, where there is nothing else on this one. -/
def endLine? (c : Cursor) : Option Cursor :=
  let c := c.skipWhile isSpace
  let c := if c.peek? == some '#' then c.skipLine else c
  match c.rest with
  | [] => some c
  | d :: _ => if isBreak d then some c.skipBreak else none

end Cursor
end LiveMarkup.Yaml
