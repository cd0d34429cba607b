import LiveMarkup.Unicode.Folding

/-!
The flags of a pattern, and what they do to its text: with one of them, blanks and comments stand
between the parts of a pattern without a meaning.
-/

namespace LiveMarkup.Pattern

/-- How the items of a pattern are read. -/
structure Flags where
  ignoreCase : Bool := false
  multiLine : Bool := false
  dotAll : Bool := false
  spaced : Bool := false
  crlf : Bool := false
  /-- Whether a repetition prefers few where nothing is said. -/
  lazy : Bool := false
  unicode : Bool := true
  deriving DecidableEq, Repr

namespace Flags

/-- The flags with one of them set. -/
def set? (f : Flags) (letter : Char) (value : Bool) : Option Flags :=
  match letter with
  | 'i' => some { f with ignoreCase := value }
  | 'm' => some { f with multiLine := value }
  | 's' => some { f with dotAll := value }
  | 'U' => some { f with lazy := value }
  | 'u' => some { f with unicode := value }
  | 'R' => some { f with crlf := value }
  | 'x' => some { f with spaced := value }
  | _ => none

/-- Flags up to `:` or `)`. No letter comes twice, and the sign `-` comes once and not last. -/
def read? (f : Flags) (seen : Text) : Text → Option (Flags × Text × Text)
  | [] => none
  | c :: t =>
    if c = ':' || c = ')' then
      if seen.head? == some '-' then none else some (f, seen, c :: t)
    else if seen.contains c then none
    else if c = '-' then read? f (c :: seen) t
    else do
      let f ← f.set? c (! seen.contains '-')
      read? f (c :: seen) t

/-- The set with the characters that differ from a member in case alone. Without Unicode, only ASCII
letters have a case. -/
def fold (f : Flags) (s : CharSet) : CharSet :=
  if ! f.ignoreCase then s
  else if f.unicode then Unicode.folded s
  else s ∪ Unicode.shifted s (0x41, 0x5A, 0x20)

/-- The set of a character, and of those that differ from it in case alone. -/
def variants (f : Flags) (c : Char) : CharSet :=
  if ! f.ignoreCase then .ofList [c.toNat]
  else if f.unicode then Unicode.caseVariants c
  else f.fold (.ofList [c.toNat])

end Flags

/-- Drops blanks, and comments from `#` to the end of the line. -/
def dropSpaced (comment : Bool) : Text → Text
  | [] => []
  | c :: t =>
    if comment then dropSpaced (c != '\n') t
    else if Text.isBlank c then dropSpaced false t
    else if c = '#' then dropSpaced true t
    else c :: t

/-- Goes to the next character that means something. -/
def skip (f : Flags) (t : Text) : Text :=
  if f.spaced then dropSpaced false t else t

/-- The character that is seen after blanks and a `#`. -/
def peek (f : Flags) (t : Text) : Option Char :=
  if f.spaced then
    match t.dropWhile Text.isBlank with
    | '#' :: rest => (rest.dropWhile Text.isBlank).head?
    | rest => rest.head?
  else t.head?

/-- What stands up to a closing brace, without blanks and comments where they mean nothing. -/
def readBraced (f : Flags) (comment : Bool) : Text → Option (Text × Text)
  | [] => none
  | c :: t =>
    if comment then readBraced f (c != '\n') t
    else if f.spaced && Text.isBlank c then readBraced f false t
    else if f.spaced && c = '#' then readBraced f true t
    else if c = '\x7d' then some ([], t)
    else (readBraced f false t).map fun (inside, rest) => (c :: inside, rest)

end LiveMarkup.Pattern
