import LiveMarkup.Pattern.ClassName
import LiveMarkup.Pattern.Expr
import LiveMarkup.Pattern.Flags

/-!
Escapes: what stands behind a backslash.
-/

namespace LiveMarkup.Pattern

/-- One item outside of brackets, or one end of a range inside. -/
inductive Item where
  /-- A character; `isByte` when it is written as two hexadecimal digits. -/
  | literal (c : Char) (isByte : Bool)
  | charClass (s : CharSet)
  | look (l : Look)
  | anyChar

def hexValue? (c : Char) : Option Nat :=
  if c.isDigit then some (c.toNat - 48)
  else if 'a' ≤ c && c ≤ 'f' then some (c.toNat - 87)
  else if 'A' ≤ c && c ≤ 'F' then some (c.toNat - 55)
  else none

/-- The number that hexadecimal digits go on with. -/
def hexNumber? (n : Nat) : Text → Option Nat
  | [] => some n
  | c :: t => do
    let d ← hexValue? c
    hexNumber? (n * 16 + d) t

/-- The character of a code point that is one. -/
def char? (n : Nat) : Option Char :=
  if n < 0xD800 || (0xE000 ≤ n && n < 0x110000) then some (Char.ofNat n) else none

/-- A fixed number of characters. -/
def readFixed (f : Flags) : Nat → Text → Option (Text × Text)
  | 0, t => some ([], t)
  | _ + 1, [] => none
  | k + 1, c :: t => (readFixed f k (skip f t)).map fun (cs, t) => (c :: cs, t)

/-- A character by its code point, in a number of digits or between braces. -/
def readCodePoint (f : Flags) (count : Nat) (t : Text) : Option (Item × Text) :=
  match skip f t with
  | '\x7b' :: t => do
    let (digits, t) ← readBraced f false t
    let c ← char? (← hexNumber? 0 digits)
    if digits.isEmpty then none else some (.literal c false, skip f t)
  | t => do
    let (digits, t) ← readFixed f count t
    let c ← char? (← hexNumber? 0 digits)
    some (.literal c (count == 2), t)

/-- A set that is named by one letter. Without Unicode a set must be ASCII, so it has no
complement. -/
def letterClass? (f : Flags) (letter : Char) : Option CharSet :=
  let pick (full ascii : CharSet) := if f.unicode then full else ascii
  let negated (s : CharSet) := if f.unicode then some s.compl else none
  match letter with
  | 'd' => some (pick Unicode.digit asciiDigit)
  | 's' => some (pick Unicode.whiteSpace asciiBlank)
  | 'w' => some (pick Unicode.word asciiWord)
  | 'D' => negated Unicode.digit
  | 'S' => negated Unicode.whiteSpace
  | 'W' => negated Unicode.word
  | _ => none

/-- A set by category, script or property. Such sets need Unicode. -/
def readUnicodeClass (f : Flags) (negated : Bool) (t : Text) : Option (Item × Text) :=
  if ! f.unicode then none
  else do
    let ((s, turned), t) ← match skip f t with
      | '\x7b' :: t => do
        let (inside, t) ← readBraced f false t
        some (← classBraced? inside, t)
      | '\\' :: _ => none
      | c :: t => do some ((← Unicode.category? (plainName [c]), false), skip f t)
      | [] => none
    let s := f.fold s
    some (.charClass (if negated = turned then s else s.compl), t)

/-- Whether a character may be escaped to stand for itself. -/
def isEscapable (c : Char) : Bool :=
  c.toNat < 128 && ! c.isAlphanum && c != '<' && c != '>'

/-- What follows `\b`: the name of a place between braces, or nothing of the kind. -/
def readEdge (f : Flags) (t : Text) : Option (Look × Text) :=
  let ascii := ! f.unicode
  match t with
  | '\x7b' :: inside =>
    match skip f inside with
    | [] => none
    | c :: _ =>
      if ! (c.isAlpha || c == '-') then some (.wordEdge ascii, t)
      else do
        let (name, t) ← readBraced f false inside
        if name = "start".toList then some (.wordStart ascii, t)
        else if name = "end".toList then some (.wordFinish ascii, t)
        else if name = "start-half".toList then some (.notAfterWord ascii, t)
        else if name = "end-half".toList then some (.notBeforeWord ascii, t)
        else none
  | t => some (.wordEdge ascii, t)

/-- What follows a backslash. -/
def readEscape (f : Flags) : Text → Option (Item × Text)
  | [] => none
  | c :: t =>
    if c.isDigit then none
    else if c = 'x' then readCodePoint f 2 t
    else if c = 'u' then readCodePoint f 4 t
    else if c = 'U' then readCodePoint f 8 t
    else if c = 'p' then readUnicodeClass f false t
    else if c = 'P' then readUnicodeClass f true t
    else if ['d', 's', 'w', 'D', 'S', 'W'].contains c then
      (letterClass? f c).map fun s => (.charClass s, t)
    else if isEscapable c then some (.literal c false, t)
    else match c with
      | 'a' => some (.literal '\x07' false, t)
      | 'f' => some (.literal '\x0c' false, t)
      | 't' => some (.literal '\t' false, t)
      | 'n' => some (.literal '\n' false, t)
      | 'r' => some (.literal '\r' false, t)
      | 'v' => some (.literal '\x0b' false, t)
      | 'A' => some (.look .start, t)
      | 'z' => some (.look .finish, t)
      | 'b' => (readEdge f t).map fun (l, t) => (.look l, t)
      | 'B' => some (.look (.noWordEdge (! f.unicode)), t)
      | '<' => some (.look (.wordStart (! f.unicode)), t)
      | '>' => some (.look (.wordFinish (! f.unicode)), t)
      | _ => none

end LiveMarkup.Pattern
