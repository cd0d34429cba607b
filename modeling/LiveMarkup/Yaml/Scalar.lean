import LiveMarkup.Yaml.Cursor

/-!
The texts of scalars: words with the gaps between them, in plain and in quoted style, and blocks of
lines. A gap with line breaks is folded to a blank or to what is left of its breaks.
-/

namespace LiveMarkup.Yaml

/-- What is between two words of a scalar: blanks, or line breaks with the blanks around them. -/
structure Gap where
  blanks : Text := []
  broken : Bool := false
  firstBreak : Text := []
  moreBreaks : Text := []

namespace Gap

/-- Joins a first break and more of them as folding has it. -/
def fold (firstBreak moreBreaks : Text) : Text :=
  if firstBreak == ['\n'] then
    if moreBreaks.isEmpty then [' '] else moreBreaks
  else firstBreak ++ moreBreaks

/-- What the gap stands for. -/
def text (g : Gap) : Text :=
  if g.broken then fold g.firstBreak g.moreBreaks else g.blanks

/-- Reads on to the next character that is not blank. A tab in the indentation of a line is refused
in front of column `tabLimit`. -/
def read (tabLimit : Int) : Nat → Gap → Cursor → Option (Gap × Cursor)
  | 0, g, c => some (g, c)
  | fuel + 1, g, c =>
    match c.rest with
    | [] => some (g, c)
    | d :: _ =>
      if isSpace d then
        if g.broken && c.column < tabLimit && d == '\t' then none
        else if g.broken then read tabLimit fuel g (c.skip 1)
        else read tabLimit fuel { g with blanks := g.blanks ++ [d] } (c.skip 1)
      else if isBreak d then
        if g.broken then
          read tabLimit fuel { g with moreBreaks := g.moreBreaks ++ breakText d } c.skipBreak
        else read tabLimit fuel { g with broken := true, firstBreak := breakText d } c.skipBreak
      else some (g, c)

end Gap

namespace Scalar

/-- The characters that end a plain scalar between brackets. -/
def isFlowIndicator (c : Char) : Bool :=
  c == ',' || c == '[' || c == ']' || c == '\x7b' || c == '\x7d'

/-- The characters of a plain scalar up to a blank or to what ends the scalar. Between brackets, a
colon right before an indicator is refused. -/
def word? (flow : Bool) : Text → Option Text
  | [] => some []
  | c :: rest =>
    if isBlank c then some []
    else if flow && c == ':' && rest.head?.any (fun d => isFlowIndicator d || d == '?') then none
    else if c == ':' && blankOrEnd rest then some []
    else if flow && isFlowIndicator c then some []
    else (word? flow rest).map (c :: ·)

/-- Reads the words of a plain scalar that is indented to at least `indent`. The truth value says
whether the scalar was ended by a line break. -/
def plain (flow : Bool) (indent : Int) : Nat → Gap → Cursor → Option (Text × Bool × Cursor)
  | 0, g, c => some ([], g.broken, c)
  | fuel + 1, g, c =>
    if c.atMarker || c.peek? == some '#' then some ([], g.broken, c)
    else do
      let word ← word? flow c.rest
      if word.isEmpty then some ([], g.broken, c)
      else
        let text := g.text ++ word
        let c := c.skip word.length
        if c.peek?.any isBlank then
          let (g, c) ← Gap.read indent c.rest.length {} c
          if ! flow && c.column < indent then some (text, g.broken, c)
          else
            let (more, broken, c) ← plain flow indent fuel g c
            some (text ++ more, broken, c)
        else some (text, false, c)

/-- The character that an escape of one letter stands for. -/
def unescape? : Char → Option Char
  | '0' => some '\x00'
  | 'a' => some '\x07'
  | 'b' => some '\x08'
  | 't' => some '\t'
  | '\t' => some '\t'
  | 'n' => some '\n'
  | 'v' => some '\x0b'
  | 'f' => some '\x0c'
  | 'r' => some '\r'
  | 'e' => some '\x1b'
  | ' ' => some ' '
  | '"' => some '"'
  | '/' => some '/'
  | '\\' => some '\\'
  | 'N' => some '\u0085'
  | '_' => some '\u00a0'
  | 'L' => some '\u2028'
  | 'P' => some '\u2029'
  | _ => none

def hexValue? (c : Char) : Option Nat :=
  let n := c.toNat
  if 48 ≤ n && n ≤ 57 then some (n - 48)
  else if 97 ≤ n && n ≤ 102 then some (n - 87)
  else if 65 ≤ n && n ≤ 70 then some (n - 55)
  else none

/-- The character with a hexadecimal code, which must not be half of a surrogate pair. -/
def codePoint? (digits : Text) : Option Char := do
  let n ← digits.foldlM (fun n d => (hexValue? d).map (16 * n + ·)) 0
  if n < 0xD800 || (0xDFFF < n && n ≤ 0x10FFFF) then some (Char.ofNat n) else none

/-- The characters of a single quoted scalar up to a blank or its end. -/
def singleQuoted : Text → Text × Text
  | '\'' :: '\'' :: rest =>
    let (t, rest) := singleQuoted rest
    ('\'' :: t, rest)
  | '\'' :: rest => ([], '\'' :: rest)
  | c :: rest =>
    if isBlank c then ([], c :: rest)
    else
      let (t, rest) := singleQuoted rest
      (c :: t, rest)
  | [] => ([], [])

/-- The characters of a double quoted scalar up to a blank, its end or an escaped line break, which
the truth value tells. -/
def doubleQuoted : Text → Option (Text × Bool × Text)
  | '"' :: rest => some ([], false, '"' :: rest)
  | '\\' :: 'x' :: a :: b :: rest => do
    let d ← codePoint? [a, b]
    let (t, folded, rest) ← doubleQuoted rest
    some (d :: t, folded, rest)
  | '\\' :: 'u' :: a :: b :: c :: d :: rest => do
    let d ← codePoint? [a, b, c, d]
    let (t, folded, rest) ← doubleQuoted rest
    some (d :: t, folded, rest)
  | '\\' :: 'U' :: a :: b :: c :: d :: e :: f :: g :: h :: rest => do
    let d ← codePoint? [a, b, c, d, e, f, g, h]
    let (t, folded, rest) ← doubleQuoted rest
    some (d :: t, folded, rest)
  | '\\' :: e :: rest =>
    if isBreak e then some ([], true, e :: rest)
    else do
      let d ← unescape? e
      let (t, folded, rest) ← doubleQuoted rest
      some (d :: t, folded, rest)
  | ['\\'] => none
  | c :: rest =>
    if isBlank c then some ([], false, c :: rest)
    else do
      let (t, folded, rest) ← doubleQuoted rest
      some (c :: t, folded, rest)
  | [] => some ([], false, [])

/-- The next word of a quoted scalar. -/
def quotedWord? (double : Bool) (t : Text) : Option (Text × Bool × Text) :=
  if double then doubleQuoted t
  else
    let (word, rest) := singleQuoted t
    some (word, false, rest)

/-- Reads a quoted scalar after its opening quote. -/
def quoted (double : Bool) : Nat → Cursor → Option (Text × Cursor)
  | 0, _ => none
  | fuel + 1, c =>
    if c.atMarker || c.rest.isEmpty then none
    else do
      let (word, folded, rest) ← quotedWord? double c.rest
      let c := c.skipTo rest
      let c := if folded then c.skipBreak else c
      if c.peek? == some (if double then '"' else '\'') then some (word, c.skip 1)
      else
        let (g, c) ← Gap.read (-1) c.rest.length { broken := folded } c
        let (more, c) ← quoted double fuel c
        some (word ++ g.text ++ more, c)

/-- What becomes of the line breaks at the end of a block. -/
inductive Chomp where
  | strip
  | clip
  | keep

/-- The head of a block: how it ends, and by how much it is indented if it says so. -/
structure Head where
  chomp : Chomp := .clip
  increment : Option Nat := none

def chomp? : Char → Option Chomp
  | '+' => some .keep
  | '-' => some .strip
  | _ => none

/-- The indentation that a digit asks for. -/
def increment? (c : Char) : Option Nat :=
  if c.isDigit then some (c.toNat - 48) else none

/-- Reads a head; both of its parts may be missing and come in either order. -/
def head (t : Text) : Head × Nat :=
  match t with
  | [] => ({}, 0)
  | a :: rest =>
    match chomp? a, increment? a with
    | some chomp, _ =>
      match rest.head?.bind increment? with
      | some n => (⟨chomp, some n⟩, 2)
      | none => (⟨chomp, none⟩, 1)
    | none, some n =>
      match rest.head?.bind chomp? with
      | some chomp => (⟨chomp, some n⟩, 2)
      | none => (⟨.clip, some n⟩, 1)
    | none, none => ({}, 0)

/-- Reads the empty lines in front of a line of a block, and the indentation of that line up to
that of the block. While the block has none, the deepest indentation is noted. A tab in the
indentation is refused. -/
def emptyLines (indent : Option Nat) : Nat → Nat → Cursor → Option (Text × Nat × Cursor)
  | 0, deepest, c => some ([], deepest, c)
  | fuel + 1, deepest, c =>
    let spaces := (c.rest.takeWhile (· == ' ')).length
    let c := c.skip (match indent with
      | none => spaces
      | some n => min spaces (n - c.column))
    let deepest := max deepest c.column
    match c.rest with
    | [] => some ([], deepest, c)
    | d :: _ =>
      if d == '\t' && indent.all (c.column < ·) then none
      else if isBreak d then do
        let (breaks, deepest, c) ← emptyLines indent fuel deepest c.skipBreak
        some (breakText d ++ breaks, deepest, c)
      else some ([], deepest, c)

/-- The lines of a block so far: their text, and the breaks that follow it. -/
structure Lines where
  text : Text := []
  lastBreak : Text := []
  moreBreaks : Text := []
  startsBlank : Bool := false

/-- Appends a line. In a folded block, a break between two lines that begin with no blank is
folded. -/
def Lines.add (literal : Bool) (b : Lines) (line : Text) (lastBreak moreBreaks : Text) : Lines :=
  let blank := line.head?.any isSpace
  let joint :=
    if ! literal && b.lastBreak == ['\n'] && ! b.startsBlank && ! blank then
      Gap.fold b.lastBreak b.moreBreaks
    else b.lastBreak ++ b.moreBreaks
  ⟨b.text ++ joint ++ line, lastBreak, moreBreaks, blank⟩

/-- Reads the lines of a block. -/
def lines (literal : Bool) (indent : Nat) : Nat → Lines → Cursor → Option (Lines × Cursor)
  | 0, b, c => some (b, c)
  | fuel + 1, b, c =>
    if c.column != indent || c.rest.isEmpty then some (b, c)
    else do
      let line := c.rest.takeWhile fun d => ! isBreak d
      let c := c.skip line.length
      let lastBreak := (c.peek?.map breakText).getD []
      let c := c.skipBreak
      let (breaks, _, c) ← emptyLines (some indent) c.rest.length 0 c
      lines literal indent fuel (b.add literal line lastBreak breaks) c

/-- Reads a block after its indicator, in a collection that is indented to `parent`. -/
def block (literal : Bool) (parent : Int) (c : Cursor) : Option (Text × Cursor) := do
  let (head, length) := head c.rest
  if head.increment == some 0 then none
  let c ← (c.skip length).endLine?
  let given := head.increment.map fun n => (max parent 0).toNat + n
  let (breaks, deepest, c) ← emptyLines given (c.rest.length + 1) 0 c
  let indent := given.getD (max deepest (max (parent + 1).toNat 1))
  let (b, c) ← lines literal indent (c.rest.length + 1) { moreBreaks := breaks } c
  match head.chomp with
  | .strip => some (b.text, c)
  | .clip => some (b.text ++ b.lastBreak, c)
  | .keep => some (b.text ++ b.lastBreak ++ b.moreBreaks, c)

end Scalar
end LiveMarkup.Yaml
