import LiveMarkup.Yaml.Scalar

/-!
The tokens of a YAML text. Indentation and the keys of mappings are no characters of their own, so
the reader keeps the columns of the open collections and the places at which a key may have begun.
-/

namespace LiveMarkup.Yaml

/-- How a scalar is written. -/
inductive Style where
  | plain
  | quoted
  | literal
  | folded
  deriving DecidableEq, Repr

/-- A tag, or a part of one: bytes, which need not make up characters. -/
abbrev Tag := List UInt8

/-- The tag that a text is. -/
def Tag.ofText (t : Text) : Tag :=
  t.flatMap String.utf8EncodeChar

inductive Token where
  | version (major minor : Nat)
  | tagHandle (handle : Text) (lead : Tag)
  | documentStart
  | documentEnd
  | blockList
  | blockRecord
  | blockEnd
  | flowListStart
  | flowListEnd
  | flowRecordStart
  | flowRecordEnd
  | blockEntry
  | flowEntry
  | key
  | value
  | reference (name : Text)
  | anchor (name : Text)
  | tag (handle : Text) (suffix : Tag)
  | scalar (style : Style) (text : Text)
  | streamEnd
  deriving DecidableEq, Repr

namespace Token

/-- A place where a key may have begun: the number of tokens before it, and where it is. A key is
required where nothing else may stand. -/
structure KeyPlace where
  required : Bool
  number : Nat
  offset : Nat
  line : Nat
  column : Nat

/-- The reader between two tokens. Tokens are kept last one first, and each level of brackets has
its own place for a key, the innermost first. The block that is open has the column `indent`. -/
structure Reader where
  cursor : Cursor
  tokens : List Token := []
  indent : Int := -1
  outer : List Int := []
  keyAllowed : Bool := true
  keys : List (Option KeyPlace) := [none]

namespace Reader

/-- Whether the reader is between brackets. -/
def inFlow (r : Reader) : Bool :=
  1 < r.keys.length

def emit (token : Token) (r : Reader) : Reader :=
  { r with tokens := token :: r.tokens }

/-- Puts a token behind the first `number` ones. -/
def insert (number : Nat) (token : Token) (r : Reader) : Reader :=
  let (later, earlier) := r.tokens.splitAt (r.tokens.length - number)
  { r with tokens := later ++ token :: earlier }

def skip (n : Nat) (r : Reader) : Reader :=
  { r with cursor := r.cursor.skip n }

def allowKey (allowed : Bool) (r : Reader) : Reader :=
  { r with keyAllowed := allowed }

/-- Goes on to the next token, past blanks, comments and line breaks. A line may begin with a mark
of the byte order, which takes a column. -/
def skipBlanks : Nat → Reader → Reader
  | 0, r => r
  | fuel + 1, r =>
    let c := r.cursor
    let c := if c.column == 0 && c.peek? == some byteOrderMark then c.skip 1 else c
    let c := c.skipWhile fun d => d == ' ' || (d == '\t' && (r.inFlow || ! r.keyAllowed))
    let c := if c.peek? == some '#' then c.skipLine else c
    if c.peek?.any isBreak then
      skipBlanks fuel { r with cursor := c.skipBreak, keyAllowed := r.keyAllowed || ! r.inFlow }
    else { r with cursor := c }

/-- Gives up the place for a key of the innermost level; a required key must not be given up. -/
def dropKey? (r : Reader) : Option Reader :=
  match r.keys with
  | some k :: outer => if k.required then none else some { r with keys := none :: outer }
  | _ => some r

/-- Whether a key that began at a place could still end: it takes one line and 1024 bytes. -/
def inReach (c : Cursor) (k : KeyPlace) : Bool :=
  k.line == c.line && c.offset ≤ k.offset + 1024

/-- Gives up the places of keys that got too long. -/
def dropStaleKeys? (r : Reader) : Option Reader := do
  let keys ← r.keys.mapM fun
    | none => some none
    | some k =>
      if inReach r.cursor k then some (some k) else if k.required then none else some none
  some { r with keys }

/-- Notes that a key may begin here. -/
def noteKey? (r : Reader) : Option Reader := do
  if r.keyAllowed then
    let required := ! r.inFlow && r.indent == r.cursor.column
    let r ← r.dropKey?
    let c := r.cursor
    some { r with
      keys := some ⟨required, r.tokens.length, c.offset, c.line, c.column⟩ :: r.keys.tail }
  else some r

/-- Closes the blocks that are indented deeper than a column. -/
def closeBlocks (column : Int) : List Int → Reader → Reader
  | [], r => r
  | outer :: rest, r =>
    if r.indent > column then
      closeBlocks column rest { r with
        indent := outer, outer := rest, tokens := .blockEnd :: r.tokens }
    else r

def closeTo (column : Int) (r : Reader) : Reader :=
  if r.inFlow then r else r.closeBlocks column r.outer

/-- Opens a block behind the first `number` tokens if the column is deeper than the open one. -/
def openBlock (column number : Nat) (token : Token) (r : Reader) : Reader :=
  if r.inFlow || r.indent ≥ column then r
  else { r with indent := column, outer := r.indent :: r.outer }.insert number token

/-- Opens a block at the cursor, where one may begin. -/
def openBlockHere? (token : Token) (r : Reader) : Option Reader :=
  if r.inFlow then some r
  else if r.keyAllowed then some (r.openBlock r.cursor.column r.tokens.length token)
  else none

def startFlow? (token : Token) (r : Reader) : Option Reader := do
  let r ← r.noteKey?
  some ({ r with keys := none :: r.keys, keyAllowed := true }.skip 1 |>.emit token)

def endFlow? (token : Token) (r : Reader) : Option Reader := do
  let r ← r.dropKey?
  let keys := if r.inFlow then r.keys.tail else r.keys
  some ({ r with keys := keys, keyAllowed := false }.skip 1 |>.emit token)

def flowEntry? (r : Reader) : Option Reader := do
  let r ← r.dropKey?
  some (r.allowKey true |>.skip 1 |>.emit .flowEntry)

def blockEntry? (r : Reader) : Option Reader := do
  let r ← r.openBlockHere? .blockList
  let r ← r.dropKey?
  some (r.allowKey true |>.skip 1 |>.emit .blockEntry)

/-- Reads the mark in front of a key of any length. -/
def markedKey? (r : Reader) : Option Reader := do
  let r ← r.openBlockHere? .blockRecord
  let r ← r.dropKey?
  some (r.allowKey (! r.inFlow) |>.skip 1 |>.emit .key)

/-- Reads the mark in front of a value. Where a key may have begun, it did. -/
def value? (r : Reader) : Option Reader :=
  match r.keys with
  | some k :: outer =>
    let r := { r with keys := none :: outer, keyAllowed := false }.insert k.number .key
    let r := r.openBlock k.column k.number .blockRecord
    some (r.skip 1 |>.emit .value)
  | _ => do
    let r ← r.openBlockHere? .blockRecord
    some (r.allowKey (! r.inFlow) |>.skip 1 |>.emit .value)

/-- Closes all blocks in front of what belongs to no document. -/
def endContent? (r : Reader) : Option Reader := do
  let r ← (r.closeTo (-1)).dropKey?
  some (r.allowKey false)

def marker? (token : Token) (r : Reader) : Option Reader := do
  let r ← r.endContent?
  some (r.skip 3 |>.emit token)

/-- The name of an anchor or an alias, and what follows it. -/
def anchorName? (t : Text) : Option (Text × Text) :=
  let name := t.takeWhile isNameChar
  let rest := t.dropWhile isNameChar
  let ends := blankOrEnd rest || rest.head?.any fun c => "?:,]\x7d%@`".toList.contains c
  if name.isEmpty || ! ends then none else some (name, rest)

def anchor? (token : Text → Token) (r : Reader) : Option Reader := do
  let r ← r.noteKey?
  let (name, rest) ← anchorName? r.cursor.rest.tail
  some ({ r with cursor := r.cursor.skipTo rest, keyAllowed := false }.emit (token name))

/-- The bytes that percent escapes stand for: a first one, and as many more as it asks for. Whether
they make up a character is not looked at. -/
def escapedBytes? : Text → Option (Tag × Text)
  | '%' :: a :: b :: rest => do
    let lead ← byte? a b
    let count ← if lead < 0x80 then some 0
      else if lead < 0xC0 then none
      else if lead < 0xE0 then some 1
      else if lead < 0xF0 then some 2
      else if lead < 0xF8 then some 3
      else none
    let (bytes, rest) ← more count rest
    some (lead :: bytes, rest)
  | _ => none
where
  byte? (a b : Char) : Option UInt8 := do
    let a ← Scalar.hexValue? a
    let b ← Scalar.hexValue? b
    some (16 * a + b).toUInt8
  more : Nat → Text → Option (Tag × Text)
    | 0, rest => some ([], rest)
    | k + 1, '%' :: a :: b :: rest => do
      let next ← byte? a b
      if next < 0x80 || 0xC0 ≤ next then none
      else
        let (bytes, rest) ← more k rest
        some (next :: bytes, rest)
    | _, _ => none

/-- The characters of the suffix of a tag; commas and brackets only where it is written in full. -/
def isTagChar (full : Bool) (c : Char) : Bool :=
  isNameChar c || ";/?:@&=+$.%!~*'()".toList.contains c || (full && ",[]".toList.contains c)

/-- Reads the suffix of a tag. -/
def tagSuffix? (full : Bool) : Nat → Text → Option (Tag × Text)
  | 0, t => some ([], t)
  | fuel + 1, t =>
    match t with
    | [] => some ([], [])
    | c :: rest =>
      if ! isTagChar full c then some ([], t)
      else do
        let (bytes, rest) ← if c == '%' then escapedBytes? t else some (Tag.ofText [c], rest)
        let (suffix, rest) ← tagSuffix? full fuel rest
        some (bytes ++ suffix, rest)

/-- The part of a tag that counts: a zero byte ends it. -/
def cutTag (tag : Tag) : Tag :=
  tag.takeWhile (· != 0)

/-- The handle in front of a tag: two exclamation marks with a name between them, or one mark and
the name that follows it. -/
def tagHandle (t : Text) : Text × Text :=
  let name := t.tail.takeWhile isNameChar
  match t.tail.dropWhile isNameChar with
  | '!' :: rest => ('!' :: name ++ ['!'], rest)
  | rest => ('!' :: name, rest)

/-- A tag in full, with a handle, or with the handle of the document's own tags. -/
def tagParts? : Text → Option (Text × Tag × Text)
  | '!' :: '<' :: t => do
    let (suffix, rest) ← tagSuffix? true t.length t
    match rest with
    | '>' :: rest => if suffix.isEmpty then none else some ([], cutTag suffix, rest)
    | _ => none
  | t => do
    let (handle, rest) := tagHandle t
    let (suffix, rest) ← tagSuffix? false rest.length rest
    if 1 < handle.length && handle.getLast? == some '!' then
      if suffix.isEmpty then none else some (handle, cutTag suffix, rest)
    else
      let suffix := cutTag (Tag.ofText handle.tail ++ suffix)
      if suffix.isEmpty then some ([], Tag.ofText ['!'], rest) else some (['!'], suffix, rest)

def tag? (r : Reader) : Option Reader := do
  let r ← r.noteKey?
  let (handle, suffix, rest) ← tagParts? r.cursor.rest
  if blankOrEnd rest || (r.inFlow && rest.head? == some ',') then
    some ({ r with cursor := r.cursor.skipTo rest, keyAllowed := false }.emit (.tag handle suffix))
  else none

def block? (style : Style) (r : Reader) : Option Reader := do
  let r ← r.dropKey?
  let (text, c) ← Scalar.block (style == .literal) r.indent (r.cursor.skip 1)
  some ({ r with cursor := c, keyAllowed := true }.emit (.scalar style text))

def quoted? (double : Bool) (r : Reader) : Option Reader := do
  let r ← r.noteKey?
  let (text, c) ← Scalar.quoted double r.cursor.rest.length (r.cursor.skip 1)
  some ({ r with cursor := c, keyAllowed := false }.emit (.scalar .quoted text))

def plain? (r : Reader) : Option Reader := do
  let r ← r.noteKey?
  let (text, broken, c) ←
    Scalar.plain r.inFlow (r.indent + 1) r.cursor.rest.length {} r.cursor
  some ({ r with cursor := c, keyAllowed := broken }.emit (.scalar .plain text))

/-- The number that a text begins with, of one to nine digits. -/
def number? (t : Text) : Option (Nat × Text) :=
  let digits := t.takeWhile Char.isDigit
  if digits.isEmpty || 9 < digits.length then none
  else some (digits.foldl (fun n d => 10 * n + (d.toNat - 48)) 0, t.dropWhile Char.isDigit)

/-- What a directive says: the version of the language, or what a handle of tags stands for. -/
def directiveParts? (t : Text) : Option (Token × Text) := do
  let name := t.takeWhile isNameChar
  let t := t.dropWhile isNameChar
  if ! blankOrEnd t then none
  let t := t.dropWhile isSpace
  if name == "YAML".toList then
    let (major, t) ← number? t
    match t with
    | '.' :: t =>
      let (minor, t) ← number? t
      some (.version major minor, t)
    | _ => none
  else if name == "TAG".toList then
    if t.head? != some '!' then none
    let (handle, t) := tagHandle t
    if handle != ['!'] && handle.getLast? != some '!' then none
    if ! t.head?.any isSpace then none
    let t := t.dropWhile isSpace
    let (lead, t) ← tagSuffix? true t.length t
    if lead.isEmpty || ! blankOrEnd t then none else some (.tagHandle handle (cutTag lead), t)
  else none

def directive? (r : Reader) : Option Reader := do
  let r ← r.endContent?
  let (token, rest) ← directiveParts? r.cursor.rest.tail
  let c ← (r.cursor.skipTo rest).endLine?
  some ({ r with cursor := c }.emit token)

/-- Whether a plain scalar can begin with a text. -/
def startsPlain (flow : Bool) (t : Text) : Bool :=
  match t with
  | [] => false
  | c :: rest =>
    if isBlank c then false
    else if c == '-' then ! rest.head?.any isSpace
    else if c == '?' || c == ':' then ! flow && ! blankOrEnd rest
    else ! ",[]\x7b\x7d#&*!|>'\"%@`".toList.contains c

/-- Reads the token at the cursor, in front of which nothing is left to skip. -/
def token? (r : Reader) : Option Reader :=
  let rest := r.cursor.rest
  let flow := r.inFlow
  let marks := flow || blankOrEnd rest.tail
  match rest with
  | [] => none
  | c :: _ =>
    if r.cursor.column == 0 && c == '%' then r.directive?
    else if r.cursor.atMarker && c == '-' then r.marker? .documentStart
    else if r.cursor.atMarker then r.marker? .documentEnd
    else if c == '[' then r.startFlow? .flowListStart
    else if c == '\x7b' then r.startFlow? .flowRecordStart
    else if c == ']' then r.endFlow? .flowListEnd
    else if c == '\x7d' then r.endFlow? .flowRecordEnd
    else if c == ',' then r.flowEntry?
    else if c == '-' && blankOrEnd rest.tail then r.blockEntry?
    else if c == '?' && marks then r.markedKey?
    else if c == ':' && marks then r.value?
    else if c == '*' then r.anchor? .reference
    else if c == '&' then r.anchor? .anchor
    else if c == '!' then r.tag?
    else if c == '|' && ! flow then r.block? .literal
    else if c == '>' && ! flow then r.block? .folded
    else if c == '\'' then r.quoted? false
    else if c == '"' then r.quoted? true
    else if startsPlain flow rest then r.plain?
    else none

/-- Reads all tokens. -/
def all? : Nat → Reader → Option (List Token)
  | 0, _ => none
  | fuel + 1, r => do
    let r := r.skipBlanks (r.cursor.rest.length + 1)
    let r ← r.dropStaleKeys?
    if r.cursor.rest.isEmpty then
      let r ← r.endContent?
      some (r.emit .streamEnd).tokens.reverse
    else
      let r ← (r.closeTo r.cursor.column).token?
      all? fuel r

end Reader

/-- The tokens of a text. -/
def scan? (t : Text) : Option (List Token) :=
  if t.all isAllowed then Reader.all? (t.length + 1) { cursor := ⟨t, 0, 0, 0⟩ } else none

end Token
end LiveMarkup.Yaml
