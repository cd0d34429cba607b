import LiveMarkup.Json

/-!
Reading JSON text. The reader takes the grammar alone: how deep values may nest, which numbers fit
and which strings name a text is asked when a value is used.
-/

namespace LiveMarkup.Json

def isBlank (c : Char) : Bool :=
  c == ' ' || c == '\n' || c == '\t' || c == '\r'

def skipBlanks (t : Text) : Text :=
  t.dropWhile isBlank

theorem skipBlanks_cons {c : Char} (mark : isBlank c = false) (t : Text) :
    skipBlanks (c :: t) = c :: t :=
  List.dropWhile_cons_of_neg (by simp [mark])

/-- A character of a string, or a sixteen-bit unit that is written as an escape. -/
inductive Piece where
  | char (c : Char)
  | unit (n : Nat)

def hexValue? (c : Char) : Option Nat :=
  let n := c.toNat
  if 48 ≤ n && n ≤ 57 then some (n - 48)
  else if 97 ≤ n && n ≤ 102 then some (n - 87)
  else if 65 ≤ n && n ≤ 70 then some (n - 55)
  else none

def hexUnit? (a b c d : Char) : Option Nat := do
  let a ← hexValue? a
  let b ← hexValue? b
  let c ← hexValue? c
  let d ← hexValue? d
  some (((a * 16 + b) * 16 + c) * 16 + d)

/-- The character that a short escape names. -/
def unescape? : Char → Option Char
  | '"' => some '"'
  | '\\' => some '\\'
  | '/' => some '/'
  | 'b' => some '\x08'
  | 'f' => some '\x0c'
  | 'n' => some '\n'
  | 'r' => some '\r'
  | 't' => some '\t'
  | _ => none

/-- The pieces of a string after its opening quote, and what follows the closing one. -/
def pieces : Text → Option (List Piece × Text)
  | [] => none
  | '"' :: rest => some ([], rest)
  | '\\' :: 'u' :: a :: b :: c :: d :: rest => do
    let n ← hexUnit? a b c d
    let (ps, rest) ← pieces rest
    some (.unit n :: ps, rest)
  | '\\' :: e :: rest => do
    let c ← unescape? e
    let (ps, rest) ← pieces rest
    some (.char c :: ps, rest)
  | c :: rest =>
    if c.toNat < 32 then none
    else do
      let (ps, rest) ← pieces rest
      some (.char c :: ps, rest)

def isHighSurrogate (n : Nat) : Bool :=
  0xD800 ≤ n && n < 0xDC00

def isLowSurrogate (n : Nat) : Bool :=
  0xDC00 ≤ n && n < 0xE000

/-- The text of a string; a high surrogate unit needs a low one right after it. -/
def textOf? : List Piece → Option Text
  | [] => some []
  | .char c :: ps => (textOf? ps).map (c :: ·)
  | .unit n :: .unit m :: ps =>
    if isHighSurrogate n then
      if isLowSurrogate m then
        (textOf? ps).map (Char.ofNat (0x10000 + (n - 0xD800) * 1024 + (m - 0xDC00)) :: ·)
      else none
    else if isLowSurrogate n then none
    else (textOf? (.unit m :: ps)).map (Char.ofNat n :: ·)
  | .unit n :: ps =>
    if isHighSurrogate n || isLowSurrogate n then none
    else (textOf? ps).map (Char.ofNat n :: ·)

/-- A string after its opening quote. -/
def readString (t : Text) : Option (Option Text × Text) := do
  let (ps, rest) ← pieces t
  some (textOf? ps, rest)

/-- At least one digit. -/
def digits? (t : Text) : Option (Text × Text) :=
  let ds := t.takeWhile Char.isDigit
  if ds.isEmpty then none else some (ds, t.dropWhile Char.isDigit)

/-- The digits before the point: a zero stands alone. -/
def whole? : Text → Option (Text × Text)
  | '0' :: rest => some (['0'], rest)
  | t => digits? t

def fraction? : Text → Option (Text × Text)
  | '.' :: rest => (digits? rest).map fun (ds, rest) => ('.' :: ds, rest)
  | t => some ([], t)

def exponent? : Text → Option (Text × Text)
  | c :: rest =>
    if c = 'e' || c = 'E' then
      match rest with
      | '+' :: rest => (digits? rest).map fun (ds, rest) => ('e' :: '+' :: ds, rest)
      | '-' :: rest => (digits? rest).map fun (ds, rest) => ('e' :: '-' :: ds, rest)
      | rest => (digits? rest).map fun (ds, rest) => ('e' :: ds, rest)
    else some ([], c :: rest)
  | [] => some ([], [])

def readNumber (t : Text) : Option (Text × Text) := do
  let (sign, t) := match t with
    | '-' :: rest => (['-'], rest)
    | t => ([], t)
  let (whole, t) ← whole? t
  let (fraction, t) ← fraction? t
  let (exponent, t) ← exponent? t
  some (sign ++ whole ++ fraction ++ exponent, t)

mutual

/-- Reads one value at the front of a text that starts with no blank. -/
def readValue : Nat → Text → Option (Json × Text)
  | 0, _ => none
  | _ + 1, 'n' :: 'u' :: 'l' :: 'l' :: rest => some (null, rest)
  | _ + 1, 't' :: 'r' :: 'u' :: 'e' :: rest => some (bool true, rest)
  | _ + 1, 'f' :: 'a' :: 'l' :: 's' :: 'e' :: rest => some (bool false, rest)
  | _ + 1, '"' :: rest => (readString rest).map fun (s, rest) => (string s, rest)
  | fuel + 1, '[' :: rest =>
    match skipBlanks rest with
    | ']' :: rest => some (list [], rest)
    | rest => (readItems fuel rest).map fun (vs, rest) => (list vs, rest)
  | fuel + 1, '{' :: rest =>
    match skipBlanks rest with
    | '}' :: rest => some (record [], rest)
    | rest => (readMembers fuel rest).map fun (ms, rest) => (record ms, rest)
  | _ + 1, t => (readNumber t).map fun (n, rest) => (number n, rest)

/-- Reads the values of a list up to its closing bracket. -/
def readItems : Nat → Text → Option (List Json × Text)
  | 0, _ => none
  | fuel + 1, t => do
    let (v, t) ← readValue fuel (skipBlanks t)
    match skipBlanks t with
    | ',' :: rest => do
      let (vs, rest) ← readItems fuel rest
      some (v :: vs, rest)
    | ']' :: rest => some ([v], rest)
    | _ => none

/-- Reads the members of an object up to its closing brace. -/
def readMembers : Nat → Text → Option (List (Option Text × Json) × Text)
  | 0, _ => none
  | fuel + 1, t =>
    match skipBlanks t with
    | '"' :: t => do
      let (k, t) ← readString t
      match skipBlanks t with
      | ':' :: t => do
        let (v, t) ← readValue fuel (skipBlanks t)
        match skipBlanks t with
        | ',' :: rest => do
          let (ms, rest) ← readMembers fuel rest
          some ((k, v) :: ms, rest)
        | '}' :: rest => some ([(k, v)], rest)
        | _ => none
      | _ => none
    | _ => none

end

/-- A bracket opens a list that is not closed at once. -/
theorem readValue_items (fuel : Nat) {c : Char} (mark : isBlank c = false) (inner : c ≠ ']')
    (t : Text) : readValue (fuel + 1) ('[' :: c :: t) =
      (readItems fuel (c :: t)).map fun (vs, rest) => (list vs, rest) := by
  rw [readValue, skipBlanks_cons mark]
  split
  · rename_i closes
    exact absurd (List.cons.inj closes).1 inner
  · rfl

/-- A brace opens an object, and the quote of its first key follows. -/
theorem readValue_members (fuel : Nat) (t : Text) :
    readValue (fuel + 1) ('\x7b' :: '"' :: t) =
      (readMembers fuel ('"' :: t)).map fun (ms, rest) => (record ms, rest) := by
  rw [readValue, skipBlanks_cons (by decide)]
  split
  · rename_i closes
    exact absurd (List.cons.inj closes).1 (by decide)
  · rfl

/-- The value that a whole text stands for. Every value takes at least one character, so twice the
length of the text bounds the nesting of calls. -/
def read? (t : Text) : Option Json :=
  match readValue (2 * t.length + 1) (skipBlanks t) with
  | some (v, rest) => if (skipBlanks rest).isEmpty then some v else none
  | none => none

end LiveMarkup.Json
