import LiveMarkup.Text

/-!
JSON values and their compact text. Quoting is the one way in which texts enter generated modules
and messages.
-/

namespace LiveMarkup

/-- A JSON value as it is written. A string whose escapes leave half of a surrogate pair names no
text, and members keep their order and their repetitions. -/
inductive Json where
  | null
  | bool (value : Bool)
  | number (literal : Text)
  | string (text : Option Text)
  | list (items : List Json)
  | record (members : List (Option Text × Json))
  deriving Inhabited, Repr

namespace Json

/-- A text value. -/
def text (t : Text) : Json :=
  .string (some t)

/-- An object with named members. -/
def object (members : List (Text × Json)) : Json :=
  .record (members.map fun (key, value) => (some key, value))

/-- The hexadecimal digit of a number below sixteen. -/
def hexDigit (n : Nat) : Char :=
  if n < 10 then Char.ofNat (48 + n) else Char.ofNat (87 + n)

/-- What stands for a character between quotes: the quote, the backslash and the characters below
the blank are escaped, all others stand for themselves. -/
def escape (c : Char) : Text :=
  if c = '"' then ['\\', '"']
  else if c = '\\' then ['\\', '\\']
  else if c = '\n' then ['\\', 'n']
  else if c = '\r' then ['\\', 'r']
  else if c = '\t' then ['\\', 't']
  else if c = '\x08' then ['\\', 'b']
  else if c = '\x0c' then ['\\', 'f']
  else if c.toNat < 32 then ['\\', 'u', '0', '0', hexDigit (c.toNat / 16), hexDigit (c.toNat % 16)]
  else [c]

/-- A text between quotes. -/
def quote (t : Text) : Text :=
  '"' :: t.flatMap escape ++ ['"']

/-- A text with half of a surrogate pair stands for any string that names no text. -/
def quote? : Option Text → Text
  | some t => quote t
  | none => "\"\\ud800\"".toList

mutual

/-- The text of a value, without blanks. -/
def render : Json → Text
  | null => "null".toList
  | bool true => "true".toList
  | bool false => "false".toList
  | number literal => literal
  | string t => quote? t
  | list items => '[' :: renderItems items
  | record members => '{' :: renderMembers members

/-- The rest of a list after its opening bracket. -/
def renderItems : List Json → Text
  | [] => [']']
  | [v] => render v ++ [']']
  | v :: vs => render v ++ ',' :: renderItems vs

/-- The rest of an object after its opening brace. -/
def renderMembers : List (Option Text × Json) → Text
  | [] => ['}']
  | [(k, v)] => quote? k ++ ':' :: (render v ++ ['}'])
  | (k, v) :: ms => quote? k ++ ':' :: (render v ++ ',' :: renderMembers ms)

end

theorem quote?_some (t : Text) : quote? (some t) = '"' :: (t.flatMap escape ++ ['"']) :=
  rfl

theorem render_text (t : Text) : (text t).render = '"' :: (t.flatMap escape ++ ['"']) := by
  rw [text, render, quote?_some]

theorem renderMembers_singleton (key : Text) (v : Json) (rest : Text) :
    renderMembers [(some key, v)] ++ rest =
      '"' :: (key.flatMap escape ++ '"' :: ':' :: (v.render ++ '\x7d' :: rest)) := by
  simp [renderMembers, quote?_some]

theorem renderMembers_cons (key : Text) (v : Json) (m : Option Text × Json)
    (members : List (Option Text × Json)) (rest : Text) :
    renderMembers ((some key, v) :: m :: members) ++ rest =
      '"' :: (key.flatMap escape ++ '"' :: ':' ::
        (v.render ++ ',' :: (renderMembers (m :: members) ++ rest))) := by
  simp [renderMembers, quote?_some]

end Json
end LiveMarkup
