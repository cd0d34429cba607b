import LiveMarkup.FileTree
import LiveMarkup.Unicode.Recent

/-!
Variables: those of the environment, and those that a file adds to them.

Each line of such a file gives one variable. Values can be quoted in parts, and can refer to
variables that are set. A line that is malformed ends the file.
-/

namespace LiveMarkup.Cli

/-- The variables that are set, the latest first. -/
abbrev Variables := List (Text × Text)

namespace Variables

/-- The value of a name. A variable is one text, its key and its value with an equals sign between
them, so a name may reach into the value as far as another such sign. -/
def get? (v : Variables) (name : Text) : Option Text :=
  v.findSome? fun (key, value) => Text.after? (name ++ ['=']) (key ++ '=' :: value)

/-- The value of a key. -/
def ofKey? (v : Variables) (key : Text) : Option Text :=
  (v.find? (·.1 == key)).map (·.2)

/-- The name of a file with variables. -/
def fileName : Text :=
  ".env".toList

/-- A reference to a variable that is being read: whether it is in braces, and its name so far. -/
structure Reference where
  braced : Bool
  name : Text

/-- What is between quotes, if anything. -/
inductive Quoting where
  | none
  | single
  | double
  deriving DecidableEq

/-- The reading of a value so far. -/
structure Value where
  text : Text := []
  quoting : Quoting := .none
  escaped : Bool := false
  ended : Bool := false
  reference : Option Reference := none

namespace Value

def push (c : Char) (v : Value) : Value :=
  { v with text := v.text ++ [c] }

/-- Puts what a variable stands for behind the text. -/
def refer (value? : Text → Option Text) (name : Text) (v : Value) : Value :=
  { v with text := v.text ++ (value? name).getD [], reference := none }

/-- Reads a character of a reference. The first character that does not belong to a name without
braces ends it, and stands for itself unless it begins another one. -/
def readReference (value? : Text → Option Text) (r : Reference) (c : Char) (v : Value) : Value :=
  if Unicode.nameContinue.mem c then { v with reference := some { r with name := r.name ++ [c] } }
  else if r.braced then
    if c == '\x7d' then v.refer value? r.name
    else { v with reference := some { r with name := r.name ++ [c] } }
  else if c == '\x7b' && r.name.isEmpty then { v with reference := some { r with braced := true } }
  else
    let v := v.refer value? r.name
    if c == '$' then { v with reference := some ⟨false, []⟩ } else v.push c

/-- The character that stands behind a backslash. -/
def unescape? : Char → Option Char
  | 'n' => some '\n'
  | c => if "\\'\"$ ".toList.contains c then some c else none

/-- Reads a character. Behind a value there are only blanks and a comment, at which reading ends. -/
def read (value? : Text → Option Text) (v : Value) (c : Char) : Option Value :=
  if v.escaped then (unescape? c).map fun d => { v.push d with escaped := false }
  else if v.quoting == .single then
    some (if c == '\'' then { v with quoting := .none } else v.push c)
  else
    match v.reference with
    | some r => some (v.readReference value? r c)
    | none =>
      if c == '$' then some { v with reference := some ⟨false, []⟩ }
      else if c == '\\' then some { v with escaped := true }
      else if v.quoting == .double then
        some (if c == '"' then { v with quoting := .none } else v.push c)
      else if c == '\'' then some { v with quoting := .single }
      else if c == '"' then some { v with quoting := .double }
      else if c == ' ' || c == '\t' then some { v with ended := true }
      else some (v.push c)

/-- Reads a value to its end. -/
def readAll (value? : Text → Option Text) (v : Value) : Text → Option Text
  | [] =>
    if v.quoting != .none then none
    else
      match v.reference with
      | some r => if r.braced then none else some (v.refer value? r.name).text
      | none => some v.text
  | c :: t =>
    if v.ended then
      if c == ' ' || c == '\t' then readAll value? v t
      else if c == '#' then readAll value? v []
      else none
    else (v.read value? c).bind fun v => readAll value? v t

end Value

/-- The name that a text begins with. -/
def key? (t : Text) : Option (Text × Text) :=
  let isPart := fun c : Char => c.isAlphanum || c == '_' || c == '.'
  match t with
  | [] => none
  | c :: _ =>
    if c.isAlpha || c == '_' then some (t.takeWhile isPart, Text.trimStart (t.dropWhile isPart))
    else none

def afterEquals? : Text → Option Text
  | '=' :: t => some t
  | _ => none

/-- The name of a variable, and what follows the equals sign behind it. The word `export` in front
of a name says nothing. -/
def assignment? (t : Text) : Option (Text × Text) := do
  let (key, t) ← key? t
  match afterEquals? t with
  | some t => some (key, t)
  | none =>
    if key = "export".toList then
      let (key, t) ← key? t
      some (key, ← afterEquals? t)
    else none

/-- Reads a line: nothing, or a variable. The variables that are set go before those that the file
gave so far. -/
def readLine? (v file : Variables) (line : Text) : Option (Option (Text × Text)) := do
  let line := Text.trim line
  if line.isEmpty || line.head? == some '#' then some none
  else
    let (key, t) ← assignment? line
    let t := Text.trimStart t
    if t.isEmpty || t.head? == some '#' then some (some (key, []))
    else
      let value ← Value.readAll (fun name => (v.get? name).or (file.ofKey? name)) {} t
      some (some (key, value))

/-- Takes in the lines of a file up to one that is malformed. A variable that is set stays. There is
no way to set one to a text with a zero character. -/
def readLines (v file : Variables) : List Text → Option Variables
  | [] => some v
  | line :: rest =>
    match readLine? v file line with
    | none => some v
    | some none => readLines v file rest
    | some (some (key, value)) =>
      if (v.get? key).isSome then readLines v ((key, value) :: file) rest
      else if value.contains '\x00' then none
      else readLines ((key, value) :: v) ((key, value) :: file) rest

/-- The lines of a text. -/
def lines : Text → List Text
  | [] => [[]]
  | c :: t =>
    if c = '\n' then [] :: lines t
    else match lines t with
      | [] => [[c]]
      | l :: ls => (c :: l) :: ls

/-- The first file with variables in some directories, as far as it can be read. A place that cannot
be looked at ends the search. -/
def findFile? (files : FileTree) : List Text → Option Text
  | [] => none
  | directory :: rest =>
    match files.lookup (Path.join directory fileName) with
    | .ok (.file text) => some text
    | .ok (.broken front) => some front
    | .ok (.shut _) => none
    | .ok _ => findFile? files rest
    | .error .notFound => findFile? files rest
    | .error _ => none

/-- Adds the variables of the nearest file above a directory, if all of them can be set. -/
def load? (files : FileTree) (directory : Text) (v : Variables) : Option Variables :=
  match findFile? files (Path.ancestors directory) with
  | some text => readLines v [] (lines text)
  | none => some v

end Variables
end LiveMarkup.Cli
