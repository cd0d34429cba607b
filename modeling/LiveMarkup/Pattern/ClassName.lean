import LiveMarkup.Unicode.Age
import LiveMarkup.Unicode.Break
import LiveMarkup.Unicode.ScriptExtensions

/-!
The names by which a pattern asks for sets of characters.
-/

namespace LiveMarkup.Pattern

/-- The ASCII characters of a name in lower case, without blanks, `_` and `-`. -/
def lettersOf (name : Text) : Text :=
  (name.filter fun c => c.toNat < 128 && ! (c == ' ' || c == '_' || c == '-')).map Char.toLower

/-- A name in the form in which names are compared; `is` in front says nothing, unless one letter
would be left that is a name of its own. -/
def plainName (name : Text) : Text :=
  if (name.take 2).map Char.toLower = ['i', 's'] then
    let rest := lettersOf (name.drop 2)
    if rest = ['c'] then ['i', 's', 'c'] else rest
  else lettersOf name

/-- A set by its name: a property, a category or a script, in this order; three short names are
categories in any case. -/
def classNamed? (name : Text) : Option CharSet :=
  let plain := plainName name
  let asCategory := (Unicode.category? plain).orElse fun _ => Unicode.script? plain
  if [['c', 'f'], ['s', 'c'], ['l', 'c']].contains plain then asCategory
  else (Unicode.property? plain).orElse fun _ => asCategory

/-- The properties that have values, by their names, and the sets of their values. -/
def valued : List (List String × (Text → Option CharSet)) :=
  [(["generalcategory", "gc"], Unicode.category?),
   (["script", "sc"], Unicode.script?),
   (["scriptextensions", "scx"], Unicode.scriptExtensions?),
   (["age"], Unicode.age?),
   (["graphemeclusterbreak", "gcb"], Unicode.breakClass? Unicode.clusterClasses),
   (["wordbreak", "wb"], Unicode.breakClass? Unicode.wordClasses),
   (["sentencebreak", "sb"], Unicode.breakClass? Unicode.sentenceClasses)]

/-- A set by the name of a property and its value. -/
def classValued? (name value : Text) : Option CharSet := do
  let (_, set?) ← valued.find? fun (names, _) => names.any (·.toList == plainName name)
  set? (plainName value)

/-- Splits at the first place where a separator stands. -/
def splitAt? (separator : Text) : Text → Option (Text × Text)
  | [] => none
  | c :: t =>
    match Text.after? separator (c :: t) with
    | some rest => some ([], rest)
    | none => (splitAt? separator t).map fun (front, rest) => (c :: front, rest)

/-- The set that is described between braces, and whether its complement is meant. -/
def classBraced? (inside : Text) : Option (CharSet × Bool) :=
  match splitAt? ['!', '='] inside with
  | some (name, value) => (classValued? name value).map (·, true)
  | none =>
    match (splitAt? [':'] inside).orElse fun _ => splitAt? ['='] inside with
    | some (name, value) => (classValued? name value).map (·, false)
    | none => (classNamed? inside).map (·, false)

/-! ### ASCII -/

def asciiDigit : CharSet := .range 0x30 0x39

def asciiBlank : CharSet := .range 0x09 0x0D ∪ .ofList [0x20]

def asciiUpper : CharSet := .range 0x41 0x5A

def asciiLower : CharSet := .range 0x61 0x7A

def asciiWord : CharSet :=
  asciiDigit ∪ asciiUpper ∪ asciiLower ∪ .ofList [0x5F]

/-- The sets that are named between colons inside brackets. -/
def asciiClass? (name : Text) : Option CharSet :=
  match String.ofList name with
  | "alnum" => some (asciiDigit ∪ asciiUpper ∪ asciiLower)
  | "alpha" => some (asciiUpper ∪ asciiLower)
  | "ascii" => some (.range 0 0x7F)
  | "blank" => some (.ofList [0x09, 0x20])
  | "cntrl" => some (.range 0 0x1F ∪ .ofList [0x7F])
  | "digit" => some asciiDigit
  | "graph" => some (.range 0x21 0x7E)
  | "lower" => some asciiLower
  | "print" => some (.range 0x20 0x7E)
  | "punct" => some (.range 0x21 0x7E \ (asciiDigit ∪ asciiUpper ∪ asciiLower))
  | "space" => some asciiBlank
  | "upper" => some asciiUpper
  | "word" => some asciiWord
  | "xdigit" => some (asciiDigit ∪ .range 0x41 0x46 ∪ .range 0x61 0x66)
  | _ => none

end LiveMarkup.Pattern
