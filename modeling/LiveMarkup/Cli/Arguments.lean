import LiveMarkup.Text

/-!
The arguments of the command line.

Options have a long name, which two hyphens precede, and a letter, and letters can share a hyphen.
Each is given at most once. Two hyphens alone end the options.
-/

namespace LiveMarkup.Cli

inductive Command where
  | transform (file : Text) (minify live : Bool)
  | process (file : Text) (minify : Bool)
  | live (url space : Option Text)
  deriving DecidableEq, Repr

/-- What the arguments ask for. -/
inductive Request where
  | run (root : Text) (command : Command)
  | version
  | help
  deriving DecidableEq, Repr

/-- An option: its names, whether a value belongs to it, and whether that value is a path. -/
structure OptionName where
  long : Text
  letter : Char
  hasValue : Bool
  isPath : Bool := false

/-- What was given: options with their values, and operands in order. -/
structure Given where
  options : List (Text × Text) := []
  operands : List Text := []

/-- What reading arguments comes to; nothing is read beyond a request for the version or for
help. -/
inductive Reading where
  | given (g : Given)
  | command (g : Given) (name : Text) (rest : List Text)
  | version
  | help
  | refused

namespace Given

def flag (g : Given) (long : String) : Bool :=
  g.options.any (·.1 == long.toList)

def value? (g : Given) (long : String) : Option Text :=
  (g.options.find? (·.1 == long.toList)).map (·.2)

/-- Takes in an option, unless it was given. A path is not empty. -/
def add? (g : Given) (o : OptionName) (value : Text) : Option Given :=
  if g.options.any (·.1 == o.long) || (o.isPath && value.isEmpty) then none
  else some { g with options := (o.long, value) :: g.options }

/-- Takes in some operands, of which a number can come in all. They are paths, so none is empty. -/
def addOperands? (g : Given) (count : Nat) (operands : List Text) : Option Given :=
  if count < g.operands.length + operands.length || operands.any (·.isEmpty) then none
  else some { g with operands := g.operands ++ operands }

end Given

/-- The root option, which goes with every command. -/
def rootOption : OptionName where
  long := "root".toList
  letter := 'r'
  hasValue := true
  isPath := true

def versionOption : OptionName where
  long := "version".toList
  letter := 'V'
  hasValue := false

def helpOption : OptionName where
  long := "help".toList
  letter := 'h'
  hasValue := false

/-- What can be read at a place: the options there, and whether a command may come or how many
operands. -/
structure Place where
  options : List OptionName
  wantsCommand : Bool := false
  operands : Nat := 0

/-- Whether an argument can be the value of the option in front of it. -/
def isValue (arg : Text) : Bool :=
  arg == ['-'] || arg.head? != some '-'

/-- What an option does when it is read. -/
inductive Effect where
  | goOn (g : Given) (rest : List Text)
  | version
  | help
  | refused

/-- Takes in an option that has its value, or needs none. -/
def takeOption (g : Given) (o : OptionName) (value : Text) (rest : List Text) : Effect :=
  if o.long == versionOption.long then .version
  else if o.long == helpOption.long then .help
  else match g.add? o value with
    | some g => .goOn g rest
    | none => .refused

/-- Takes in an option whose value is the next argument. -/
def takeWithNext (g : Given) (o : OptionName) : List Text → Effect
  | value :: rest => if isValue value then takeOption g o value rest else .refused
  | [] => .refused

/-- Reads the letters behind one hyphen. What follows the letter of an option with a value is that
value, which an equals sign may precede. -/
def takeLetters (options : List OptionName) (g : Given) (rest : List Text) : Text → Effect
  | [] => .goOn g rest
  | c :: letters =>
    match options.find? (·.letter == c) with
    | none => .refused
    | some o =>
      if o.hasValue then
        match letters with
        | [] => takeWithNext g o rest
        | '=' :: value => takeOption g o value rest
        | value => takeOption g o value rest
      else
        match takeOption g o [] rest with
        | .goOn g _ => takeLetters options g rest letters
        | effect => effect

/-- Reads an option by its long name; an equals sign may join its value to it. -/
def takeLong (options : List OptionName) (g : Given) (rest : List Text) (arg : Text) : Effect :=
  let name := arg.takeWhile (· != '=')
  match options.find? (·.long == name), arg.dropWhile (· != '=') with
  | none, _ => .refused
  | some o, [] => if o.hasValue then takeWithNext g o rest else takeOption g o [] rest
  | some o, _ :: value => if o.hasValue then takeOption g o value rest else .refused

/-- Reads the arguments at a place; the first that is refused ends the reading. Each takes one or
two of them, so their number is enough fuel. -/
def read (place : Place) : Nat → Given → List Text → Reading
  | _, g, [] => .given g
  | 0, _, _ :: _ => .refused
  | fuel + 1, g, arg :: rest =>
    let effect := match arg with
      | ['-', '-'] => none
      | '-' :: '-' :: long => some (takeLong place.options g rest long)
      | ['-'] => none
      | '-' :: letters => some (takeLetters place.options g rest letters)
      | _ => none
    match effect with
    | some (.goOn g rest) => read place fuel g rest
    | some .version => .version
    | some .help => .help
    | some .refused => .refused
    | none =>
      if arg == ['-', '-'] then
        match g.addOperands? place.operands rest with
        | some g => .given g
        | none => .refused
      else if place.wantsCommand then .command g arg rest
      else
        match g.addOperands? place.operands [arg] with
        | some g => read place fuel g rest
        | none => .refused

/-- What can be read behind the name of a command. -/
def placeOf? (name : Text) : Option Place :=
  let option (long : String) (letter : Char) (hasValue : Bool) : OptionName :=
    { long := long.toList, letter, hasValue }
  let place (options : List OptionName) (operands : Nat) : Place :=
    { options := rootOption :: helpOption :: options, operands }
  if name = "transform".toList then
    some (place [option "minify" 'm' false, option "live" 'l' false] 1)
  else if name = "process".toList then some (place [option "minify" 'm' false] 1)
  else if name = "live".toList then
    some (place [option "url" 'u' true, option "namespace" 'n' true] 0)
  else none

/-- The command that a name and what was given with it stand for. -/
def commandOf (name : Text) (g : Given) : Option Command :=
  if name = "live".toList then some (.live (g.value? "url") (g.value? "namespace"))
  else
    match g.operands with
    | [file] =>
      if name = "transform".toList then
        some (.transform file (g.flag "minify") (g.flag "live"))
      else some (.process file (g.flag "minify"))
    | _ => none

/-- Whether the arguments behind the command `help` name something that there is help for. -/
def isHelpTopic : List Text → Bool
  | [] => true
  | [name] => name = "help".toList || (placeOf? name).isSome
  | _ => false

/-- Reads the arguments of the program. A root that is given behind the command goes before one in
front of it. -/
def readArguments (args : List Text) : Option Request :=
  let top : Place := { options := [rootOption, versionOption, helpOption], wantsCommand := true }
  match read top args.length {} args with
  | .version => some .version
  | .help => some .help
  | .command before name rest =>
    if name = "help".toList then if isHelpTopic rest then some .help else none
    else
      match placeOf? name with
      | none => none
      | some place =>
        match read place rest.length {} rest with
        | .help => some .help
        | .given g => do
          let command ← commandOf name g
          let root := (g.value? "root").orElse fun _ => before.value? "root"
          some (.run (root.getD ['.']) command)
        | _ => none
  | _ => none

end LiveMarkup.Cli
