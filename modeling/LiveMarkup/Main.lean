import LiveMarkup.Cli

/-!
The command line: it looks at the files that the program may ask for, and prints what the program
comes to. No message server is within its reach.
-/

namespace LiveMarkup.Main

/-- What is found at a path. Reading a directory fails with an error of its own, and so does a file
that may not be read. -/
def entryAt (path : Text) : IO (Option Entry) := do
  try
    let bytes ← IO.FS.readBinFile (String.ofList path)
    return some (.ofBytes bytes.toList)
  catch
    | .inappropriateType .. => return some .directory
    | .permissionDenied .. => return some (.shut .denied)
    | _ => return none

/-- Puts what is found at some paths into a tree. -/
def look (tree : FileTree) (paths : List Text) : IO FileTree :=
  paths.foldlM (fun tree path => do
    match ← entryAt path with
    | some entry => return tree.put path entry
    | none => return tree) tree

/-- The places on the way to a path, and the files of a given name that are next to them. -/
def placesOn (name path : Text) : List Text :=
  (Path.ancestors path).flatMap fun place => [place, Path.join place name]

/-- The places that a command looks at. -/
def placesOf (directory : Text) : Cli.Request → List Text
  | .run root command =>
    let root := Path.clean (Path.join directory root)
    let file := match command with
      | .transform file _ _ => Path.absolutize root file
      | .process file _ => Path.absolutize root file
      | .live _ _ => root
    placesOn Cli.Variables.fileName directory ++ placesOn Manifest.fileName root ++
      placesOn Manifest.fileName file
  | _ => []

/-- The variables of the environment that the program asks for. -/
def environment : IO Cli.Variables :=
  [LiveConfig.urlVariable, LiveConfig.spaceVariable].filterMapM fun name => do
    return (← IO.getEnv (String.ofList name)).map fun value => (name, value.toList)

end LiveMarkup.Main

open LiveMarkup in
def main (args : List String) : IO UInt32 := do
  let directory := (← IO.currentDir).toString.toList
  let arguments := args.map String.toList
  let places := ((Cli.readArguments arguments).map (Main.placesOf directory)).getD []
  let files ← Main.look {} places
  let outcome := Cli.run files (fun _ => false)
    { directory, arguments, environment := ← Main.environment }
  (← IO.getStdout).putStr (String.ofList outcome.output)
  match outcome.failure with
  | some e => (← IO.getStderr).putStrLn (String.ofList ("Error: ".toList ++ e.message))
  | none => pure ()
  return outcome.code.toUInt32
