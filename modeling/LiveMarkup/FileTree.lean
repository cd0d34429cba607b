import LiveMarkup.Failure
import LiveMarkup.Path

/-!
A tree of files, and how a path is followed in it. Unlike lexical cleaning, following a path asks at
every step whether there is a directory to step from.

A link that leads somewhere stands in the tree as what it leads to; only a `..` that goes up from a
linked directory leads elsewhere in a system, and paths with one are not meant here. Each place can
have a fault of its own: what is there cannot be opened, or cannot be stepped from, or cannot even
be looked at.
-/

namespace LiveMarkup

/-- What is found at a place of the tree. A file can be broken: its bytes are no text, and only the
lines in front of the first one that is none can be read. A shut file cannot be opened, and a locked
directory can be neither opened nor stepped from. A stray link leads in circles or into a directory
that is locked, so it cannot be looked at. -/
inductive Entry where
  | directory
  | file (text : Text)
  | broken (front : Text)
  | shut (fault : FileFault)
  | locked (fault : FileFault)
  | astray (fault : FileFault)
  deriving DecidableEq, Repr

def Entry.isDirectory : Entry → Bool
  | directory => true
  | locked _ => true
  | _ => false

/-- A file with some bytes. -/
def Entry.ofBytes (bytes : List UInt8) : Entry :=
  match Text.ofBytes? bytes with
  | some text => .file text
  | none => .broken (Text.readableLines [] bytes)

/-- The places that exist below the root, each by the names that lead to it. -/
structure FileTree where
  entries : List (List Text × Entry) := []
  deriving DecidableEq, Repr

namespace FileTree

/-- The longest name of a file, in bytes. -/
def nameLimit : Nat := 255

/-- The first length of a path that is too long, in bytes. -/
def pathLimit : Nat := 4096

/-- What is at a place; the root is a directory. -/
def at? (files : FileTree) (place : List Text) : Option Entry :=
  if place.isEmpty then some .directory
  else (files.entries.find? (·.1 == place)).map (·.2)

/-- Why no step can be made from a place. -/
def leaveFault? (files : FileTree) (place : List Text) : Option FileFault :=
  match files.at? place with
  | some .directory => none
  | some (.locked fault) => some fault
  | _ => some .notDirectory

/-- Why a place cannot be looked at. -/
def reachFault? (files : FileTree) (place : List Text) : Option FileFault :=
  match files.at? place with
  | none => some .notFound
  | some (.astray fault) => some fault
  | some _ => none

/-- One step from a place, along a piece of a path. -/
def step (files : FileTree) (place : List Text) (s : Text) : Except FileFault (List Text) :=
  match files.leaveFault? place with
  | some fault => .error fault
  | none =>
    if s = [] || s = ['.'] then .ok place
    else if s = ['.', '.'] then .ok place.dropLast
    else if nameLimit < Text.byteLength s then .error .nameTooLong
    else
      match files.reachFault? (place ++ [s]) with
      | some fault => .error fault
      | none => .ok (place ++ [s])

/-- Steps from a place along the pieces of a path. -/
def follow (files : FileTree) (place : List Text) : List Text → Except FileFault (List Text)
  | [] => .ok place
  | s :: rest => (files.step place s).bind fun next => follow files next rest

/-- What a path leads to. -/
def lookup (files : FileTree) (path : Text) : Except FileFault Entry :=
  if path.contains '\x00' then .error .nulInName
  else if path.isEmpty then .error .notFound
  else if pathLimit ≤ Text.byteLength path then .error .nameTooLong
  else
    match files.follow [] (Path.segments path) with
    | .ok place => .ok ((files.at? place).getD .directory)
    | .error fault => .error fault

/-- Whether there is something at a path; only a missing place is a plain no. -/
def holds (files : FileTree) (path : Text) : Except FileFault Bool :=
  match files.lookup path with
  | .ok _ => .ok true
  | .error .notFound => .ok false
  | .error fault => .error fault

def read (files : FileTree) (path : Text) : Except FileFault Text :=
  match files.lookup path with
  | .ok (.file text) => .ok text
  | .ok (.broken _) => .error .notText
  | .ok .directory => .error .isDirectory
  | .ok (.shut fault) => .error fault
  | .ok (.locked fault) => .error fault
  | .ok (.astray fault) => .error fault
  | .error fault => .error fault

/-- Whether an entry may have a name. -/
def allows (n : Text) : Bool :=
  Text.byteLength n ≤ nameLimit && ! n.contains '\x00'

/-- Makes the directories along a path, and tells to what place they lead. What is in the way ends
it. -/
def makeDirectories (files : FileTree) (place : List Text) :
    List Component → FileTree × Option (List Text)
  | [] => (files, some place)
  | .name n :: rest =>
    let next := place ++ [n]
    match files.at? next with
    | some .directory => files.makeDirectories next rest
    | some _ => (files, none)
    | none =>
      if allows n then makeDirectories ⟨files.entries ++ [(next, .directory)]⟩ next rest
      else (files, none)
  | .parent :: rest => files.makeDirectories place.dropLast rest
  | _ :: rest => files.makeDirectories place rest

/-- Puts an entry at a path; directories on the way are made. A file does not take the place of a
directory, nor a directory that of a file. -/
def put (files : FileTree) (path : Text) (entry : Entry) : FileTree :=
  let steps := Path.components path
  if entry = .directory then (files.makeDirectories [] steps).1
  else
    let (files, place?) := files.makeDirectories [] steps.dropLast
    match place?, (Path.segments path).getLast?.bind Component.ofSegment? with
    | some place, some (.name n) =>
      let place := place ++ [n]
      if (files.at? place).any Entry.isDirectory || ! allows n then files
      else ⟨files.entries.filter (·.1 != place) ++ [(place, entry)]⟩
    | _, _ => files

/-- The names that lead to a path, once it is clean. -/
def placeOf (path : Text) : List Text :=
  (Path.reduce (Path.components path)).filterMap fun
    | .name t => some t
    | _ => none

/-- Removes what is at a path with all that is below it. -/
def remove (files : FileTree) (path : Text) : FileTree :=
  let place := placeOf path
  ⟨files.entries.filter fun (p, _) => ! place.isPrefixOf p⟩

end FileTree
end LiveMarkup
