import LiveMarkup.FileTree
import LiveMarkup.Config
import LiveMarkup.Manifest.Yaml

/-!
Loading manifests, and finding the one that decides about a file.
-/

namespace LiveMarkup.FileConfig

variable {σ : Type}

/-- The configuration in the text of a manifest that lies in the given directory. -/
def ofYaml (text : Text) (directory : Option Text) : Except ConfigFault (FileConfig σ) :=
  match Manifest.ofYaml? text with
  | some m => ofManifest m directory
  | none => .error .malformedManifest

/-- The configuration in a manifest file. -/
def load (files : FileTree) (path : Text) : Except Failure (FileConfig σ) :=
  match files.read path with
  | .error fault => .error (.config (.unreadable path fault))
  | .ok text =>
    match ofYaml text (Path.parent? path) with
    | .error fault => .error (.config fault)
    | .ok config => .ok config

/-- Loads the manifest of the first directory that has one. There is no way back to a later one,
and without any all is left open. -/
def nearest (files : FileTree) : List Text → Except Failure (FileConfig σ)
  | [] => .ok {}
  | directory :: rest =>
    match files.holds (Path.join directory Manifest.fileName) with
    | .error fault => .error (.io fault)
    | .ok true => load files (Path.join directory Manifest.fileName)
    | .ok false => nearest files rest

/-- The directories whose manifests could decide about a file, the nearest one first. -/
def searchPath (file : Text) : List Text :=
  match Path.parent? file with
  | none => []
  | some directory => Path.ancestors directory

/-- The configuration that a file has by the manifests above it. -/
def discover (files : FileTree) (file : Text) : Except Failure (FileConfig σ) :=
  nearest files (searchPath file)

end LiveMarkup.FileConfig
