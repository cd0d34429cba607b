import LiveMarkup.ModuleText
import LiveMarkup.Utf8

/-!
Raw paths: the paths of a system whose names are bytes, be they text or not. The rules of paths know
no bytes but the slash and the dot, so raw paths go by the rules of `LiveMarkup.Path`, with one
character for each byte. Only where a raw path becomes a text, its names are shown as text, and this
loses what is no text in them.
-/

namespace LiveMarkup

/-- A path of any bytes. -/
structure RawPath where
  bytes : List UInt8
  deriving DecidableEq, Repr

namespace RawPath

/-- One character for each byte. -/
def spelling (p : RawPath) : Text :=
  p.bytes.map Char.ofUInt8

/-- The path that a spelling stands for. -/
def ofSpelling (t : Text) : RawPath :=
  ⟨t.map Char.toUInt8⟩

/-- The path that a text names. -/
def ofText (t : Text) : RawPath :=
  ⟨Text.utf8 t⟩

def isAbsolute (p : RawPath) : Bool :=
  Path.isAbsolute p.spelling

def components (p : RawPath) : List Component :=
  Path.components p.spelling

def join (base p : RawPath) : RawPath :=
  ofSpelling (Path.join base.spelling p.spelling)

def clean (p : RawPath) : RawPath :=
  ofSpelling (Path.clean p.spelling)

def absolutize (root p : RawPath) : RawPath :=
  ofSpelling (Path.absolutize root.spelling p.spelling)

def relative (directory target : RawPath) : RawPath :=
  ofSpelling (Path.relative directory.spelling target.spelling)

def parent? (p : RawPath) : Option RawPath :=
  (Path.parent? p.spelling).map ofSpelling

/-- A component as it is shown. -/
def shown (c : Component) : Text :=
  Text.ofBytesLossy (ofSpelling c.text).bytes

/-- The components as they are shown, with a slash between each two. -/
def slashed (p : RawPath) : Text :=
  List.intercalate ['/'] (p.components.map shown)

/-- The identity of a file: its clean path from `root`, as it is shown. -/
def identity (root p : RawPath) : Text :=
  slashed (relative root (absolutize root p))

/-- The path by which the module of a file requires a target. -/
def requirePath (root : RawPath) (filename : Text) (target : RawPath) : Text :=
  let file := absolutize root (ofText filename)
  let directory := file.parent?.getD root
  ModuleText.marked (slashed (relative directory (absolutize root target)))

/-- Each component is text. -/
def Readable (p : RawPath) : Prop :=
  ∀ c ∈ p.components, ∃ t, ofSpelling c.text = ofText t

end RawPath
end LiveMarkup
