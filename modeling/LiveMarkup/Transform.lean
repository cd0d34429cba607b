import LiveMarkup.Handler.Create
import LiveMarkup.ModuleText

/-!
Turning files into modules.
-/

namespace LiveMarkup

variable {σ W : Type}

/-- What becomes of a file: its code as it was, or the text of a module. -/
inductive Output where
  | passed (code : Text)
  | built (text : Text)
  deriving DecidableEq, Repr

namespace Output

def text : Output → Text
  | passed code => code
  | built text => text

def isModule : Output → Bool
  | passed _ => false
  | built _ => true

end Output

/-- A computation that leaves the world alone. -/
def Run.lift {α : Type} (result : Except Failure α) : Run W α :=
  fun w => (result, w)

namespace Session

/-- Finds the handler of a file. -/
def handler (s : Session σ W) (files : FileTree) (file : Text) (given : Option (FileConfig σ)) :
    Run W (Option (Handler σ)) :=
  Run.lift (Handler.create files s.root s.table file given)

/-- Turns a file into a module. Code is left as it is where no handler takes it, and where it does
not look like markup although its configuration asks for that. Whether the module is live is asked
once all stages are done. -/
def transform (s : Session σ W) (files : FileTree) (file code : Text)
    (given : Option (FileConfig σ)) (paths : ModulePaths) : Run W Output := do
  match ← s.handler files file given with
  | none => return .passed code
  | some h =>
    if h.config.checkMarkup && ! Text.looksLikeMarkup code then return .passed code
    else
      let out ← s.run h code
      let registry ← s.readRegistry
      return .built (ModuleText.ofSource s.root out.filename out.src registry.live paths).render

end Session
end LiveMarkup
