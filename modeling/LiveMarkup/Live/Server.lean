import LiveMarkup.Live.Channel
import LiveMarkup.Transform

/-!
Live servers: they process changed files again and send what came out.
-/

namespace LiveMarkup

variable {σ W : Type}

/-- Makes a registry live, with a stage at its end that notes which files are processed. -/
def Registry.attach (watch : σ) (r : Registry σ) : Registry σ :=
  { r with live := true, post := r.post ++ [watch] }

/-- A server of a session. It sends messages by changing the world, and with a configuration of its
own it does not ask the manifests. -/
structure LiveServer (σ W : Type) where
  session : Session σ W
  send : Change → Run W Unit
  config : Option (FileConfig σ) := none

namespace LiveServer

/-- Processes a file again and sends its new source. A file without a handler is passed over. -/
def notify (l : LiveServer σ W) (files : FileTree) (file : Text) : Run W (Option Change) := do
  match ← l.session.handler files file l.config with
  | none => return none
  | some h =>
    let src ← Run.lift ((files.read (Path.absolutize l.session.root file)).mapError Failure.io)
    let out ← l.session.run h src
    let change : Change := ⟨out.filename, out.src⟩
    l.send change
    return some change

/-- Takes in a list of changed files. A file that fails does not keep the others from their turn. -/
def serve (l : LiveServer σ W) (files : FileTree) (changed : List Text) (w : W) : W :=
  changed.foldl (fun w file => (l.notify files file w).2) w

end LiveServer
end LiveMarkup
