import LiveMarkup.Json
import LiveMarkup.Live.Change
import LiveMarkup.Path

/-!
The texts of generated modules. All that varies in such a text stands between the quotes of a JSON
string, so no source can end its quotation early.
-/

namespace LiveMarkup

/-- Where the two runtime files are that a generated module requires, seen from the root. -/
structure ModulePaths where
  runtime : Text := "node_modules/markmod/runtime.js".toList
  liveClient : Text := "node_modules/markmod/live-client.js".toList
  deriving DecidableEq, Repr

/-- How a generated module follows the changes of its file. -/
structure Subscription where
  client : Text
  key : Text
  deriving DecidableEq, Repr

/-- What a generated module says. -/
structure ModuleText where
  runtime : Text
  src : Text
  subscription : Option Subscription := none
  deriving DecidableEq, Repr

namespace ModuleText

def renderSubscription (s : Subscription) : Text :=
  "\nrequire(".toList ++ Json.quote s.client ++ ").on(".toList ++ Json.quote s.key ++
    ", function(src) \x7b module.exports.update(src)\x7d)".toList

/-- The text of a module. -/
def render (m : ModuleText) : Text :=
  "module.exports = (require(".toList ++ Json.quote m.runtime ++ "))(".toList ++
    Json.quote m.src ++ ");".toList ++ (m.subscription.map renderSubscription).getD []

/-- A relative path that says so. -/
def marked (path : Text) : Text :=
  if (Text.after? ['.', '.', '/'] path).isSome || (Text.after? ['.', '/'] path).isSome then path
  else '.' :: '/' :: path

/-- The path by which the module of a file requires a target: it starts at the directory of the
file, and says so. Root and target are texts; `RawPath.requirePath` takes any paths. -/
def requirePath (root filename target : Text) : Text :=
  let file := Path.absolutize root filename
  let directory := (Path.parent? file).getD root
  marked (Path.slashed (Path.relative directory (Path.absolutize root target)))

/-- The module of a processed file. -/
def ofSource (root filename src : Text) (live : Bool) (paths : ModulePaths) : ModuleText where
  runtime := requirePath root filename paths.runtime
  src := src
  subscription :=
    if live then some ⟨requirePath root filename paths.liveClient, Change.keyOf filename⟩ else none

end ModuleText
end LiveMarkup
