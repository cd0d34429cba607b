import LiveMarkup.Yaml.Datum

/-!
Manifests as YAML, the format of manifest files.
-/

namespace LiveMarkup

/-- The manifest that a text holds. -/
def Manifest.ofYaml? (t : Text) : Option Manifest := do
  Manifest.ofFields? (← (← Yaml.Document.read? t).fields? Manifest.keys)

end LiveMarkup
