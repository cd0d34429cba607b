import LiveMarkup.Manifest

/-!
Manifests and patches from the fields of a document, whatever its format. A format says how each
field reads as a text, as a truth value and as plain data, and leaves the meaning to this module.
-/

namespace LiveMarkup

/-- Data that has lost the marks of its format. Natural numbers keep their value because they can
stand for the position of a field. -/
inductive Datum where
  | null
  | bool (value : Bool)
  | natural (n : Nat)
  | number
  | text (t : Text)
  | list (items : List Datum)
  | record (members : List (Datum × Datum))
  deriving Repr

namespace Datum

def text? : Datum → Option Text
  | text t => some t
  | _ => none

def bool? : Datum → Option Bool
  | bool b => some b
  | _ => none

end Datum

def MatchSpec.ofDatum? : Datum → Option MatchSpec
  | .text t => some (.pattern t)
  | .list items => (items.mapM Datum.text?).map .list
  | _ => none

def Names.ofDatum? : Datum → Option Names
  | .text t => some (.one t)
  | .list items => (items.mapM Datum.text?).map .many
  | _ => none

namespace MinifyOptions

/-- The options as they are read, each with its value once it was given. -/
structure Draft where
  collapseWhitespace : Option Bool := none
  removeComments : Option Bool := none

def Draft.complete (p : Draft) : MinifyOptions :=
  ⟨p.collapseWhitespace.getD true, p.removeComments.getD false⟩

/-- Takes in one member. An option goes by its name or its position and is given once; other names
and positions say nothing, and a key of another kind is refused. -/
def Draft.add (p : Draft) (key value : Datum) : Option Draft :=
  let collapse : Option Draft :=
    if p.collapseWhitespace.isSome then none
    else value.bool?.map fun b => { p with collapseWhitespace := some b }
  let remove : Option Draft :=
    if p.removeComments.isSome then none
    else value.bool?.map fun b => { p with removeComments := some b }
  match key with
  | .text t =>
    if t = "collapse_whitespace".toList then collapse
    else if t = "remove_comments".toList then remove
    else some p
  | .natural 0 => collapse
  | .natural 1 => remove
  | .natural _ => some p
  | _ => none

def ofDatum? : Datum → Option MinifyOptions
  | .list [] => some {}
  | .list [a] => do
    let a ← a.bool?
    some { collapseWhitespace := a }
  | .list [a, b] => do
    let a ← a.bool?
    let b ← b.bool?
    some ⟨a, b⟩
  | .record members => do
    let p ← members.foldlM (fun p (key, value) => Draft.add p key value) {}
    some p.complete
  | _ => none

end MinifyOptions

def MinifySetting.ofDatum? : Datum → Option MinifySetting
  | .bool b => some (.enabled b)
  | d => (MinifyOptions.ofDatum? d).map .options

/-- How the value of a field reads. The outer option says whether the value can be read in that
way, the inner one whether the field gives anything. -/
structure Field where
  text : Option (Option Text)
  flag : Option (Option Bool)
  datum : Option (Option Datum)

namespace Field

/-- Reads plain data further. -/
def via {α : Type} (read : Datum → Option α) (f : Field) : Option (Option α) := do
  match ← f.datum with
  | none => some none
  | some d => (read d).map some

/-- The value of the field with the given key, which may be absent but not given twice. -/
def pick {α : Type} (fields : List (Text × Field)) (key : String)
    (read : Field → Option (Option α)) : Option (Option α) :=
  match fields.filter (·.1 == key.toList) with
  | [] => some none
  | [(_, f)] => read f
  | _ => none

end Field

/-- The manifest that the fields give. Fields with other keys say nothing. -/
def Manifest.ofFields? (fields : List (Text × Field)) : Option Manifest := do
  let matchSpec ← Field.pick fields "match" (Field.via MatchSpec.ofDatum?)
  let basedir ← Field.pick fields "basedir" Field.text
  let parsers ← Field.pick fields "parsers" (Field.via Names.ofDatum?)
  let parser ← Field.pick fields "parser" (Field.via Names.ofDatum?)
  let processors ← Field.pick fields "processors" (Field.via Names.ofDatum?)
  let processor ← Field.pick fields "processor" (Field.via Names.ofDatum?)
  let pre ← Field.pick fields "pre" (Field.via Names.ofDatum?)
  let post ← Field.pick fields "post" (Field.via Names.ofDatum?)
  let minify ← Field.pick fields "minify" (Field.via MinifySetting.ofDatum?)
  let sourcemap ← Field.pick fields "sourcemap" Field.flag
  let live ← Field.pick fields "live" Field.text
  let remedy ← Field.pick fields "remedy" Field.flag
  let checkMarkup ← Field.pick fields "check_markup" Field.flag
  some { matchSpec, basedir, parsers, parser, processors, processor, pre, post, minify, sourcemap,
         live, remedy, checkMarkup }

/-- The patch that the fields give. -/
def SettingsPatch.ofFields? (fields : List (Text × Field)) : Option SettingsPatch := do
  let minify ← Field.pick fields "minify" (Field.via MinifySetting.ofDatum?)
  let sourcemap ← Field.pick fields "sourcemap" Field.flag
  some ⟨minify, sourcemap⟩

/-- The keys of a patch, in the order in which a list gives their values. -/
def SettingsPatch.keys : List Text :=
  ["minify".toList, "sourcemap".toList]

end LiveMarkup
