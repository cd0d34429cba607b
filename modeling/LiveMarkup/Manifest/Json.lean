import LiveMarkup.Json.Number
import LiveMarkup.Json.Reader
import LiveMarkup.Manifest.Fields

/-!
Manifests and patches as JSON.
-/

namespace LiveMarkup.Json

mutual

/-- A value as plain data. Values that are kept may nest to a limit, their strings must name texts
and their numbers must fit; values that are passed over need none of this. -/
def datum? (room : Nat) : Json → Option Datum
  | null => some .null
  | bool b => some (.bool b)
  | number literal => if fits literal then some .number else none
  | string t => t.map .text
  | list items =>
    match room with
    | 0 => none
    | room + 1 => (datumItems? room items).map .list
  | record members =>
    match room with
    | 0 => none
    | room + 1 => (datumMembers? room members).map .record

def datumItems? (room : Nat) : List Json → Option (List Datum)
  | [] => some []
  | v :: vs => do
    let d ← datum? room v
    let ds ← datumItems? room vs
    some (d :: ds)

def datumMembers? (room : Nat) : List (Option Text × Json) → Option (List (Datum × Datum))
  | [] => some []
  | (k, v) :: ms => do
    let k ← k
    let d ← datum? room v
    let ds ← datumMembers? room ms
    some ((.text k, d) :: ds)

end

/-- How deep a value may nest inside of a document that is a list or an object itself. -/
def innerRoom : Nat :=
  126

/-- How a value reads as a field; `null` gives nothing. -/
def field : Json → Field
  | null => ⟨some none, some none, some none⟩
  | v =>
    { text := match v with
        | string (some t) => some (some t)
        | _ => none
      flag := match v with
        | bool b => some (some b)
        | _ => none
      datum := (datum? innerRoom v).map some }

/-- The fields of a document: the members of an object, or the items of a list by position. -/
def fields? (keys : List Text) : Json → Option (List (Text × Field))
  | record members => members.mapM fun (k, v) => k.map fun k => (k, v.field)
  | list items => if items.length ≤ keys.length then some (keys.zip (items.map field)) else none
  | _ => none

end LiveMarkup.Json

namespace LiveMarkup

def Manifest.ofJson? (v : Json) : Option Manifest := do
  Manifest.ofFields? (← v.fields? Manifest.keys)

def SettingsPatch.ofJson? (v : Json) : Option SettingsPatch := do
  SettingsPatch.ofFields? (← v.fields? SettingsPatch.keys)

def MatchSpec.ofJson? (v : Json) : Option MatchSpec := do
  MatchSpec.ofDatum? (← v.datum? (Json.innerRoom + 1))

def MinifySetting.ofJson? (v : Json) : Option MinifySetting := do
  MinifySetting.ofDatum? (← v.datum? (Json.innerRoom + 1))

def Names.toJson : Names → Json
  | one name => Json.text name
  | many names => .list (names.map Json.text)

def MatchSpec.toJson : MatchSpec → Json
  | pattern p => Json.text p
  | list parts => .list (parts.map Json.text)

def MinifyOptions.toJson (o : MinifyOptions) : Json :=
  Json.object [("collapse_whitespace".toList, .bool o.collapseWhitespace),
    ("remove_comments".toList, .bool o.removeComments)]

def MinifySetting.toJson : MinifySetting → Json
  | enabled b => .bool b
  | options o => o.toJson

/-- All keys are written; one that gives nothing has `null`. -/
def Manifest.toJson (m : Manifest) : Json :=
  let orNull {α : Type} (write : α → Json) (v : Option α) := (v.map write).getD .null
  Json.object (Manifest.keys.zip
    [orNull MatchSpec.toJson m.matchSpec, orNull Json.text m.basedir,
      orNull Names.toJson m.parsers, orNull Names.toJson m.parser,
      orNull Names.toJson m.processors, orNull Names.toJson m.processor,
      orNull Names.toJson m.pre, orNull Names.toJson m.post, orNull MinifySetting.toJson m.minify,
      orNull Json.bool m.sourcemap, orNull Json.text m.live, orNull Json.bool m.remedy,
      orNull Json.bool m.checkMarkup])

end LiveMarkup
