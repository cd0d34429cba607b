import LiveMarkup.Manifest.Json

/-!
Change messages: what is sent when a file was processed again.
-/

namespace LiveMarkup

/-- The new source of the file with a given identity. -/
structure Change where
  uid : Text
  src : Text
  deriving DecidableEq, Repr

namespace Change

/-- The key under which changes of a file are announced. -/
def keyOf (uid : Text) : Text :=
  "change:".toList ++ uid

def key (c : Change) : Text :=
  keyOf c.uid

def toJson (c : Change) : Json :=
  Json.object [("type".toList, Json.text "change".toList), ("uid".toList, Json.text c.uid),
    ("src".toList, Json.text c.src)]

/-- The text in which a change travels. -/
def wire (c : Change) : Text :=
  c.toJson.render

/-- The only value that the members give to a key, which must be a text. -/
def member? (members : List (Option Text × Json)) (key : String) : Option Text :=
  match members.filter (·.1 == some key.toList) with
  | [(_, .string t)] => t
  | _ => none

/-- The change that a value stands for. Members with other keys say nothing, but have to be values
that can be kept. -/
def ofJson? : Json → Option Change
  | .list [.string (some kind), .string (some uid), .string (some src)] =>
    if kind = "change".toList then some ⟨uid, src⟩ else none
  | .record members => do
    if members.any (·.1.isNone) then none
    let _ ← members.mapM fun (_, v) => v.datum? Json.innerRoom
    if (← member? members "type") = "change".toList then
      let uid ← member? members "uid"
      let src ← member? members "src"
      some ⟨uid, src⟩
    else none
  | _ => none

/-- The change that a text in transit stands for. -/
def read? (t : Text) : Option Change := do
  ofJson? (← Json.read? t)

end Change
end LiveMarkup
