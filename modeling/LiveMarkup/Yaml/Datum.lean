import LiveMarkup.Manifest.Fields
import LiveMarkup.Yaml.Node
import LiveMarkup.Yaml.Word

/-!
YAML nodes as plain data and as the fields of a manifest.
-/

namespace LiveMarkup.Yaml

/-- The tags that force how a scalar is read. -/
def coreTag (name : String) : Tag :=
  .ofText ("tag:yaml.org,2002:".toList ++ name.toList)

/-- Whether a tag begins with the mark of the document's own tags. -/
def isMarked (tag : Tag) : Bool :=
  tag.head? == (Tag.ofText ['!']).head?

/-- Whether a tag is one of the document's own. Such a tag is a name, so its bytes make up
characters. -/
def isLocal (tag : Option Tag) : Bool :=
  tag.any fun t => isMarked t && (Text.ofBytes? t).isSome

namespace Scalar

/-- The whole number that a text stands for, as plain data. Numbers of more than sixty-four bits are
refused as long as they have at most a hundred and twenty-eight. -/
def wholeDatum? (t : Text) : Option (Option Datum) :=
  match Word.integer? t with
  | none => none
  | some n =>
    if t.head? != some '-' then
      if n < Int.pow 2 64 then some (some (.natural n.toNat))
      else if n < Int.pow 2 128 then some none
      else none
    else if -Int.pow 2 63 ≤ n then some (some .number)
    else if -Int.pow 2 127 ≤ n then some none
    else none

/-- What a plain scalar without a tag stands for. -/
def plainDatum? (t : Text) : Option Datum :=
  if t.isEmpty || Word.isNull t then some .null
  else
    match Word.bool? t with
    | some b => some (.bool b)
    | none =>
      match wholeDatum? t with
      | some d => d
      | none => if Word.isFloat t then some .number else some (.text t)

/-- What a scalar stands for. A core tag forces one reading. Of the other tags, one that is marked
but is no name says nothing about a plain scalar, and the rest make a scalar a text. -/
def datum? (style : Style) (tag : Option Tag) (t : Text) : Option Datum :=
  match tag with
  | none => if style == .plain then plainDatum? t else some (.text t)
  | some tag =>
    if isLocal (some tag) then none
    else if tag == coreTag "bool" then (Word.bool? t).map .bool
    else if tag == coreTag "int" then (wholeDatum? t).getD none
    else if tag == coreTag "float" then if Word.isFloat t then some .number else none
    else if tag == coreTag "null" then if Word.isNull t then some .null else none
    else if isMarked tag && style == .plain then plainDatum? t
    else some (.text t)

end Scalar

/-- Reading with a number of aliases that may still be followed. -/
abbrev Follow := StateT Nat Option

namespace Node

mutual

/-- A node as plain data; `follow` reads what an alias stands for. -/
def datumWith (follow : Nat → Nat → Follow Datum) (room : Nat) : Node → Follow Datum
  | scalar style tag t => fun left => (Scalar.datum? style tag t).map (·, left)
  | list tag items => do
    match isLocal tag, room with
    | false, room + 1 => return .list (← itemsWith follow room items)
    | _, _ => fun _ => none
  | record tag members => do
    match isLocal tag, room with
    | false, room + 1 => return .record (← membersWith follow room members)
    | _, _ => fun _ => none
  | reference number => do
    match ← get with
    | 0 => fun _ => none
    | left + 1 =>
      set left
      follow room number

def itemsWith (follow : Nat → Nat → Follow Datum) (room : Nat) : List Node → Follow (List Datum)
  | [] => return []
  | n :: ns => do
    let d ← datumWith follow room n
    return d :: (← itemsWith follow room ns)

def membersWith (follow : Nat → Nat → Follow Datum) (room : Nat) :
    List (Node × Node) → Follow (List (Datum × Datum))
  | [] => return []
  | (k, v) :: ms => do
    let key ← datumWith follow room k
    let value ← datumWith follow room v
    return (key, value) :: (← membersWith follow room ms)

end

end Node

namespace Document

/-- How deep a value may nest inside of a record. -/
def innerRoom : Nat :=
  127

/-- Reads what an alias stands for, with a number of aliases inside of each other. -/
def follow (d : Document) : Nat → Nat → Nat → Follow Datum
  | 0, _, _ => fun _ => none
  | depth + 1, room, number =>
    match d.anchored? number with
    | some node => Node.datumWith (d.follow depth) room node
    | none => fun _ => none

/-- How many aliases may be followed in a document. -/
def followLimit (d : Document) : Nat :=
  100 * (d.top.map Node.marks).getD 1

/-- Whether a field gives anything: a plain scalar may be one of the words for nothing, or empty. A
field that is tagged as nothing must be such a word. -/
def given? : Node → Option Bool
  | .scalar .plain none t => some (! t.isEmpty && ! Word.isNull t)
  | .scalar .plain (some tag) t =>
    if tag == coreTag "null" then if Word.isNull t then some false else none else some true
  | _ => some true

def text? : Node → Option Text
  | .scalar _ _ t => some t
  | _ => none

def flag? : Node → Option Bool
  | .scalar .plain _ t => Word.bool? t
  | .scalar .literal tag t => if tag == some (coreTag "bool") then Word.bool? t else none
  | _ => none

/-- Follows a node that is an alias itself. -/
def spend : Node → Follow Unit
  | .reference _ => fun left => if left = 0 then none else some ((), left - 1)
  | _ => pure ()

/-- How a node reads as a field. Where it does not read as plain data, no alias inside is
followed. -/
def field (d : Document) (node : Node) : Follow Field := fun left => do
  let (_, rest) ← spend node left
  let read := Node.datumWith (d.follow (innerRoom + 2)) innerRoom node left
  let rest := (read.map (·.2)).getD rest
  match (d.resolve? node).bind given? with
  | none => some (⟨none, none, none⟩, rest)
  | some false => some (⟨some none, some none, some none⟩, rest)
  | some true =>
    let resolved := (d.resolve? node).getD node
    some (⟨(text? resolved).map some, (flag? resolved).map some, read.map (some ·.1)⟩, rest)

/-- The members with one of the given keys. Aliases in the values of the others are not
followed. -/
def fieldsOf (d : Document) (keys : List Text) : List (Node × Node) → Follow (List (Text × Field))
  | [] => return []
  | (k, v) :: members => do
    spend k
    match (d.resolve? k).bind text? with
    | none => fun _ => none
    | some key =>
      if keys.contains key then
        let f ← d.field v
        return (key, f) :: (← d.fieldsOf keys members)
      else d.fieldsOf keys members

/-- The fields of a document that have one of the given keys. A document is a record with texts for
keys, or is empty. -/
def fields? (keys : List Text) (d : Document) : Option (List (Text × Field)) :=
  match d.top with
  | none => some []
  | some (.record _ members) => (d.fieldsOf keys members d.followLimit).map (·.1)
  | some (.scalar .plain _ []) => some []
  | _ => none

end Document
end LiveMarkup.Yaml
