import LiveMarkup.Yaml.Token

/-!
The document that the tokens of a YAML text make up.
-/

namespace LiveMarkup.Yaml

/-- A value as it is written. An alias stands for the node that its number belongs to. -/
inductive Node where
  | scalar (style : Style) (tag : Option Tag) (text : Text)
  | list (tag : Option Tag) (items : List Node)
  | record (tag : Option Tag) (members : List (Node × Node))
  | reference (number : Nat)

/-- A document: its top node, if there is one at all, and the nodes that aliases can stand for. -/
structure Document where
  top : Option Node
  anchored : List (Nat × Node) := []

namespace Node

/-- The node of a scalar that is not written. -/
def missing : Node :=
  .scalar .plain none []

mutual

/-- The number of marks that a node consists of: one for a leaf and two for a collection. -/
def marks : Node → Nat
  | scalar .. => 1
  | list _ items => 2 + marksOfItems items
  | record _ members => 2 + marksOfMembers members
  | reference _ => 1

def marksOfItems : List Node → Nat
  | [] => 0
  | n :: ns => marks n + marksOfItems ns

def marksOfMembers : List (Node × Node) → Nat
  | [] => 0
  | (k, v) :: ms => marks k + marks v + marksOfMembers ms

end

/-- An anchor with its number, the order in which its node began, and the node. -/
structure Anchor where
  number : Nat
  start : Nat
  node : Node

/-- What a document is read from, and what was read: the names of anchors with the numbers that they
have, how many nodes with an anchor began, and those that ended. -/
structure Source where
  tokens : List Token
  handles : List (Text × Tag) := []
  names : List (Text × Nat) := []
  started : Nat := 0
  anchors : List Anchor := []

abbrev Read := StateT Source Option

def refuse {α : Type} : Read α :=
  fun _ => none

def peek : Read (Option Token) := do
  return (← get).tokens.head?

def drop : Read Unit :=
  modify fun s => { s with tokens := s.tokens.tail }

def expect (token : Token) : Read Unit := do
  if (← peek) == some token then drop else refuse

/-- Whether one of the given tokens is next. -/
def ahead (tokens : List Token) : Read Bool := do
  return (← peek).any tokens.contains

/-- The properties in front of a node. -/
structure Properties where
  anchor : Option Text := none
  tag : Option (Text × Tag) := none

/-- Reads an anchor and a tag, in either order. -/
def properties : Read Properties := do
  match ← peek with
  | some (.anchor name) =>
    drop
    match ← peek with
    | some (.tag handle suffix) =>
      drop
      return ⟨some name, some (handle, suffix)⟩
    | _ => return ⟨some name, none⟩
  | some (.tag handle suffix) =>
    drop
    match ← peek with
    | some (.anchor name) =>
      drop
      return ⟨some name, some (handle, suffix)⟩
    | _ => return ⟨none, some (handle, suffix)⟩
  | _ => return {}

/-- The tag that a handle and a suffix name. A handle must be declared. -/
def resolveTag : Option (Text × Tag) → Read (Option Tag)
  | none => return none
  | some ([], suffix) => return some suffix
  | some (handle, suffix) => do
    match (← get).handles.find? (·.1 == handle) with
    | some (_, lead) => return some (lead ++ suffix)
    | none => refuse

/-- Numbers an anchor by the names that there are so far, and tells in what order it began. -/
def startAnchor (name : Text) : Read (Nat × Nat) := do
  let s ← get
  let number := s.names.length
  set { s with
    names := (name, number) :: s.names.filter (·.1 != name)
    started := s.started + 1 }
  return (number, s.started)

/-- Keeps a node under its anchor. -/
def endAnchor (place : Option (Nat × Nat)) (node : Node) : Read Node := do
  match place with
  | none => return node
  | some (number, start) =>
    modify fun s => { s with anchors := ⟨number, start, node⟩ :: s.anchors }
    return node

/-- The tokens at which a value or a key in a block is left out. -/
def blockStops : List Token :=
  [.key, .value, .blockEnd]

mutual

/-- Reads a node. Lists and records of a block are nodes in a block only, and a list without an
indentation of its own is one only as a part of a record. -/
def node (inBlock flush : Bool) : Nat → Read Node
  | 0 => refuse
  | fuel + 1 => do
    match ← peek with
    | some (.reference name) =>
      drop
      match (← get).names.find? (·.1 == name) with
      | some (_, number) => return .reference number
      | none => refuse
    | _ =>
      let p ← properties
      let tag ← resolveTag p.tag
      let bare := p.anchor.isNone && p.tag.isNone
      let next ← peek
      let starts := match next with
        | some .blockEntry => flush
        | some (.scalar ..) => true
        | some .flowListStart => true
        | some .flowRecordStart => true
        | some .blockList => inBlock
        | some .blockRecord => inBlock
        | _ => false
      if ! starts && bare then refuse
      let place ← match p.anchor with
        | some name => some <$> startAnchor name
        | none => pure none
      if ! starts then endAnchor place (.scalar .plain tag [])
      else
        match next with
        | some .blockEntry =>
          endAnchor place (.list tag (← flushItems fuel))
        | some (.scalar style text) =>
          drop
          endAnchor place (.scalar style tag text)
        | some .flowListStart =>
          drop
          endAnchor place (.list tag (← flowItems fuel))
        | some .flowRecordStart =>
          drop
          endAnchor place (.record tag (← flowMembers fuel))
        | some .blockList =>
          drop
          endAnchor place (.list tag (← blockItems fuel))
        | _ =>
          drop
          endAnchor place (.record tag (← blockMembers fuel))

/-- Reads a node of a block, or the missing one where one of the given tokens is next. -/
def nodeUnless (stops : List Token) (inBlock flush : Bool) : Nat → Read Node
  | 0 => refuse
  | fuel + 1 => do
    if ← ahead stops then return missing else node inBlock flush fuel

/-- Reads the items of a list that is indented. -/
def blockItems : Nat → Read (List Node)
  | 0 => refuse
  | fuel + 1 => do
    match ← peek with
    | some .blockEntry =>
      drop
      let item ← nodeUnless [.blockEntry, .blockEnd] true false fuel
      return item :: (← blockItems fuel)
    | some .blockEnd =>
      drop
      return []
    | _ => refuse

/-- Reads the items of a list that is not indented; anything else ends it. -/
def flushItems : Nat → Read (List Node)
  | 0 => refuse
  | fuel + 1 => do
    match ← peek with
    | some .blockEntry =>
      drop
      let item ← nodeUnless (.blockEntry :: blockStops) true false fuel
      return item :: (← flushItems fuel)
    | _ => return []

/-- Reads the members of a record in a block. -/
def blockMembers : Nat → Read (List (Node × Node))
  | 0 => refuse
  | fuel + 1 => do
    match ← peek with
    | some .key =>
      drop
      let key ← nodeUnless blockStops true true fuel
      let value ← match ← peek with
        | some .value =>
          drop
          nodeUnless blockStops true true fuel
        | _ => pure missing
      return (key, value) :: (← blockMembers fuel)
    | some .blockEnd =>
      drop
      return []
    | _ => refuse

/-- Reads the value of a member between brackets, up to a comma or the given end. -/
def flowValue (stop : Token) : Nat → Read Node
  | 0 => refuse
  | fuel + 1 => do
    match ← peek with
    | some .value =>
      drop
      nodeUnless [.flowEntry, stop] false false fuel
    | _ => return missing

/-- Reads one item of a list between brackets. A key makes it a record of one member; where the key
is left out, the token in its place is passed over. -/
def flowItem : Nat → Read Node
  | 0 => refuse
  | fuel + 1 => do
    match ← peek with
    | some .key =>
      drop
      let key ← if ← ahead [.value, .flowEntry, .flowListEnd] then
          drop
          pure missing
        else node false false fuel
      return .record none [(key, ← flowValue .flowListEnd fuel)]
    | _ => node false false fuel

/-- Reads the items of a list between brackets. -/
def flowItems : Nat → Read (List Node)
  | 0 => refuse
  | fuel + 1 => do
    match ← peek with
    | some .flowListEnd =>
      drop
      return []
    | _ =>
      let item ← flowItem fuel
      match ← peek with
      | some .flowEntry =>
        drop
        return item :: (← flowItems fuel)
      | _ =>
        expect .flowListEnd
        return [item]

/-- Reads one member of a record between brackets; a node that is no key has no value. -/
def flowMember : Nat → Read (Node × Node)
  | 0 => refuse
  | fuel + 1 => do
    match ← peek with
    | some .key =>
      drop
      let key ← nodeUnless [.value, .flowEntry, .flowRecordEnd] false false fuel
      return (key, ← flowValue .flowRecordEnd fuel)
    | _ => return (← node false false fuel, missing)

/-- Reads the members of a record between brackets. -/
def flowMembers : Nat → Read (List (Node × Node))
  | 0 => refuse
  | fuel + 1 => do
    match ← peek with
    | some .flowRecordEnd =>
      drop
      return []
    | _ =>
      let member ← flowMember fuel
      match ← peek with
      | some .flowEntry =>
        drop
        return member :: (← flowMembers fuel)
      | _ =>
        expect .flowRecordEnd
        return [member]

end

/-- Reads the directives in front of a document: one version at most, and each handle once. -/
def directives (versioned : Bool) (handles : List (Text × Tag)) :
    List Token → Option (Bool × List (Text × Tag) × List Token)
  | .version major minor :: rest =>
    if versioned || major != 1 || (minor != 1 && minor != 2) then none
    else directives true handles rest
  | .tagHandle handle lead :: rest =>
    if handles.any (·.1 == handle) then none
    else directives versioned ((handle, lead) :: handles) rest
  | tokens => some (versioned, handles, tokens)

/-- The handles that need not be declared. -/
def knownHandles : List (Text × Tag) :=
  [(['!'], .ofText ['!']), (['!', '!'], .ofText "tag:yaml.org,2002:".toList)]

/-- The nodes that the numbers of aliases belong to: of those with one number, the one that began
last. -/
def anchoredNodes (anchors : List Anchor) : List (Nat × Node) :=
  (anchors.mergeSort fun a b => b.start ≤ a.start).map fun a => (a.number, a.node)

end Node

namespace Document

/-- Reads the top node of a document. Where the document has a start marker, the node may be
missing. -/
def readTop (marked : Bool) (fuel : Nat) : Node.Read Node :=
  if marked then
    Node.nodeUnless [.documentStart, .documentEnd, .streamEnd] true false fuel
  else Node.node true false fuel

def isDirective : Token → Bool
  | .version .. => true
  | .tagHandle .. => true
  | _ => false

/-- The document of the tokens, which must be the only one. -/
def ofTokens? (tokens : List Token) : Option Document := do
  if tokens == [.streamEnd] then return { top := none }
  let (versioned, handles, rest) ← Node.directives false [] tokens
  let declared := versioned || ! handles.isEmpty
  let marked := rest.head? == some .documentStart
  if declared && ! marked then none
  let body := if marked then rest.tail else rest
  if marked && body.head?.any isDirective then none
  let fuel := 4 * tokens.length + 4
  let (node, s) ← readTop marked fuel { tokens := body, handles := handles ++ Node.knownHandles }
  if s.tokens.dropWhile (· == .documentEnd) == [.streamEnd] then
    some ⟨some node, Node.anchoredNodes s.anchors⟩
  else none

/-- The document that a text is. -/
def read? (t : Text) : Option Document := do
  ofTokens? (← Token.scan? t)

/-- The node that an alias stands for. -/
def anchored? (d : Document) (number : Nat) : Option Node :=
  (d.anchored.find? (·.1 == number)).map (·.2)

/-- Puts what an alias stands for in its place. -/
def resolve? (d : Document) : Node → Option Node
  | .reference number => d.anchored? number
  | node => some node

end Document
end LiveMarkup.Yaml
