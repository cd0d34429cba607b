import LiveMarkup.Pattern.Texts
import Std.Data.HashMap

/-!
The memory that the automaton of a pattern takes. A pattern is refused when its automaton would take
too much, read forwards or backwards, so the states are counted in the order in which they are
made.
-/

namespace LiveMarkup.Pattern

/-- An automaton that is being made: its states so far, and the bytes that they take. -/
structure Automaton where
  states : Nat := 0
  bytes : Nat := 0

namespace Automaton

/-- The bytes that an automaton may take. -/
def limit : Nat :=
  10 * Nat.pow 2 20

/-- Takes more bytes, unless they are too many. -/
def take (n : Nat) (a : Automaton) : Option Automaton :=
  if a.bytes + n ≤ limit then some { a with bytes := a.bytes + n } else none

/-- A state, and the bytes of its transitions. -/
def add (transitions : Nat) (a : Automaton) : Option Automaton :=
  { a with states := a.states + 1 }.take (32 + transitions)

/-- A state that reads one of some byte ranges. -/
def addRanges (n : Nat) : Automaton → Option Automaton :=
  add (8 * n)

/-- A state that chooses between others. -/
def addChoice (n : Nat) : Automaton → Option Automaton :=
  add (4 * n)

end Automaton

/-- A step in the making of an automaton. It tells whether the state that it ends with is a choice:
such a state takes more bytes for every state that is to follow it. -/
abbrev Maker := Automaton → Option (Bool × Automaton)

namespace Maker

/-- The bytes of the way from the last state to another one. -/
def follow (choosing : Bool) (a : Automaton) : Option Automaton :=
  if choosing then a.take 4 else some a

/-- States in a row, which read one byte each or look around. -/
def row (n : Nat) : Maker := fun a =>
  ({ a with states := a.states + n }.take (32 * n)).map (false, ·)

def andThen (f g : Maker) : Maker := fun a => do
  let (choosing, a) ← f a
  g (← follow choosing a)

/-- What reads one expression a number of times after another one. -/
def copies (f : Maker) : Nat → Bool × Automaton → Option (Bool × Automaton)
  | 0, made => some made
  | n + 1, (choosing, a) =>
    match (follow choosing a).bind f with
    | none => none
    | some made => copies f n made

def exactly (f : Maker) : Nat → Maker
  | 0 => row 1
  | n + 1 => fun a => (f a).bind (copies f n)

/-- At most a number of times, each of which may be the last. -/
def options (f : Maker) : Nat → Bool × Automaton → Option (Bool × Automaton)
  | 0, (choosing, a) => (follow choosing a).map (false, ·)
  | n + 1, (choosing, a) =>
    match ((follow choosing a).bind (Automaton.addChoice 2)).bind f with
    | none => none
    | some made => options f n made

/-- A repetition. One that may come back to its start without reading a byte has a choice more. -/
def repetition (solid : Bool) (low : Nat) (high : Option Nat) (f : Maker) : Maker := fun a =>
  match low, high with
  | 0, some 1 => do
    let (choosing, a) ← f (← a.addChoice 2)
    some (false, ← (← a.add 0).take (if choosing then 4 else 0))
  | 0, none =>
    if solid then do
      let (choosing, a) ← f (← a.addChoice 1)
      some (true, ← follow choosing a)
    else do
      let (choosing, a) ← f a
      some (false, ← (← (← (← follow choosing a).addChoice 2).addChoice 2).add 0)
  | 1, none => do
    let (choosing, a) ← f a
    some (true, ← (← follow choosing a).addChoice 1)
  | low, none => do
    let (choosing, a) ← andThen (exactly f (low - 1)) f a
    some (true, ← (← follow choosing a).addChoice 1)
  | low, some high =>
    if low = high then exactly f low a
    else do
      let (choosing, a) ← exactly f low a
      options f (high - low) (choosing, ← a.add 0)

/-- A branch of a choice, with the bytes of the ways to it and from it. -/
def branch (f : Maker) (a : Automaton) : Option Automaton := do
  let (choosing, a) ← f a
  (← follow choosing a).take 4

/-- A choice. The states where it begins and ends are made after its second branch. -/
def choice : List Maker → Maker
  | [] => fun a => some (false, a)
  | [f] => f
  | f :: g :: more => fun a => do
    let a ← branch g (← branch f a)
    let a ← more.foldlM (fun a f => branch f a) (← (← a.add 0).add 0)
    some (false, a)

end Maker

/-! ### Choices between texts -/

namespace Trie

/-- Puts a text, by its first byte, to those that begin alike. -/
def insert (b : Nat) (rest : List Nat) : List (Nat × List (List Nat)) → List (Nat × List (List Nat))
  | [] => [(b, [rest])]
  | (c, rests) :: more =>
    if b = c then (c, rest :: rests) :: more else (c, rests) :: insert b rest more

/-- What follows each first byte in a list of texts. -/
def heads : List (List Nat) → List (Nat × List (List Nat))
  | [] => []
  | [] :: texts => heads texts
  | (b :: rest) :: texts => insert b rest (heads texts)

/-- Splits a list of texts where one of them ends. An end has no effect where one came before it
and nothing between. -/
def chunks : List (List Nat) → List (List (List Nat))
  | [] => [[]]
  | [] :: texts => [] :: chunks texts
  | text :: texts =>
    match chunks texts with
    | chunk :: more => (text :: chunk) :: more
    | [] => [[text]]

/-- Drops the ends that have no effect at the start of a list of texts. -/
def dropEnds : List (List Nat) → List (List Nat)
  | [] :: [] :: texts => dropEnds ([] :: texts)
  | texts => texts

/-- The states for what may follow a byte, where something does. -/
def make : Nat → List (List Nat) → Automaton → Option Automaton
  | 0, _, a => some a
  | depth + 1, texts, a => do
    let chunks := chunks (dropEnds texts)
    let chunkHeads := chunks.map heads
    let a ← chunkHeads.foldlM (fun a heads => do
      let a ← heads.foldlM (fun a (_, rests) =>
        if rests.all (·.isEmpty) then some a else make depth rests a) a
      match heads.length with
      | 0 => some a
      | 1 => a.add 0
      | n => a.addRanges n) a
    a.addChoice ((chunkHeads.filter (! ·.isEmpty)).length + (chunks.length - 1))

end Trie

/-- A choice between texts: states are shared by the texts that begin alike. -/
def makeTrie (texts : List (List Nat)) : Maker := fun a => do
  let depth := (texts.map List.length).foldr max 0
  some (false, ← Trie.make depth texts (← a.add 0))

/-! ### Sets -/

/-- A way to a state over a byte range. -/
abbrev Transition := ByteRange × Nat

/-- An automaton with the states that may be shared. There is a number of places for them, and a
state that comes to a place takes it from the one before. -/
structure Sharing (κ : Type) where
  automaton : Automaton
  places : Std.HashMap UInt64 (κ × Nat)

/-- Goes on with the number of a place. -/
def mixPlace (h : UInt64) (n : Nat) : UInt64 :=
  (h ^^^ n.toUInt64) * 1099511628211

def mixTransition (h : UInt64) (t : Transition) : UInt64 :=
  mixPlace (mixPlace (mixPlace h t.1.1) t.1.2) t.2

def placeStart : UInt64 :=
  14695981039346656037

/-- The state with a key, which is made unless it is found at its place. -/
def share {κ : Type} [DecidableEq κ] (key : κ) (place : UInt64) (transitions : Nat)
    (s : Sharing κ) : Option (Nat × Sharing κ) :=
  match s.places[place]? with
  | some (found, id) => if found = key then some (id, s) else fresh
  | none => fresh
where
  fresh := do
    let id := s.automaton.states
    some (id, ⟨← s.automaton.addRanges transitions, s.places.insert place (key, id)⟩)

/-- Puts together the sequences that begin with the same range and stand side by side. -/
def alike : List (List ByteRange) → List (ByteRange × List (List ByteRange))
  | [] => []
  | [] :: more => alike more
  | (r :: rest) :: more =>
    match alike more with
    | (q, rests) :: groups =>
      if r = q then (q, rest :: rests) :: groups else (r, [rest]) :: (q, rests) :: groups
    | [] => [(r, [rest])]

/-- The state that reads some byte sequences forwards. States with the same transitions are
shared. -/
def makeSequences (target : Nat) : Nat → List (List ByteRange) → Sharing (List Transition) →
    Option (Nat × Sharing (List Transition))
  | 0, _, s => some (target, s)
  | depth + 1, rests, s =>
    if rests.all (·.isEmpty) then some (target, s)
    else do
      let (node, s) ← (alike rests).foldlM (fun (node, s) (r, rests) => do
        let (next, s) ← makeSequences target depth rests s
        some ((r, next) :: node, s)) ([], s)
      let node := node.reverse
      share node (node.foldl mixTransition placeStart % 10000) node.length s

/-- The state that reads a byte sequence backwards and goes on with the one that is given. Sequences
that begin alike share states. -/
def makeBackwards (target : Nat) (sequence : List ByteRange) (s : Sharing Transition) :
    Option (Nat × Sharing Transition) :=
  sequence.foldlM (fun (target, s) r =>
    share (r, target) (mixPlace (mixPlace (mixPlace placeStart target) r.1) r.2 % 1000) 0 s)
    (target, s)

def makeSet (backwards : Bool) (s : CharSet) (sequences : List (List ByteRange)) : Maker := fun a =>
  if s.isAscii then do
    some (false, ← (← a.add 0).addRanges s.runs.length)
  else if backwards then do
    let target := a.states + 1
    let a ← (← a.add 0).add 0
    let s ← sequences.foldlM (fun s sequence => do
      let (_, s) ← makeBackwards target sequence s
      some { s with automaton := ← s.automaton.take 4 }) (⟨a, {}⟩ : Sharing Transition)
    some (false, s.automaton)
  else do
    let target := a.states
    let (_, s) ← makeSequences target 4 sequences ⟨← a.add 0, {}⟩
    some (false, s.automaton)

/-! ### Expressions -/

namespace Expr

/-- The text of an expression that matches it alone. -/
def text? : Expr → Option Text
  | text cs => some cs
  | _ => none

/-- A whole expression, from the makers of its branches. -/
def whole (backwards : Bool) (e : Expr) (makers : List Maker) : Maker :=
  match makers, all? text? e.branches with
  | [f], _ => f
  | _, some texts =>
    makeTrie (texts.map fun t => if backwards then (bytesOfText t).reverse else bytesOfText t)
  | makers, none => .choice makers

/-- The makers of the branches of an expression. Groups are told from others forwards only. -/
def makers (backwards : Bool) : Expr → List Maker
  | empty => [.row 1]
  | text cs => [.row (bytesOfText cs).length]
  | set s _ => [makeSet backwards s (sequences s)]
  | look _ => [.row 1]
  | repeated low high _ e =>
    [.repetition (e.least?.any (0 < ·)) low high (e.whole backwards (e.makers backwards))]
  | group _ e =>
    let f := e.whole backwards (e.makers backwards)
    if backwards then [f] else [.andThen (.row 1) (.andThen f (.row 1))]
  | seq first rest =>
    let f := first.whole backwards (first.makers backwards)
    let g := rest.whole backwards (rest.makers backwards)
    if backwards then [.andThen g f] else [.andThen f g]
  | alt first rest => first.whole backwards (first.makers backwards) :: rest.makers backwards

/-- Whether every match begins at the start of the text, as the pattern itself says. -/
def startsAtStart : Expr → Bool
  | look .start => true
  | repeated low _ _ e => 0 < low && e.startsAtStart
  | group _ e => e.startsAtStart
  | seq first rest => first.startsAtStart || (first.onlyEmpty && rest.startsAtStart)
  | alt first rest => first.startsAtStart && rest.startsAtStart
  | _ => false

/-- Whether every match ends at the end of the text, as the pattern itself says. -/
def endsAtEnd : Expr → Bool
  | look .finish => true
  | repeated low _ _ e => 0 < low && e.endsAtEnd
  | group _ e => e.endsAtEnd
  | seq first rest => rest.endsAtEnd || (rest.onlyEmpty && first.endsAtEnd)
  | alt first rest => first.endsAtEnd && rest.endsAtEnd
  | _ => false

/-- The automaton of a pattern in one direction. Where a match may begin anywhere, states in front
pass over what lies before it. Forwards, the whole match is a group. -/
def automaton? (backwards : Bool) (e : Expr) : Option Automaton := do
  let anchored := if backwards then e.endsAtEnd else e.startsAtStart
  let a : Automaton := {}
  let a ← if anchored then a.add 0 else (← (← a.addChoice 2).add 0).addRanges 1
  let f := e.whole backwards (e.makers backwards)
  let f := if backwards then f else .andThen (.row 1) (.andThen f (.row 1))
  let (_, a) ← Maker.andThen f (.row 1) a
  some a

/-- Whether the automata of both directions keep to the limit, or none is needed. -/
def isModest (e : Expr) : Bool :=
  e.isSimple || ((e.automaton? false).isSome && (e.automaton? true).isSome)

end Expr
end LiveMarkup.Pattern
