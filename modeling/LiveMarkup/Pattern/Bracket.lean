import LiveMarkup.Pattern.Escape

/-!
Sets between brackets: characters, ranges, named sets and sets in brackets of their own, joined by
operators.
-/

namespace LiveMarkup.Pattern

/-- A set such as `[:alpha:]`, after its bracket: its members, and whether the complement is
meant. -/
def readAsciiClass (f : Flags) : Text → Option (CharSet × Bool × Text)
  | ':' :: t =>
    let (negated, t) := match t with
      | '^' :: t => (true, t)
      | t => (false, t)
    let name := t.takeWhile (· != ':')
    match t.dropWhile (· != ':') with
    | ':' :: ']' :: rest => (asciiClass? name).map fun s => (f.fold s, negated, rest)
    | _ => none
  | _ => none

/-- The operators between the parts of a set. -/
inductive SetOp where
  | inter
  | diff
  | symmDiff

def SetOp.apply : SetOp → CharSet → CharSet → CharSet
  | inter, s, t => s ∩ t
  | diff, s, t => s \ t
  | symmDiff, s, t => s.symmDiff t

/-- The parts of a set that are read: what stands in front of the last operator, and the items since
then, the last one first, with the depth of their nesting. -/
structure Parts where
  pending : Option (SetOp × CharSet × Nat) := none
  items : List CharSet := []
  depth : Nat := 0

namespace Parts

def add (p : Parts) (s : CharSet) (depth : Nat) : Parts :=
  { p with items := s :: p.items, depth := max p.depth depth }

/-- The set that the parts describe; operators are applied from left to right. -/
def close (f : Flags) (p : Parts) : CharSet × Nat :=
  let set := p.items.foldr (· ∪ ·) .empty
  let depth := if p.items.length ≥ 2 then p.depth + 1 else p.depth
  match p.pending with
  | none => (set, depth)
  | some (op, left, leftDepth) => (op.apply (f.fold left) (f.fold set), max leftDepth depth + 1)

def operator (f : Flags) (p : Parts) (op : SetOp) : Parts :=
  let (set, depth) := p.close f
  { pending := some (op, set, depth) }

end Parts

namespace Item

/-- The character of an item that may bound a range. Without Unicode it must be ASCII. -/
def bound? (f : Flags) : Item → Option Char
  | literal c _ => if f.unicode || c.toNat < 128 then some c else none
  | _ => none

/-- The set of an item that may stand between brackets on its own. -/
def set? (f : Flags) : Item → Option CharSet
  | charClass s => some s
  | i => (i.bound? f).map fun c => .ofList [c.toNat]

end Item

def readSetItem (f : Flags) : Text → Option (Item × Text)
  | [] => none
  | '\\' :: t => readEscape f t
  | c :: t => some (.literal c false, t)

/-- A character, a named set or a range. -/
def readSetRange (f : Flags) (t : Text) : Option (CharSet × Text) := do
  let (first, t) ← readSetItem f t
  match skip f t with
  | [] => none
  | '-' :: after =>
    if peek f after == some ']' || peek f after == some '-' then do
      some (← first.set? f, '-' :: after)
    else do
      let (last, t) ← readSetItem f (skip f after)
      let low ← first.bound? f
      let high ← last.bound? f
      if low ≤ high then some (.range low.toNat high.toNat, t) else none
  | t => do some (← first.set? f, t)

/-- The signs `-` that stand first between brackets. -/
def readDashes (f : Flags) (comment : Bool) (p : Parts) : Text → Parts × Text
  | [] => (p, [])
  | c :: t =>
    if comment then readDashes f (c != '\n') p t
    else if c = '-' then readDashes f false (p.add (.ofList [c.toNat]) 0) t
    else if f.spaced && Text.isBlank c then readDashes f false p t
    else if f.spaced && c = '#' then readDashes f true p t
    else (p, c :: t)

/-- The start of a set after its bracket: whether it is a complement, and the signs `-` and `]`
that stand for themselves because they come first. -/
def openSet (f : Flags) (t : Text) : Option (Bool × Parts × Text) :=
  let t := skip f t
  let (negated, t) := match t with
    | '^' :: t => (true, skip f t)
    | t => (false, t)
  match readDashes f false {} t with
  | (_, []) => none
  | (p, ']' :: t) =>
    if p.items.isEmpty then
      match skip f t with
      | [] => none
      | t => some (negated, p.add (.ofList [0x5D]) 0, t)
    else some (negated, p, ']' :: t)
  | (p, t) => some (negated, p, t)

mutual

/-- A set after its opening bracket. -/
def readSet (f : Flags) : Nat → Text → Option (CharSet × Nat × Text)
  | 0, _ => none
  | fuel + 1, t => do
    let (negated, p, t) ← openSet f t
    let (s, depth, t) ← readParts f fuel p t
    let s := f.fold s
    if ! negated then some (s, depth + 1, t)
    else if f.unicode then some (s.compl, depth + 1, t)
    else none

/-- The parts of a set up to its closing bracket. -/
def readParts (f : Flags) : Nat → Parts → Text → Option (CharSet × Nat × Text)
  | 0, _, _ => none
  | fuel + 1, p, t =>
    match skip f t with
    | [] => none
    | '[' :: t =>
      match readAsciiClass f t with
      | some (s, negated, t) =>
        if ! negated then readParts f fuel (p.add s 0) t
        else if f.unicode then readParts f fuel (p.add s.compl 0) t
        else none
      | none => do
        let (s, depth, t) ← readSet f fuel t
        readParts f fuel (p.add s depth) t
    | ']' :: t =>
      let (s, depth) := p.close f
      some (s, depth, t)
    | '&' :: '&' :: t => readParts f fuel (p.operator f .inter) t
    | '-' :: '-' :: t => readParts f fuel (p.operator f .diff) t
    | '~' :: '~' :: t => readParts f fuel (p.operator f .symmDiff) t
    | t => do
      let (s, t) ← readSetRange f t
      readParts f fuel (p.add s 0) t

end

end LiveMarkup.Pattern
