import LiveMarkup.Pattern.Bracket
import LiveMarkup.Unicode.Recent

/-!
Reading the text of a pattern. There is one way to fail, so the reader answers with an option; which
flags are in force is handed from each item to the next and ends with its group.
-/

namespace LiveMarkup.Pattern

/-- A part of a pattern with the depth of its nesting. -/
structure Node where
  expr : Expr
  depth : Nat
  deriving DecidableEq, Repr

/-- How deep a pattern may nest. -/
def depthLimit : Nat :=
  250

/-! ### Items -/

def readItem (f : Flags) : Text → Option (Item × Text)
  | [] => none
  | '\\' :: t => readEscape f t
  | '.' :: t => some (.anyChar, t)
  | '^' :: t => some (.look (if f.multiLine then .lineStart f.crlf else .start), t)
  | '$' :: t => some (.look (if f.multiLine then .lineFinish f.crlf else .finish), t)
  | c :: t => some (.literal c false, t)

/-- The characters that a dot stands for. -/
def dotSet (f : Flags) : CharSet :=
  if f.dotAll then .all
  else if f.crlf then .compl (.ofList [0x0A, 0x0D])
  else .compl (.ofList [0x0A])

/-- The expression of an item outside of brackets. Without Unicode no item may match a part of a
character. -/
def Item.expr? (f : Flags) : Item → Option Expr
  | .literal c isByte =>
    if ! f.unicode && isByte && 128 ≤ c.toNat then none
    else some (.ofSet (f.variants c) (! f.unicode))
  | .charClass s => some (.ofSet s (! f.unicode))
  | .look l => some (.look l)
  | .anyChar => if f.unicode then some (.ofSet (dotSet f) false) else none

/-! ### Repetitions -/

/-- A decimal number below `2 ^ 32` between blanks. -/
def readCount (t : Text) : Option (Nat × Text) :=
  let t := t.dropWhile Text.isBlank
  let digits := t.takeWhile Char.isDigit
  let n := digits.foldl (fun n c => n * 10 + (c.toNat - 48)) 0
  if digits.isEmpty || Nat.pow 2 32 ≤ n then none
  else some (n, (t.dropWhile Char.isDigit).dropWhile Text.isBlank)

/-- A repetition after its opening brace: the least number, and the greatest if there is one. -/
def readCounts (f : Flags) (t : Text) : Option (Nat × Option Nat × Text) := do
  let (inside, t) ← readBraced f false t
  match ← readCount inside with
  | (low, []) => some (low, some low, t)
  | (low, [',']) => some (low, none, t)
  | (low, ',' :: rest) => do
    let (high, rest) ← readCount rest
    if rest.isEmpty && low ≤ high then some (low, some high, t) else none
  | _ => none

/-- The items of a branch, the last one first. A change of flags is an item that cannot be
repeated, and has no node. -/
abbrev Branch := List (Option Node)

/-- Repeats the last item of a branch, and drops the sign that turns what it prefers. -/
def repeatLast (f : Flags) (low : Nat) (high : Option Nat) (t : Text) :
    Branch → Option (Branch × Text)
  | some n :: items =>
    let (turned, t) := match t with
      | '?' :: t => (true, t)
      | t => (false, t)
    some (some ⟨.times low high (turned == f.lazy) n.expr, n.depth + 1⟩ :: items, t)
  | _ => none

/-! ### Branches and groups -/

/-- One node for several, which is as deep as the deepest of them and one more. -/
def join (combine : List Expr → Expr) : List Node → Node
  | [n] => n
  | [] => ⟨.empty, 0⟩
  | ns => ⟨combine (ns.map (·.expr)), (ns.map (·.depth)).foldr max 0 + 1⟩

/-- The sequence of a branch. -/
def sequence (items : Branch) : Node :=
  join .concat (items.reverse.map fun i => i.getD ⟨.empty, 0⟩)

/-- The choice between branches, the last one first. -/
def choice (branches : List Node) : Node :=
  join .choice branches.reverse

/-- The groups so far: how many are counted, and the names that are taken. -/
structure Groups where
  count : Nat := 0
  names : List Text := []

/-- The name of a group up to `>`: a letter or `_`, and then also numbers, dots and brackets. -/
def readName (t : Text) : Option (Text × Text) :=
  let name := t.takeWhile (· != '>')
  match t.dropWhile (· != '>'), name with
  | '>' :: t, c :: cs =>
    if (c == '_' || Unicode.nameStart.mem c) &&
        cs.all (fun c => "_.[]".toList.contains c || Unicode.nameContinue.mem c) then
      some (name, t)
    else none
  | _, _ => none

/-- What a parenthesis opens. -/
inductive Opening where
  /-- A group that is counted, by its number. -/
  | counted (index : Nat)
  /-- A group with flags of its own. -/
  | plain (inner : Flags)
  /-- No group but a change of flags. -/
  | change (f : Flags)

/-- A group after its parenthesis. -/
def openGroup (f : Flags) (groups : Groups) (t : Text) : Option (Opening × Groups × Text) :=
  let index := groups.count + 1
  let named (t : Text) := do
    let (name, t) ← readName t
    if groups.names.contains name then none
    else some (.counted index, ⟨index, name :: groups.names⟩, t)
  match skip f t with
  | '?' :: 'P' :: '<' :: t => named t
  | '?' :: '<' :: t =>
    match t with
    | '=' :: _ => none
    | '!' :: _ => none
    | t => named t
  | '?' :: t => do
    let (inner, seen, t) ← f.read? [] t
    match t with
    | ':' :: t => some (.plain inner, groups, t)
    | ')' :: t => if seen.isEmpty then none else some (.change inner, groups, t)
    | _ => none
  | t => some (.counted index, { groups with count := index }, t)

/-- Reads branches up to a closing parenthesis or the end. -/
def readBranches : Nat → Flags → Groups → List Node → Branch → Text →
    Option (Node × Groups × Text)
  | 0, _, _, _, _, _ => none
  | fuel + 1, f, groups, branches, items, t =>
    match skip f t with
    | [] => some (choice (sequence items :: branches), groups, [])
    | ')' :: t => some (choice (sequence items :: branches), groups, ')' :: t)
    | '|' :: t => readBranches fuel f groups (sequence items :: branches) [] t
    | '(' :: t => do
      let (opening, groups, t) ← openGroup f groups t
      match opening with
      | .change f => readBranches fuel f groups branches (none :: items) t
      | .plain inner => do
        let (n, groups, t) ← readBranches fuel inner groups [] [] t
        match t with
        | ')' :: t =>
          readBranches fuel f groups branches (some ⟨n.expr, n.depth + 1⟩ :: items) t
        | _ => none
      | .counted index => do
        let (n, groups, t) ← readBranches fuel f groups [] [] t
        match t with
        | ')' :: t =>
          readBranches fuel f groups branches (some ⟨.group index n.expr, n.depth + 1⟩ :: items) t
        | _ => none
    | '[' :: t => do
      let (s, depth, t) ← readSet f fuel t
      readBranches fuel f groups branches (some ⟨.ofSet s (! f.unicode), depth⟩ :: items) t
    | '*' :: t => do
      let (items, t) ← repeatLast f 0 none t items
      readBranches fuel f groups branches items t
    | '+' :: t => do
      let (items, t) ← repeatLast f 1 none t items
      readBranches fuel f groups branches items t
    | '?' :: t => do
      let (items, t) ← repeatLast f 0 (some 1) t items
      readBranches fuel f groups branches items t
    | '\x7b' :: t => do
      let (low, high, t) ← readCounts f t
      let (items, t) ← repeatLast f low high (skip f t) items
      readBranches fuel f groups branches items t
    | t => do
      let (i, t) ← readItem f t
      let e ← i.expr? f
      readBranches fuel f groups branches (some ⟨e, 0⟩ :: items) t

/-- Reads a whole pattern. Every call takes a character, so twice the length bounds their number. -/
def read? (f : Flags) (t : Text) : Option Expr := do
  let (n, _, rest) ← readBranches (2 * t.length + 2) f {} [] [] t
  if rest.isEmpty && n.depth ≤ depthLimit then some n.expr else none

end LiveMarkup.Pattern
