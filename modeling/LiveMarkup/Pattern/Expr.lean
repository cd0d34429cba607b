import LiveMarkup.CharSet

/-!
Patterns as expressions, in one form for all spellings that say the same in a simple way: sequences
and choices are flat, neighbouring characters are one text, a choice between characters is a set,
and what all branches begin with stands in front of the choice. The size of an automaton is that of
this form.
-/

namespace LiveMarkup.Pattern

/-- A condition on the characters at both sides of a place. -/
inductive Look where
  | start
  | finish
  | lineStart (crlf : Bool)
  | lineFinish (crlf : Bool)
  | wordEdge (ascii : Bool)
  | noWordEdge (ascii : Bool)
  | wordStart (ascii : Bool)
  | wordFinish (ascii : Bool)
  | notAfterWord (ascii : Bool)
  | notBeforeWord (ascii : Bool)
  deriving DecidableEq, Repr

inductive Expr where
  | empty
  | text (cs : Text)
  /-- One character; `ascii` when the set was written for ASCII alone. -/
  | set (s : CharSet) (ascii : Bool)
  | look (l : Look)
  /-- At least `low` times, and at most `high` times where that is given. `greedy` tells which of
  several matches is preferred, and so bears on equality alone. -/
  | repeated (low : Nat) (high : Option Nat) (greedy : Bool) (e : Expr)
  /-- A group that is counted. -/
  | group (index : Nat) (e : Expr)
  /-- The rest is a sequence or its last part. -/
  | seq (first rest : Expr)
  /-- The rest is a choice or its last branch. -/
  | alt (first rest : Expr)
  deriving DecidableEq, Repr

namespace Expr

/-- The parts of a sequence. -/
def parts : Expr → List Expr
  | empty => []
  | seq first rest => first :: rest.parts
  | e => [e]

/-- The branches of a choice. -/
def branches : Expr → List Expr
  | alt first rest => first :: rest.branches
  | e => [e]

def ofParts : List Expr → Expr
  | [] => empty
  | [e] => e
  | e :: es => seq e (ofParts es)

/-- A set; one that has a single member is a text. -/
def ofSet (s : CharSet) (ascii : Bool) : Expr :=
  match s.only? with
  | some c => text [c]
  | none => set s (ascii || s == .empty)

/-- Matches nothing. -/
def never : Expr :=
  ofSet .empty true

def ofBranches : List Expr → Expr
  | [] => never
  | [e] => e
  | e :: es => alt e (ofBranches es)

/-- Puts a part in front of others. -/
def prepend : Expr → List Expr → List Expr
  | text cs, text ds :: es => text (cs ++ ds) :: es
  | e, es => e :: es

/-- One expression after the other. -/
def concat (es : List Expr) : Expr :=
  ofParts ((es.flatMap parts).foldr prepend [])

/-- The character of an expression that matches it alone. -/
def char? : Expr → Option Char
  | text [c] => some c
  | _ => none

def set? : Expr → Option CharSet
  | set s _ => some s
  | _ => none

/-- The values of all members, if each has one. -/
def all? {α : Type} (value? : Expr → Option α) : List Expr → Option (List α)
  | [] => some []
  | e :: es => do
    let a ← value? e
    let as ← all? value? es
    some (a :: as)

/-- What two lists have in common at their starts. -/
def shared : List Expr → List Expr → List Expr
  | a :: as, b :: bs => if a = b then a :: shared as bs else []
  | _, _ => []

/-- The parts that all branches begin with, where all of them are sequences. -/
def opening : List Expr → List Expr
  | e :: es =>
    if (e :: es).all (2 ≤ ·.parts.length) then
      es.foldl (fun common e => shared common e.parts) e.parts
    else []
  | [] => []

/-- The number of nodes. -/
def size : Expr → Nat
  | repeated _ _ _ e => e.size + 1
  | group _ e => e.size + 1
  | seq first rest => first.size + rest.size + 1
  | alt first rest => first.size + rest.size + 1
  | _ => 1

/-- Any of some flat branches; every call leaves fewer nodes. -/
def choose : Nat → List Expr → Expr
  | _, [e] => e
  | 0, es => ofBranches es
  | fuel + 1, es =>
    match all? char? es, all? set? es, opening es with
    | some cs, _, _ => ofSet (.ofList (cs.map Char.toNat)) false
    | none, some sets, _ => ofSet (sets.foldr (· ∪ ·) .empty) false
    | none, none, [] => ofBranches es
    | none, none, common =>
      let rests := es.map fun e => ofParts (e.parts.drop common.length)
      concat (common ++ [choose fuel (rests.flatMap branches)])

/-- Any of some expressions. -/
def choice (es : List Expr) : Expr :=
  choose ((es.map size).foldr (· + ·) 1) (es.flatMap branches)

/-- Whether every match is empty. An expression that has no match at all does not count. -/
def onlyEmpty : Expr → Bool
  | empty => true
  | text cs => cs.isEmpty
  | set _ _ => false
  | look _ => true
  | repeated _ high _ e => high.isSome && e.onlyEmpty
  | group _ e => e.onlyEmpty
  | seq first rest => first.onlyEmpty && rest.onlyEmpty
  | alt first rest => first.onlyEmpty && rest.onlyEmpty

/-- The length of the shortest match, or less; there is none where some part can never match. -/
def least? : Expr → Option Nat
  | empty => some 0
  | text cs => some cs.length
  | set s _ => if s == .empty then none else some 1
  | look _ => some 0
  | repeated low _ _ e => e.least?.map (low * ·)
  | group _ e => e.least?
  | seq first rest => do some ((← first.least?) + (← rest.least?))
  | alt first rest => do some (min (← first.least?) (← rest.least?))

/-- An expression a number of times. One with empty matches alone need not be repeated. -/
def times (low : Nat) (high : Option Nat) (greedy : Bool) (e : Expr) : Expr :=
  let (low, high) := if e.onlyEmpty then (min low 1, some (min (high.getD 1) 1)) else (low, high)
  if low = 0 && high == some 0 then empty
  else if low = 1 && high == some 1 then e
  else repeated low high greedy e

end Expr
end LiveMarkup.Pattern
