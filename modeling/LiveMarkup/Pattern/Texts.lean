import LiveMarkup.Pattern.Bytes
import LiveMarkup.Pattern.Expr

/-!
The texts that a pattern stands for, where they are few. Such a pattern can be looked for text by
text, so that no automaton is made of it. What stands behind a part that matches nothing does not
count.
-/

namespace LiveMarkup.Pattern

/-- Some texts, unless they are many or long. -/
def few? (ts : List Text) : Option (List Text) :=
  if ts.length ≤ 250 && ts.all (Text.byteLength · ≤ 100) then some ts else none

/-- One of some texts, and then one of others. -/
def product? (ts us : List Text) : Option (List Text) :=
  few? (ts.flatMap fun t => us.map (t ++ ·))

/-- Texts of a number of pieces, each of which is one of some texts. -/
def powers? (ts : List Text) : Nat → Option (List Text)
  | 0 => some [[]]
  | n + 1 => (powers? ts n).bind (product? · ts)

/-- The members of a set of ten at most. -/
def members? (s : CharSet) : Option (List Text) :=
  if (s.runs.map fun (first, last) => last + 1 - first).foldr (· + ·) 0 ≤ 10 then
    some (s.runs.flatMap fun (first, last) =>
      (List.range' first (last + 1 - first)).map fun n => [Char.ofNat n])
  else none

namespace Expr

/-- The texts that an expression matches, if they are few. -/
def texts? : Expr → Option (List Text)
  | empty => some [[]]
  | text cs => few? [cs]
  | set s _ => members? s
  | look _ => some [[]]
  | repeated low high _ e => do
    let ts ← e.texts?
    if ts.isEmpty then some (if low = 0 then [[]] else [])
    else if low = 0 && high == some 1 then few? (ts ++ [[]])
    else if high == some low && low ≤ 10 then powers? ts low
    else none
  | group _ e => e.texts?
  | seq first rest => do
    let ts ← first.texts?
    if ts.isEmpty then some [] else product? ts (← rest.texts?)
  | alt first rest => do few? ((← first.texts?) ++ (← rest.texts?))

/-- Whether nothing in an expression is counted or looks around. -/
def isPlain : Expr → Bool
  | look _ => false
  | repeated _ _ _ e => e.isPlain
  | group .. => false
  | seq first rest => first.isPlain && rest.isPlain
  | alt first rest => first.isPlain && rest.isPlain
  | _ => true

/-- Whether an expression stands for one text that is not empty, or for a few of which not all
begin with the same byte. -/
def isSimple (e : Expr) : Bool :=
  e.isPlain &&
    match e.texts?.map List.eraseDups with
    | some (t :: ts) =>
      let head? (t : Text) := (bytesOfText t).head?
      (t :: ts).all (! ·.isEmpty) && ts.length < 10 &&
        (ts.isEmpty || ts.any (head? · != head? t))
    | _ => false

end Expr
end LiveMarkup.Pattern
