import LiveMarkup.Text

/-!
Making sources smaller: comments and superfluous blanks.
-/

namespace LiveMarkup

structure MinifyOptions where
  collapseWhitespace : Bool := true
  removeComments : Bool := false
  deriving DecidableEq, Repr

namespace Minify

def opener : Text := ['<', '!', '-', '-']

def closer : Text := ['-', '-', '>']

/-- How many characters there are up to the end of the first closer. -/
def closerEnd? : Text → Option Nat
  | [] => none
  | c :: t =>
    match Text.after? closer (c :: t) with
    | some _ => some 3
    | none => (closerEnd? t).map (· + 1)

/-- The length of the comment that a text begins with. -/
def commentLength? (t : Text) : Option Nat :=
  match Text.after? opener t with
  | some rest => (closerEnd? rest).map (· + 4)
  | none => none

/-- Drops a number of characters and then every comment. -/
def dropComments (skipped : Nat) : Text → Text
  | [] => []
  | c :: t =>
    match skipped with
    | n + 1 => dropComments n t
    | 0 =>
      match commentLength? (c :: t) with
      | some n => dropComments (n - 1) t
      | none => c :: dropComments 0 t

/-- The text without its comments, each from an opener to the first closer after it. -/
def removeComments (t : Text) : Text :=
  dropComments 0 t

/-- The number of blanks in front of a tag, where the text begins with some. -/
def gapLength (t : Text) : Nat :=
  if (t.dropWhile Text.isBlank).head? = some '<' then (t.takeWhile Text.isBlank).length else 0

/-- Drops a number of characters and then the blanks between tags. -/
def dropGaps (skipped : Nat) : Text → Text
  | [] => []
  | c :: t =>
    match skipped with
    | n + 1 => dropGaps n t
    | 0 => c :: dropGaps (if c = '>' then gapLength t else 0) t

/-- The text without the blanks that are all there is between `>` and `<`. -/
def closeGaps (t : Text) : Text :=
  dropGaps 0 t

/-- One space for each run of blanks; `inRun` says that the run has its space already. -/
def squeezeFrom (inRun : Bool) : Text → Text
  | [] => []
  | c :: t =>
    if Text.isBlank c then
      if inRun then squeezeFrom true t else ' ' :: squeezeFrom true t
    else c :: squeezeFrom false t

def squeeze (t : Text) : Text :=
  squeezeFrom false t

/-- The minifier that a project has unless it brings its own. -/
def basic (options : MinifyOptions) (src : Text) : Text :=
  let src := if options.removeComments then removeComments src else src
  let src := if options.collapseWhitespace then squeeze (closeGaps src) else src
  Text.trim src

end Minify
end LiveMarkup
