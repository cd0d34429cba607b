import LiveMarkup.Failure
import LiveMarkup.Pattern.Automaton
import LiveMarkup.Pattern.Marks
import LiveMarkup.Pattern.Reader

/-!
Matchers: the patterns that select files by their identity.
-/

namespace LiveMarkup

/-- A pattern with its flags, as written and as read. -/
structure Matcher where
  pattern : Text
  flags : Text
  expr : Pattern.Expr
  deriving DecidableEq, Repr

namespace Matcher

/-- The reading that a list of flags asks for. The flags `g`, `u` and `y` ask for nothing. -/
def readFlags (all : Text) (f : Pattern.Flags) : Text → Except ConfigFault Pattern.Flags
  | [] => .ok f
  | 'i' :: rest => readFlags all { f with ignoreCase := true } rest
  | 'm' :: rest => readFlags all { f with multiLine := true } rest
  | 's' :: rest => readFlags all { f with dotAll := true } rest
  | 'x' :: rest => readFlags all { f with spaced := true } rest
  | 'g' :: rest => readFlags all f rest
  | 'u' :: rest => readFlags all f rest
  | 'y' :: rest => readFlags all f rest
  | c :: _ => .error (.unsupportedFlag c all)

/-- Reads a pattern; a flag that is not known goes before any fault of the pattern. -/
def read (pattern flags : Text) : Except ConfigFault Matcher :=
  match readFlags flags {} flags with
  | .error fault => .error fault
  | .ok f =>
    match Pattern.read? f pattern with
    | none => .error (.invalidPattern pattern .malformed)
    | some e => .ok ⟨pattern, flags, e⟩

/-- Reads a pattern, and refuses one that takes too much memory. -/
def compile (pattern flags : Text) : Except ConfigFault Matcher :=
  match read pattern flags with
  | .error fault => .error fault
  | .ok m => if m.expr.isModest then .ok m else .error (.invalidPattern pattern .tooLarge)

/-- Whether the pattern occurs in the identity. -/
def accepts (m : Matcher) (identity : Text) : Bool :=
  m.expr.occursIn identity

/-- The matcher of a pattern that is known to be well formed. -/
def known (pattern flags : Text) : Matcher :=
  match read pattern flags with
  | .ok m => m
  | .error _ => ⟨pattern, flags, .never⟩

/-- Selects markup when a configuration names no pattern. -/
def markup : Matcher :=
  known "\\.(html|xhtml|svg)$".toList ['i']

/-- Selects the files of a remedy when its configuration names no pattern. -/
def html : Matcher :=
  known "\\.html$".toList ['i']

end Matcher
end LiveMarkup
