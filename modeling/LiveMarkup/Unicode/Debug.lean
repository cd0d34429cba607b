import LiveMarkup.Json
import LiveMarkup.Unicode.Recent

/-!
Texts between quotes for a human reader: what would not be seen as a character of its own is
escaped.
-/

namespace LiveMarkup.Unicode

/-- The digits of a number in base sixteen. -/
def hexText (n : Nat) : Text :=
  if _h : n < 16 then [Json.hexDigit n] else hexText (n / 16) ++ [Json.hexDigit (n % 16)]
  termination_by n

def debugEscape (c : Char) : Text :=
  if c = '"' then ['\\', '"']
  else if c = '\\' then ['\\', '\\']
  else if c = '\n' then ['\\', 'n']
  else if c = '\r' then ['\\', 'r']
  else if c = '\t' then ['\\', 't']
  else if c = '\x00' then ['\\', '0']
  else if hidden.mem c then ['\\', 'u', '\x7b'] ++ hexText c.toNat ++ ['\x7d']
  else [c]

/-- A text as a human reader is shown it. -/
def debugQuote (t : Text) : Text :=
  '"' :: t.flatMap debugEscape ++ ['"']

end LiveMarkup.Unicode
