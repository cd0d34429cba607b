import LiveMarkup.Text

/-!
Bytes shown as text. Where the bytes are no UTF-8, each flaw is shown as one mark: as many bytes as
could still begin a character, and at least one.
-/

namespace LiveMarkup.Text

/-- The bytes of a text. -/
def utf8 (t : Text) : List UInt8 :=
  t.flatMap String.utf8EncodeChar

/-- The character that some bytes begin with. -/
def first? (bytes : List UInt8) : Option Char :=
  bytes.toByteArray.utf8DecodeChar? 0

/-- What stands for a flaw. -/
def flawMark : Char :=
  '\uFFFD'

/-- Whether a byte can be the second one of a character of more than two bytes. -/
def isSecond (first second : UInt8) : Bool :=
  if first = 0xE0 then 0xA0 ≤ second && second ≤ 0xBF
  else if first = 0xED then 0x80 ≤ second && second ≤ 0x9F
  else if first = 0xF0 then 0x90 ≤ second && second ≤ 0xBF
  else if first = 0xF4 then 0x80 ≤ second && second ≤ 0x8F
  else 0xE1 ≤ first && first ≤ 0xF3 && 0x80 ≤ second && second ≤ 0xBF

/-- How many bytes the flaw takes that some bytes begin with, if they begin with no character. -/
def flawLength : List UInt8 → Nat
  | first :: second :: rest =>
    if isSecond first second then
      if 0xF0 ≤ first && rest.head?.any (fun third => 0x80 ≤ third && third ≤ 0xBF) then 3 else 2
    else 1
  | _ => 1

/-- Shows some bytes, of which the first ones belong to what is shown already. -/
def showBehind (skipped : Nat) : List UInt8 → Text
  | [] => []
  | b :: rest =>
    match skipped with
    | skipped + 1 => showBehind skipped rest
    | 0 =>
      match first? (b :: rest) with
      | some c => c :: showBehind (c.utf8Size - 1) rest
      | none => flawMark :: showBehind (flawLength (b :: rest) - 1) rest

/-- The text that some bytes are shown as. -/
def ofBytesLossy (bytes : List UInt8) : Text :=
  showBehind 0 bytes

end LiveMarkup.Text
