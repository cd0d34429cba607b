import LiveMarkup.Double
import LiveMarkup.Text

/-!
The words and numbers that plain scalars of a YAML text are taken for.
-/

namespace LiveMarkup.Yaml.Word

def isNull (t : Text) : Bool :=
  ["null", "Null", "NULL", "~"].any (·.toList == t)

def bool? (t : Text) : Option Bool :=
  if ["true", "True", "TRUE"].any (·.toList == t) then some true
  else if ["false", "False", "FALSE"].any (·.toList == t) then some false
  else none

/-- The value of a digit, whose base may be up to sixteen. -/
def digit? (base : Nat) (c : Char) : Option Nat :=
  let n := c.toNat
  let value? :=
    if 48 ≤ n && n ≤ 57 then some (n - 48)
    else if 97 ≤ n && n ≤ 102 then some (n - 87)
    else if 65 ≤ n && n ≤ 70 then some (n - 55)
    else none
  value?.filter (· < base)

/-- The number that a text of digits stands for. -/
def digits? (base : Nat) (t : Text) : Option Nat :=
  if t.isEmpty then none
  else t.foldlM (fun n c => (digit? base c).map (base * n + ·)) 0

/-- Digits behind a sign that a zero leads make no number. -/
def isPadded (t : Text) : Bool :=
  match t with
  | '0' :: rest => ! rest.isEmpty && rest.all Char.isDigit
  | _ => false

/-- The whole number without a sign that a text stands for, in decimal or in a base that its first
two characters name. -/
def natural? (t : Text) : Option Nat :=
  match t with
  | '0' :: 'x' :: rest => digits? 16 rest
  | '0' :: 'o' :: rest => digits? 8 rest
  | '0' :: 'b' :: rest => digits? 2 rest
  | t => if isPadded t then none else digits? 10 t

/-- A whole number with its sign. -/
def integer? : Text → Option Int
  | '+' :: t => (natural? t).map Int.ofNat
  | '-' :: t => (natural? t).map fun n => -Int.ofNat n
  | t => (natural? t).map Int.ofNat

/-- An exponent: digits that may have a sign. -/
def exponent? : Text → Option Int
  | '+' :: t => (digits? 10 t).map Int.ofNat
  | '-' :: t => (digits? 10 t).map fun n => -Int.ofNat n
  | t => (digits? 10 t).map Int.ofNat

/-- Whether `digits * 10 ^ exponent` is rounded to a finite double; the digits are `size` many. -/
def isFinite (digits size : Nat) (exponent : Int) : Bool :=
  if digits == 0 then true
  else if exponent < 0 then
    let places := exponent.natAbs
    size ≤ places || digits < Double.overflow * Nat.pow 10 places
  else exponent ≤ 310 && digits * Nat.pow 10 exponent.toNat < Double.overflow

/-- Whether a text without a sign is a decimal number that a double can hold. -/
def isDecimal (t : Text) : Bool :=
  let isMark := fun c => c == 'e' || c == 'E'
  let mantissa := t.takeWhile (! isMark ·)
  let rest := t.dropWhile (! isMark ·)
  let whole := mantissa.takeWhile (· != '.')
  let fraction := (mantissa.dropWhile (· != '.')).drop 1
  let exponent? := if rest.isEmpty then some 0 else exponent? rest.tail
  match digits? 10 (whole ++ fraction), exponent? with
  | some digits, some exponent =>
    isFinite digits (whole ++ fraction).length (exponent - fraction.length)
  | _, _ => false

/-- Whether a text stands for a number with a point, an exponent or neither, for an infinite one,
or for none that is a number. -/
def isFloat (t : Text) : Bool :=
  let unsigned := match t with
    | '+' :: rest => rest
    | '-' :: rest => rest
    | rest => rest
  [".inf", ".Inf", ".INF"].any (·.toList == unsigned) ||
    [".nan", ".NaN", ".NAN"].any (·.toList == t) || (! isPadded unsigned && isDecimal unsigned)

end LiveMarkup.Yaml.Word
