import LiveMarkup.Double
import LiveMarkup.Text

/-!
Which JSON numbers a double can hold. A literal is read as at most sixty-four bits of digits times a
power of ten; it fits unless the product of both, each rounded to a double, is infinite.
-/

namespace LiveMarkup.Json

/-- A number of the form `digits * 10 ^ exponent`. -/
structure Scaled where
  digits : Nat
  exponent : Int

def digitsOf (t : Text) : List Nat :=
  t.map fun c => c.toNat - 48

def ofDigits (ds : List Nat) : Nat :=
  ds.foldl (fun n d => 10 * n + d) 0

/-- Takes digits as long as the number stays below `2 ^ 64`. -/
def takeWord (n : Nat) : List Nat → Nat × List Nat
  | [] => (n, [])
  | d :: ds => if 10 * n + d < Nat.pow 2 64 then takeWord (10 * n + d) ds else (n, d :: ds)

/-- The whole number that an exponent part stands for. -/
def exponentOf (t : Text) : Int :=
  match t with
  | '-' :: ds => -(ofDigits (digitsOf ds) : Int)
  | '+' :: ds => ofDigits (digitsOf ds)
  | ds => ofDigits (digitsOf ds)

/-- Reads a literal: digits beyond the word only scale it when they stand before the point. -/
def Scaled.ofLiteral (literal : Text) : Scaled :=
  let unsigned := if literal.head? == some '-' then literal.tail else literal
  let isMark := fun c => c == 'e' || c == 'E'
  let mantissa := unsigned.takeWhile (! isMark ·)
  let exponent := exponentOf ((unsigned.dropWhile (! isMark ·)).drop 1)
  let whole := digitsOf (mantissa.takeWhile (· != '.'))
  let fraction := digitsOf ((mantissa.dropWhile (· != '.')).drop 1)
  match takeWord 0 whole with
  | (n, []) =>
    let (m, left) := takeWord n fraction
    ⟨m, exponent - (fraction.length - left.length : Nat)⟩
  | (n, left) => ⟨n, exponent + left.length⟩

def Scaled.fits (s : Scaled) : Bool :=
  s.digits == 0 || s.exponent < 0 ||
    (s.exponent ≤ 308 &&
      Double.round s.digits * Double.round (Nat.pow 10 s.exponent.toNat) < Double.overflow)

/-- Whether a double can hold the number; a literal of digits alone is held as an integer or
rounded. -/
def fits (literal : Text) : Bool :=
  (Scaled.ofLiteral literal).fits

end LiveMarkup.Json
